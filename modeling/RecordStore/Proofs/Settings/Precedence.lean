/-
What the path of a database is taken from. An argument for a field is stronger than the environment and the
`.env` file, so what surrounds a program has no say in a field that its arguments name. Only what the arguments
themselves bring along is stronger, a command line or something in place of all sources, and that is the same
wherever the program runs. Database settings that are ready are stronger than whatever is given for them
elsewhere, since only arguments are merged with arguments.
-/
import RecordStore.Settings.Configuration

namespace RecordStore

theorem exists_of_bind_eq_ok {ε α β : Type} {x : Except ε α} {f : α → Except ε β} {b : β}
    (h : x >>= f = .ok b) : ∃ a, x = .ok a ∧ f a = .ok b := by
  cases x with
  | error e => cases h
  | ok a => exact ⟨a, rfl, h⟩

/-- What the command line among the arguments of database settings says of a field. -/
def Arguments.commandReading (as : Arguments) (field : String) : Reading :=
  match Sources.readCommandLine .database as with
  | .ok line =>
    Sources.reading { record := .database, commandLine := line, commandLookup := Sources.commandLookupOf as }
      .commandLine field
  | .error _ => .absent

/-- The arguments bring along nothing that is stronger than a path among them: their command line says nothing of
it, and nothing stands in place of all sources. -/
structure Arguments.KeepsPath (as : Arguments) : Prop where
  noCommand : as.commandReading "path" = .absent
  noSources : Lookup.argument? as "_build_sources" = none

/-- The arguments bring along no sources of their own: neither the words of a command line nor a pair in place of
all sources. -/
structure Arguments.Plain (as : Arguments) : Prop where
  noCommandLine : ∀ v ∈ Lookup.argument? as "_cli_parse_args", v.kind ≠ .list ∧ v.kind ≠ .tuple
  noSources : Lookup.argument? as "_build_sources" = none

theorem Arguments.plain_single {name : String} (hline : name ≠ "_cli_parse_args")
    (hsources : name ≠ "_build_sources") (g : Given) : Arguments.Plain [(.text name, g)] := by
  have hnone {other : String} (hother : name ≠ other) : Lookup.argument? [(.text name, g)] other = none := by
    simp [Lookup.argument?, Arguments.givenAs?, Value.lookup?, Value.same, hother]
  refine ⟨fun v hv => ?_, hnone hsources⟩
  rw [hnone hline] at hv
  cases hv

/-! ## Sources -/

namespace Sources

variable {s s' : Surroundings} {record : SettingsRecord} {as : Arguments} {sources sources' : Sources}
  {field : String} {g : Given}

/-- The sources have these arguments, with the command line among them. -/
structure Carries (sources : Sources) (record : SettingsRecord) (as : Arguments) : Prop where
  noSources : Lookup.argument? as "_build_sources" = none
  arguments : sources.arguments = as
  commandLookup : sources.commandLookup = commandLookupOf as
  commandLine : readCommandLine record as = .ok sources.commandLine

theorem ofPair_ok {v : Value} (h : ofPair record v = .ok sources) : sources = { record } := by
  unfold ofPair at h
  split at h
  · cases h
  · split at h
    · split at h <;> cases h
      rfl
    · cases h
      rfl
  · cases h

theorem ofArguments_ok (h : ofArguments s record as = .ok sources) :
    Lookup.argument? as "_build_sources" ≠ none ∧ sources = { record } ∨ sources.Carries record as := by
  unfold ofArguments at h
  dsimp only at h
  split at h
  · split at h
    · cases h
    · split at h
      · rename_i v hv
        exact .inl ⟨by rw [hv]; nofun, ofPair_ok h⟩
      · rename_i hnone
        obtain ⟨lookup, -, h⟩ := exists_of_bind_eq_ok h
        obtain ⟨file, -, h⟩ := exists_of_bind_eq_ok h
        obtain ⟨commandLine, hline, h⟩ := exists_of_bind_eq_ok h
        cases h
        exact .inr ⟨hnone, rfl, rfl, hline⟩
  · cases h

/-- Without a command line among the arguments, nothing is read from one. -/
theorem readCommandLine_plain (hplain : as.Plain) {line : Variables} (hline : readCommandLine record as = .ok line) :
    line = [] := by
  unfold readCommandLine at hline
  cases hv : Lookup.argument? as "_cli_parse_args" with
  | none =>
    rw [hv] at hline
    exact (Except.ok.inj hline).symm
  | some v =>
    obtain ⟨hlist, htuple⟩ := hplain.noCommandLine v hv
    rw [hv] at hline
    obtain ⟨style, -, hline⟩ := exists_of_bind_eq_ok hline
    split at hline
    · exact absurd rfl hlist
    · exact absurd rfl htuple
    · exact (Except.ok.inj hline).symm
    · exact (Except.ok.inj hline).symm
    · split at hline
      · exact (Except.ok.inj hline).symm
      · cases hline

theorem readings_commandLine_nil (h : sources.commandLine = []) : sources.readings .commandLine = [] := by
  unfold readings texts
  rw [h]
  rfl

theorem reading_absent {source : VariableSource} (h : sources.readings source = []) :
    sources.reading source field = .absent := by
  unfold reading
  rw [h]
  rfl

/-- What is given for a field that the arguments name is what the command line says of it, else the argument. -/
theorem given?_argument (h : sources.arguments.find? field = some g) :
    sources.given? field = some (((sources.reading .commandLine field).value?.map .value).getD g) := by
  unfold given?
  dsimp only
  rw [h]
  cases (sources.reading .commandLine field).value? <;> rfl

/-- What a command line says depends on nothing but itself. -/
theorem reading_commandLine_congr (hlookup : sources.commandLookup = sources'.commandLookup)
    (hline : sources.commandLine = sources'.commandLine) :
    sources.reading .commandLine field = sources'.reading .commandLine field := by
  unfold reading readings rules texts
  rw [hlookup, hline]

/-- The command line of database settings is that of their arguments. -/
theorem Carries.reading_commandLine (h : sources.Carries .database as) :
    sources.reading .commandLine field = as.commandReading field := by
  rw [Arguments.commandReading, h.commandLine]
  exact reading_commandLine_congr h.commandLookup rfl

/-- The surroundings have no say in a field that the arguments name. -/
theorem given?_eq (h : ofArguments s record as = .ok sources) (h' : ofArguments s' record as = .ok sources')
    (hg : as.find? field = some g) : sources.given? field = sources'.given? field := by
  rcases ofArguments_ok h with ⟨hbuilt, rfl⟩ | hcarries <;>
    rcases ofArguments_ok h' with ⟨hbuilt', rfl⟩ | hcarries'
  · rfl
  · exact absurd hcarries'.noSources hbuilt
  · exact absurd hcarries.noSources hbuilt'
  · rw [given?_argument (hcarries.arguments.symm ▸ hg), given?_argument (hcarries'.arguments.symm ▸ hg),
      reading_commandLine_congr (hcarries.commandLookup.trans hcarries'.commandLookup.symm)
        (Except.ok.inj (hcarries.commandLine.symm.trans hcarries'.commandLine))]

/-- A path among the arguments is given, if they bring along nothing that is stronger. -/
theorem given?_path (hkeeps : as.KeepsPath) (h : ofArguments s .database as = .ok sources)
    (hg : as.find? "path" = some g) : sources.given? "path" = some g := by
  rcases ofArguments_ok h with ⟨hbuilt, -⟩ | hcarries
  · exact absurd hkeeps.noSources hbuilt
  · rw [given?_argument (hcarries.arguments.symm ▸ hg), hcarries.reading_commandLine, hkeeps.noCommand]
    rfl

end Sources

/-- Arguments without sources of their own have nothing that is stronger than a path among them. -/
theorem Arguments.Plain.keepsPath {as : Arguments} (h : as.Plain) : as.KeepsPath where
  noSources := h.noSources
  noCommand := by
    unfold commandReading
    split
    · rename_i hline
      obtain rfl := Sources.readCommandLine_plain h hline
      exact Sources.reading_absent (Sources.readings_commandLine_nil rfl)
    · rfl

/-! ## Database settings -/

namespace DatabaseSettings

variable {s s' : Surroundings} {as : Arguments} {d d' : DatabaseSettings} {g : Given} {p : String}

theorem build_path {sources : Sources} (h : build sources = .ok d) :
    fieldOr "dbdm.sqlite" Given.asText (sources.given? "path") = .ok d.path := by
  unfold build at h
  dsimp only at h
  split at h
  · rename_i hpath _ _
    cases h
    exact hpath
  · cases h

theorem load_ok (h : load s as = .ok d) : ∃ sources, Sources.ofArguments s .database as = .ok sources ∧
    fieldOr "dbdm.sqlite" Given.asText (sources.given? "path") = .ok d.path := by
  obtain ⟨sources, hsources, h⟩ := exists_of_bind_eq_ok h
  obtain ⟨_, -, h⟩ := exists_of_bind_eq_ok h
  obtain ⟨_, -, h⟩ := exists_of_bind_eq_ok h
  refine ⟨sources, hsources, build_path ?_⟩
  cases hbuild : build sources with
  | error cs =>
    rw [hbuild] at h
    cases h
  | ok d' =>
    rw [hbuild] at h
    cases h
    rfl

/-- A path among the arguments is the path, if they bring along nothing that is stronger. -/
theorem load_path (hkeeps : as.KeepsPath) (hpath : as.find? "path" = some (.value (.text p)))
    (h : load s as = .ok d) : d.path = p := by
  obtain ⟨sources, hsources, hd⟩ := load_ok h
  rw [Sources.given?_path hkeeps hsources hpath] at hd
  exact (Except.ok.inj hd).symm

/-- Where a path is among the arguments, the surroundings have no say in it, whatever else the arguments say. -/
theorem load_path_eq (hpath : as.find? "path" = some g) (h : load s as = .ok d) (h' : load s' as = .ok d') :
    d.path = d'.path := by
  obtain ⟨sources, hsources, hd⟩ := load_ok h
  obtain ⟨sources', hsources', hd'⟩ := load_ok h'
  rw [Sources.given?_eq hsources hsources' hpath, hd'] at hd
  exact (Except.ok.inj hd).symm

end DatabaseSettings

/-! ## Settings of an application -/

namespace DatabaseGiven

/-- What is ready takes the place of what a weaker source gives. -/
theorem merge?_ready (weak : Option DatabaseGiven) (d : DatabaseSettings) :
    merge? weak (some (.ready d)) = some (.ready d) := by
  rcases weak with _ | _ | _ | _ <;> rfl

end DatabaseGiven

namespace AppSettings

variable {s : Surroundings} {as : Arguments} {a : AppSettings} {d : DatabaseSettings}

theorem assemble_db {logLevel : Except Problem String} {db : Except SettingsFailure DatabaseSettings}
    (h : assemble logLevel db = .ok a) : db = .ok a.db := by
  unfold assemble at h
  split at h
  · cases h
    rfl
  all_goals cases h

/-- A command line that says nothing says nothing about the database settings. -/
theorem databaseIn_nil {sources : Sources} {source : VariableSource} (h : sources.readings source = []) :
    databaseIn sources source = .ok none := by
  have hnested : sources.nestedEntries source "db" = .ok [] := by
    unfold Sources.nestedEntries
    rw [h]
    dsimp only
    split <;> rfl
  unfold databaseIn
  dsimp only
  rw [Sources.reading_absent h, hnested]
  rfl

/-- Database settings that are ready stay what they are. -/
theorem build_ready (hplain : as.Plain) (h : build s as (some d) = .ok a) : a.db = d := by
  obtain ⟨sources, hsources, h⟩ := exists_of_bind_eq_ok h
  obtain ⟨commandLine, hline, h⟩ := exists_of_bind_eq_ok h
  obtain ⟨_, -, h⟩ := exists_of_bind_eq_ok h
  obtain ⟨env, -, h⟩ := exists_of_bind_eq_ok h
  obtain ⟨file, -, h⟩ := exists_of_bind_eq_ok h
  obtain ⟨_, -, h⟩ := exists_of_bind_eq_ok h
  rcases Sources.ofArguments_ok hsources with ⟨hbuilt, -⟩ | hcarries
  · exact absurd hplain.noSources hbuilt
  have hempty := Sources.readCommandLine_plain hplain hcarries.commandLine
  rw [databaseIn_nil (Sources.readings_commandLine_nil hempty)] at hline
  cases hline
  have hgiven : DatabaseGiven.merge? file (DatabaseGiven.merge? env (some (.ready d))) = some (.ready d) := by
    rw [DatabaseGiven.merge?_ready, DatabaseGiven.merge?_ready]
  have hnested : nested s (DatabaseGiven.merge? file (DatabaseGiven.merge? env (some (.ready d)))) = .ok a.db :=
    assemble_db h
  rw [hgiven] at hnested
  exact (Except.ok.inj hnested).symm

/-- With settings for tests, the database is kept in memory. -/
theorem load_testing {t : String} (ht : s.env.get? "DBDM_TEST_MODE" = some t) (hne : t ≠ "")
    (h : load s = .ok a) : a.db.path = ":memory:" := by
  unfold load at h
  rw [ht] at h
  split at h
  · cases ‹some t = none›
  · exact absurd (Option.some.inj ‹_›) hne
  · obtain ⟨d, hd, h⟩ := exists_of_bind_eq_ok h
    rw [build_ready (Arguments.plain_single (by decide) (by decide) _) h]
    exact DatabaseSettings.load_path (Arguments.plain_single (by decide) (by decide) _).keepsPath rfl hd

end AppSettings

end RecordStore
