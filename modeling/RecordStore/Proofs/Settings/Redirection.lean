/-
Which database a client opens. It is the one that its settings name, in every run and through either driver. A
client that is built from a path opens that path, one that is built from arguments with a path opens the path
that the arguments name, and one that is built without any of them opens a database in memory while the
environment asks for tests, unless the program keeps settings that it loaded before. So the surroundings can keep
such a client from being built, and they decide how long it waits and whether it enforces foreign keys, but they
cannot lead it to another database.
-/
import RecordStore.Proofs.Lifecycle.Failures
import RecordStore.Proofs.Settings.Precedence
import RecordStore.Proofs.Sqlite.Preparation

namespace RecordStore

/-! ## The calls of operations -/

namespace Operation

variable {B : Boundary} {P : B.Call → Prop} {op : Operation B} {es : List (Event B)} {v : Option Value}
  {at? : Option (Phase B)}

/-- All calls of the operation are like this, whatever state and whatever handle it finds. -/
def CallsAll (P : B.Call → Prop) : Operation B → Prop
  | .free start => ∀ s, (start s).Calls P
  | .guarded _ body => ∀ v, (body v).Calls P

theorem CallsAll.through {P : StorageCall → Prop} {Q : B.Call → Prop} {d : Driver B} {op : Operation Storage}
    (hd : ∀ k, P k → (d k).Calls Q) (h : op.CallsAll P) : (op.through d).CallsAll Q := by
  cases op with
  | free start => exact fun s => Program.Makes.interpret (B := Storage) hd (h s)
  | guarded refusal body => exact fun v => Program.Makes.interpret (B := Storage) hd (h v)

theorem Course.calledAll (hcourse : op.Course es v at?) (h : op.CallsAll P) {k : B.Call} (hk : .called k ∈ es) :
    P k := by
  cases op with
  | free start =>
    obtain ⟨rest, hwhole⟩ := hcourse.completes
    have hmem := List.mem_append_left rest hk
    generalize es ++ rest = all at hwhole hmem
    cases hwhole with
    | @ended start s gs a hends => exact hends.calls (h s) k (by simpa using hmem)
  | guarded refusal body =>
    obtain ⟨w, gs, a, -, hends, hgs⟩ := hcourse.happens hk trivial nofun
    exact hends.calls (h w) k hgs

end Operation

/-! ## Opening -/

/-- The call opens no other database. -/
def StorageCall.Opens (path : String) (k : StorageCall) : Prop := ∀ v, k = .open v → v = .text path

/-- The call connects to no other database. -/
def ConnectionCall.Connects (path : String) (k : ConnectionCall) : Prop := ∀ v t, k = .connect v t → v = .text path

/-- Every request opens no database but that of its client. -/
theorem Request.operation_opens (path : String) (r : Request) :
    (r.operation path).CallsAll (StorageCall.Opens path) := by
  by_cases hconnect : r = .connect
  · subst hconnect
    intro s
    cases s with
    | connected | closed => trivial
    | unconnected =>
      refine ⟨fun v hv => (StorageCall.open.inj hv).symm, fun x => ?_⟩
      cases x with
      | ok w => exact ⟨trivial, trivial⟩
      | error f => trivial
  by_cases hclose : r = .close
  · subst hclose
    exact fun v => ⟨trivial, nofun, fun x => by cases x <;> trivial⟩
  have hstates := Request.operation_states path ⟨hconnect, hclose⟩
  generalize r.operation path = op at hstates
  cases op with
  | free start => exact hstates.elim
  | guarded refusal body => exact fun v => (hstates v).mono (fun k hk => by cases hk <;> nofun) id

namespace Sqlite

theorem driver_connects (o : Options) {path : String} {k : StorageCall} (hk : k.Opens path) :
    (driver o k).Calls (ConnectionCall.Connects path) := by
  have hreading (v : Value) (s : Statement) (fetch : ConnectionCall) (hfetch : fetch.Connects path) :
      (reading v s fetch).Calls (ConnectionCall.Connects path) := by
    exact (request_calls nofun).andThen fun _ => (request_calls hfetch).ensuring (request_calls nofun)
  cases k with
  | «open» v =>
    have hprepare (w : Value) : (prepare o w).Calls (ConnectionCall.Connects path) := by
      refine (request_calls nofun).andThen fun _ => ?_
      split
      · exact (request_calls nofun).andThen fun _ => request_calls nofun
      · trivial
    refine (request_calls fun u t hu => ?_).andThen fun w => (hprepare w).bind fun r => ?_
    · rw [← (ConnectionCall.connect.inj hu).1]
      exact hk v rfl
    · cases r with
      | ok _ => trivial
      | error f =>
        dsimp only
        split
        · exact (request_calls nofun).andThen fun _ => trivial
        · trivial
  | execute v s =>
    have hcounting : (counting v s).Calls (ConnectionCall.Connects path) :=
      (request_calls nofun).andThen fun _ => (request_calls nofun).ensuring (request_calls nofun)
    exact hcounting.andThen fun _ => (request_calls nofun).andThen fun _ => trivial
  | queryAll v s => exact (hreading v s .fetchAll nofun).andThen fun _ => trivial
  | queryOne v s => exact (hreading v s .fetchOne nofun).andThen fun _ => trivial
  | close v => exact (request_calls nofun).andThen fun _ => trivial

end Sqlite

namespace Setup

variable {path : String} {ids : IdSource} {i : Nat} {v : Value}

/-- Whatever is asked of a client, it opens its own database. -/
theorem play_opens {ms : List (Move Value)}
    (h : (i, .called (.open v)) ∈ ((Setup.direct path ids).play ms).history) : v = .text path := by
  obtain ⟨job, hjob⟩ := play_started (Setup.direct path ids) ms h
  obtain ⟨w, at?, hcourse, -⟩ := play_course (direct_tells path ids) hjob
  rw [direct_operation] at hcourse
  exact hcourse.calledAll (Request.operation_opens path job.request) (mem_eventsOf.2 h) v rfl

theorem play_connects {o : Sqlite.Options} {ms : List (Move ConnectionReturn)} {t : Value}
    (h : (i, .called (.connect v t)) ∈ ((Setup.sqlite path o ids).play ms).past) : v = .text path := by
  obtain ⟨job, hjob⟩ := play_started (Setup.sqlite path o ids) ms h
  obtain ⟨w, at?, hcourse, -⟩ := sqlite_course hjob
  have hcalls := (Request.operation_opens path job.request).through fun k hk => Sqlite.driver_connects o hk
  exact hcourse.calledAll hcalls (mem_eventsOf.2 h) v t rfl

end Setup

/-- The driver's options under database settings. -/
def DatabaseSettings.options (d : DatabaseSettings) : Sqlite.Options := ⟨.float d.timeout, d.foreignKeys⟩

/-- In every run, a client with these settings opens this database and no other one, whether its storage is any
engine or an SQLite database. Connecting does open it. -/
structure DatabaseSettings.OpensOnly (d : DatabaseSettings) (path : String) : Prop where
  opened : ∀ ids ms i v, (i, .called (.open v)) ∈ ((Setup.direct d.path ids).play ms).history → v = .text path
  connected : ∀ ids ms i v t, (i, .called (.connect v t)) ∈ ((Setup.sqlite d.path d.options ids).play ms).past →
    v = .text path
  opens : ∀ ids, (0, .called (.open (.text path))) ∈
    ((Setup.direct d.path ids).play [.start ⟨.connect, []⟩, .turn 0]).history
  connects : ∀ ids, (0, .called (.connect (.text path) (.float d.timeout))) ∈
    ((Setup.sqlite d.path d.options ids).play [.start ⟨.connect, []⟩, .turn 0]).past

theorem DatabaseSettings.opensOnly_path (d : DatabaseSettings) : d.OpensOnly d.path where
  opened _ _ _ _ := Setup.play_opens
  connected _ _ _ _ _ := Setup.play_connects
  opens ids := by
    have called : ((Setup.direct d.path ids).play [.start ⟨.connect, []⟩, .turn 0]).history[1]? =
      some (0, .called (.open (.text d.path))) := rfl
    exact List.mem_of_getElem? called
  connects ids := by
    -- what follows the connecting depends on the foreign keys
    obtain ⟨path, timeout, foreignKeys⟩ := d
    have called : ((Setup.sqlite path ⟨.float timeout, foreignKeys⟩ ids).play
        [.start ⟨.connect, []⟩, .turn 0]).past[1]? =
      some (0, .called (.connect (.text path) (.float timeout))) := by cases foreignKeys <;> rfl
    exact List.mem_of_getElem? called

theorem DatabaseSettings.OpensOnly.path_eq {d : DatabaseSettings} {path : String} (h : d.OpensOnly path) :
    d.path = path :=
  Value.text.inj (h.opened (fun n => .ok (.int n)) _ 0 (.text d.path) (d.opensOnly_path.opens _))

/-! ## Configurations -/

namespace Configuration

/-- What a program does with its configuration. -/
inductive Change where
  | set (name value : String)
  | unset (name : String)
  | write (text : Option String)
  | forget
  | load
  | build (config : ClientConfig)

/-- The configuration behind a change. A variable that the environment cannot hold is not set. -/
def change (c : Configuration) : Change → Configuration
  | .set name value => (c.setVariable name value).toOption.getD c
  | .unset name => c.unsetVariable name
  | .write text => c.writeFile text
  | .forget => c.forget
  | .load => c.settings.1
  | .build config => (c.clientSettings config).1

/-- The environment asks for tests. -/
def Testing (c : Configuration) : Prop := ∃ t, c.surroundings.env.get? "DBDM_TEST_MODE" = some t ∧ t ≠ ""

/-- The settings that are loaded, if any, were loaded while the environment asked for tests. -/
inductive LoadedInTest : Configuration → Prop where
  | unloaded {c : Configuration} (fresh : c.loaded = none) : LoadedInTest c
  /-- While the environment asks for tests, settings may be loaded. -/
  | testing {c : Configuration} (before : LoadedInTest c) (d : Change) (testing : c.Testing) :
    LoadedInTest (c.change d)
  /-- While it does not, none are. -/
  | keeping {c : Configuration} (before : LoadedInTest c) (d : Change) (kept : (c.change d).loaded = c.loaded) :
    LoadedInTest (c.change d)

/-- Settings that are loaded keep the database in memory. -/
def InMemory (c : Configuration) : Prop := ∀ l ∈ c.loaded, l.settings.db.path = ":memory:"

variable {c : Configuration}

/-- Loading settings leaves the surroundings alone. -/
theorem settings_surroundings (c : Configuration) : c.settings.1.surroundings = c.surroundings := by
  unfold settings
  split
  · rfl
  · split <;> rfl

theorem settings_inMemory (htest : c.Testing) (hc : c.InMemory) :
    c.settings.1.InMemory ∧ ∀ l, c.settings.2 = .ok l → l.settings.db.path = ":memory:" := by
  obtain ⟨t, ht, hne⟩ := htest
  unfold settings
  cases hloaded : c.loaded with
  | some l =>
    refine ⟨hc, fun l' hl' => hc l' ?_⟩
    rw [hloaded, Except.ok.inj hl']
    rfl
  | none =>
    dsimp only
    cases hload : AppSettings.load c.surroundings with
    | error e => exact ⟨hc, nofun⟩
    | ok a =>
      have hpath : a.db.path = ":memory:" := AppSettings.load_testing ht hne hload
      constructor
      · rintro l ⟨⟩
        exact hpath
      · rintro l ⟨⟩
        exact hpath

/-- No change loads settings for another database while the environment asks for tests. -/
theorem change_inMemory (htest : c.Testing) (hc : c.InMemory) (d : Change) : (c.change d).InMemory := by
  cases d with
  | set name value =>
    show ((c.setVariable name value).toOption.getD c).InMemory
    unfold setVariable
    cases c.surroundings.env.set name value <;> exact hc
  | unset name => exact hc
  | write text => exact hc
  | forget => exact nofun
  | load => exact (settings_inMemory htest hc).1
  | build config =>
    cases config with
    | shared => exact (settings_inMemory htest hc).1
    | path p => exact hc
    | arguments as => exact hc

theorem LoadedInTest.inMemory (h : c.LoadedInTest) : c.InMemory := by
  induction h with
  | unloaded fresh =>
    intro l hl
    rw [fresh] at hl
    cases hl
  | testing _ d htest ih => exact change_inMemory htest ih d
  | keeping _ d kept ih =>
    intro l hl
    rw [kept] at hl
    exact ih l hl

theorem clientSettings_shared {d : DatabaseSettings} (h : (c.clientSettings .shared).2 = .ok d) :
    ∃ l, c.settings.2 = .ok l ∧ l.settings.db = d := by
  have hshared : c.settings.2.map (fun l => l.settings.db) = .ok d := h
  cases hload : c.settings.2 with
  | error e =>
    rw [hload] at hshared
    cases hshared
  | ok l =>
    rw [hload] at hshared
    exact ⟨l, rfl, Except.ok.inj hshared⟩

/-- Whatever the environment and the `.env` file hold, a client that is built from a path opens only that path, and
one that is built from arguments with a path opens only the path that the arguments name: that path itself, if
they bring along nothing that is stronger, and in any case the same one wherever it can be built. A client that is
built without configuration while the environment asks for tests opens only a database in memory, if the settings
that are loaded already were loaded while it did so. -/
theorem clientSettings_opensOnly (c : Configuration) :
    (∀ p d, (c.clientSettings (.path p)).2 = .ok d → d.OpensOnly p) ∧
    (∀ as p d, as.find? "path" = some (.value (.text p)) → (c.clientSettings (.arguments as)).2 = .ok d →
      (as.KeepsPath → d.OpensOnly p) ∧
        ∀ (c' : Configuration) d', (c'.clientSettings (.arguments as)).2 = .ok d' → d'.OpensOnly d.path) ∧
    (c.Testing → c.LoadedInTest → ∀ d, (c.clientSettings .shared).2 = .ok d → d.OpensOnly ":memory:") := by
  refine ⟨fun p d hd => ?_, fun as p d hpath hd => ⟨fun hkeeps => ?_, fun c' d' hd' => ?_⟩,
    fun htest hloaded d hd => ?_⟩
  · have hplain : Arguments.Plain [(.text "path", .value (.text p))] :=
      Arguments.plain_single (by decide) (by decide) _
    exact DatabaseSettings.load_path hplain.keepsPath rfl hd ▸ d.opensOnly_path
  · exact DatabaseSettings.load_path hkeeps hpath hd ▸ d.opensOnly_path
  · exact DatabaseSettings.load_path_eq hpath hd' hd ▸ d'.opensOnly_path
  · obtain ⟨l, hload, rfl⟩ := clientSettings_shared hd
    exact (settings_inMemory htest hloaded.inMemory).2 l hload ▸ l.settings.db.opensOnly_path

/-- The environment and the `.env` file name other databases in each way they can, and the arguments bring along a
command line with something else on it. -/
theorem clientSettings_opensOnly_hostile :
    let c : Configuration := {
      surroundings := {
        env := [("DBDM_DATABASE_PATH", "other.db"), ("DBDM_DB", "\x7b\"path\": \"other.db\"\x7d"),
          ("DBDM_TEST_MODE", "1")]
        file := some "dbdm_database_path=other.db" } }
    let as : Arguments := [(.text "_cli_parse_args", .value (.list [.text "--timeout", .text "1"])),
      (.text "path", .value (.text "a.db"))]
    (∃ d, (c.clientSettings (.path "a.db")).2 = .ok d ∧ d.OpensOnly "a.db") ∧
      (∃ d d', (c.clientSettings (.arguments as)).2 = .ok d ∧ d.OpensOnly "a.db" ∧
        (({} : Configuration).clientSettings (.arguments as)).2 = .ok d' ∧ d'.OpensOnly d.path) ∧
      ∃ d, ((c.change .load).clientSettings .shared).2 = .ok d ∧ d.OpensOnly ":memory:" := by
  intro c as
  have built {r : Except SettingsFailure DatabaseSettings} (h : r.isOk = true) : ∃ d, r = .ok d := by
    cases r with
    | error e => cases h
    | ok d => exact ⟨d, rfl⟩
  obtain ⟨onPath, onArguments, -⟩ := clientSettings_opensOnly c
  obtain ⟨-, -, inTest⟩ := clientSettings_opensOnly (c.change .load)
  have htest : c.Testing := ⟨"1", rfl, by decide⟩
  have htest' : (c.change .load).Testing := by
    rw [Testing, change, settings_surroundings]
    exact htest
  refine ⟨?_, ?_, ?_⟩
  · obtain ⟨d, hd⟩ := built (r := (c.clientSettings (.path "a.db")).2) (by decide +kernel)
    exact ⟨d, hd, onPath "a.db" d hd⟩
  · obtain ⟨d, hd⟩ := built (r := (c.clientSettings (.arguments as)).2) (by decide +kernel)
    obtain ⟨d', hd'⟩ := built (r := (({} : Configuration).clientSettings (.arguments as)).2) (by decide +kernel)
    obtain ⟨plain, same⟩ := onArguments as "a.db" d (by rfl) hd
    have hkeeps : as.KeepsPath :=
      ⟨by decide +kernel, by simp [as, Lookup.argument?, Arguments.givenAs?, Value.lookup?, Value.same]⟩
    exact ⟨d, d', hd, plain hkeeps, hd', same _ d' hd'⟩
  · obtain ⟨d, hd⟩ := built (r := ((c.change .load).clientSettings .shared).2) (by decide +kernel)
    exact ⟨d, hd, inTest htest' (.testing (.unloaded rfl) .load htest) d hd⟩

/-- Settings that were loaded before the environment asked for tests are kept, and a command line among the arguments
is stronger than the path beside it. -/
theorem not_clientSettings_opensOnly :
    let c := (({} : Configuration).change .load).change (.set "DBDM_TEST_MODE" "1")
    let as : Arguments := [(.text "path", .value (.text "a.db")),
      (.text "_cli_parse_args", .value (.list [.text "--path", .text "b.db"]))]
    (c.Testing ∧ ∃ d, (c.clientSettings .shared).2 = .ok d ∧ d.OpensOnly "dbdm.sqlite" ∧ ¬ d.OpensOnly ":memory:") ∧
      as.find? "path" = some (.value (.text "a.db")) ∧
        ∃ d, (c.clientSettings (.arguments as)).2 = .ok d ∧ d.OpensOnly "b.db" ∧ ¬ d.OpensOnly "a.db" := by
  intro c as
  have opens {r : Except SettingsFailure DatabaseSettings} {path other : String}
      (h : r.toOption.map DatabaseSettings.path = some path) (hother : path ≠ other) :
      ∃ d, r = .ok d ∧ d.OpensOnly path ∧ ¬ d.OpensOnly other := by
    cases r with
    | error e => cases h
    | ok d =>
      obtain rfl := Option.some.inj h
      exact ⟨d, rfl, d.opensOnly_path, fun h => hother h.path_eq⟩
  refine ⟨⟨⟨"1", by decide +kernel, by decide⟩, ?_⟩, by rfl, ?_⟩
  · exact opens (r := (c.clientSettings .shared).2) (by decide +kernel) (by decide)
  · exact opens (r := (c.clientSettings (.arguments as)).2) (by decide +kernel) (by decide)

end Configuration

end RecordStore
