/-
The settings of an application: its log level and its database. The database settings may be given
as an argument and, as JSON, in a variable of the environment or the `.env` file. What a source
gives is merged with what the stronger sources give together: of two mappings the stronger one wins
at each name, and anything else that is stronger takes the place. Given nowhere, the database
settings are built on their own.
-/
import RecordStore.Logging.Level
import RecordStore.Settings.Database
import RecordStore.Settings.Nested

namespace RecordStore

structure AppSettings where
  logLevel : String := "INFO"
  db : DatabaseSettings := {}
  deriving Repr

/-- What is given for the database settings of an application. -/
inductive DatabaseGiven where
  /-- Arguments to build them from. -/
  | arguments (as : Arguments)
  /-- Settings that are ready. -/
  | ready (d : DatabaseSettings)
  /-- Something that can be neither. -/
  | unusable
  deriving Repr

namespace DatabaseGiven

/-- What an argument gives. -/
def ofArgument : Given → DatabaseGiven
  | .value (.map es) => .arguments (.ofEntries es)
  | _ => .unusable

/-- Merges what a weaker source gives with what a stronger one gives. -/
def merge : DatabaseGiven → DatabaseGiven → DatabaseGiven
  | .arguments weak, .arguments strong => .arguments (weak.merge strong)
  | _, strong => strong

/-- Merges what two sources may give. -/
def merge? : Option DatabaseGiven → Option DatabaseGiven → Option DatabaseGiven
  | weak, none => weak
  | none, strong => strong
  | some weak, some strong => some (weak.merge strong)

end DatabaseGiven

namespace AppSettings

/-- The value of the log level. -/
def level (a : AppSettings) : NamedLevel := NamedLevel.ofName (upperText a.logLevel)

/-- What a source gives for the database settings: JSON in the variable for them, to which the
variables for single fields are added. Without the former there may be just the latter. -/
def databaseIn (s : Sources) (source : VariableSource) :
    Except SettingsFailure (Option DatabaseGiven) :=
  let toArguments (es : Entries) : Option DatabaseGiven :=
    some (.arguments ((s.rules source).objectArguments .database es))
  match s.reading source "db" with
  | .absent => do
    let single ← s.nestedEntries source "db"
    return if single.isEmpty then none else toArguments single
  | .null => .ok (some .unusable)
  | .text t =>
    match Value.ofJson t with
    | .error .malformed => .error (.notJson source)
    | .error (.tooDeep n) => .error (.tooDeep n)
    | .ok .null => .ok none
    | .ok (.map es) => do
      let single ← s.nestedEntries source "db"
      return toArguments (single.foldl (fun es e => Value.put e.1 e.2 es) es)
    | .ok _ => .ok (some .unusable)

/-- Puts the settings together. The log level is reported before the database settings, but a
failure to build these at all comes first. -/
def assemble (logLevel : Except Problem String)
    (db : Except SettingsFailure DatabaseSettings) : Except SettingsFailure AppSettings :=
  match logLevel, db with
  | .ok l, .ok d => .ok ⟨l, d⟩
  | _, .ok _ => .error (.rejected .app (complaints "log_level" logLevel))
  | _, .error (.rejected .app cs) =>
    .error (.rejected .app (complaints "log_level" logLevel ++ cs))
  | _, .error e => .error e

/-- Builds the nested database settings. -/
def nested (s : Surroundings) : Option DatabaseGiven → Except SettingsFailure DatabaseSettings
  | none => DatabaseSettings.load s []
  | some (.ready d) => .ok d
  | some .unusable => .error (.rejected .app [⟨["db"], .notSettings⟩])
  | some (.arguments as) => (DatabaseSettings.load s as).mapError (.inside .app "db")

/-- Builds the settings from named arguments. Database settings may be ready beside them. -/
def build (s : Surroundings) (arguments : Arguments) (ready : Option DatabaseSettings) :
    Except SettingsFailure AppSettings := do
  let sources ← Sources.ofArguments s .app arguments
  let commandLine ← databaseIn sources .commandLine
  sources.checkStem
  let env ← databaseIn sources .environment
  let file ← databaseIn sources .file
  sources.checkSecrets
  let argument := ready.map .ready <|> (sources.arguments.find? "db").map .ofArgument
  let db := [file, env, argument, commandLine].foldr DatabaseGiven.merge? none
  assemble (fieldOr "INFO" Given.asText (sources.given? "log_level")) (nested s db)

/-- Builds the settings from named arguments. -/
def ofArguments (s : Surroundings) (arguments : Arguments) : Except SettingsFailure AppSettings :=
  build s arguments none

/-- Builds the settings of a program: those for tests if the environment asks for them, which keep
the database in memory, else those that the surroundings give. -/
def load (s : Surroundings) : Except SettingsFailure AppSettings :=
  match s.env.get? "DBDM_TEST_MODE" with
  | none | some "" => build s [] none
  | some _ => do
    let d ← DatabaseSettings.load s [(.text "path", .value (.text ":memory:"))]
    build s [(.text "log_level", .value (.text "DEBUG"))] (some d)

end AppSettings

end RecordStore
