/-
The settings of a database: where its file is, how long to wait while it is locked, and whether
foreign keys are enforced.
-/
import RecordStore.Settings.Convert
import RecordStore.Settings.Sources

namespace RecordStore

structure DatabaseSettings where
  path : String := "dbdm.sqlite"
  timeout : Double := .ofInt 5
  foreignKeys : Bool := true
  deriving Repr

namespace DatabaseSettings

/-- Builds the settings from their sources. All fields are checked. -/
def build (s : Sources) : Except (List Complaint) DatabaseSettings :=
  let defaults : DatabaseSettings := {}
  let path := fieldOr defaults.path Given.asText (s.given? "path")
  let timeout := fieldOr defaults.timeout (Given.convert Value.asDuration) (s.given? "timeout")
  let foreignKeys :=
    fieldOr defaults.foreignKeys (Given.convert Value.asFlag) (s.given? "foreign_keys")
  match path, timeout, foreignKeys with
  | .ok p, .ok t, .ok f => .ok ⟨p, t, f⟩
  | _, _, _ => .error (complaints "path" path ++ complaints "timeout" timeout ++
      complaints "foreign_keys" foreignKeys)

/-- Builds database settings on their own, from named arguments. -/
def load (s : Surroundings) (arguments : Arguments) :
    Except SettingsFailure DatabaseSettings := do
  let sources ← Sources.ofArguments s .database arguments
  sources.checkStem
  sources.checkSecrets
  (build sources).mapError (.rejected .database)

end DatabaseSettings

end RecordStore
