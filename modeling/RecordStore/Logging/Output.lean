/-
The log output of a program: whether records are written to the standard output, and from which
level on. It is configured once; later configurations change nothing.
-/
import RecordStore.Settings.App
import RecordStore.Text.Quoted

namespace RecordStore

/-- The state of the log output. -/
structure LogOutput where
  /-- Whether a handler writes records to the standard output. -/
  attached : Bool := false
  /-- The level a record has to reach. -/
  level : Int := 30
  deriving DecidableEq, Repr

/-- Why the log output could not be configured. -/
inductive LogFailure where
  | unknownLevel (name : String)
  | settings (failure : SettingsFailure)
  deriving Repr

/-- The message of an unknown level. -/
def unknownLevelMessage (name : String) : String :=
  "Unknown level: " ++ quotedText (unknownLevelText name)

namespace LogOutput

/-- Attaches the handler and then sets the level, unless a handler is attached already. An unknown
level leaves the handler attached. -/
def configure (o : LogOutput) (level : NamedLevel) : LogOutput × Option LogFailure :=
  if o.attached then (o, none)
  else
    match level with
    | .known n => ({ attached := true, level := n }, none)
    | .unknown name => ({ o with attached := true }, some (.unknownLevel name))

/-- Configures the output by settings that may have failed to be built. -/
def configureBy (o : LogOutput) : Except SettingsFailure AppSettings → LogOutput × Option LogFailure
  | .error e => (o, some (.settings e))
  | .ok a => o.configure a.level

/-- Whether a record of this level is written: levels up to zero never are. -/
def writes (o : LogOutput) (level : Int) : Bool := o.attached && 0 < level && o.level ≤ level

/-- The line of a record; the logger without a name is the root. -/
def line (time logger : String) (level : Int) (message : String) : String :=
  time ++ " - " ++ (if logger = "" then "root" else logger) ++ " - " ++ levelName level ++ " - " ++
    message ++ "\n"

/-- What is written for a record. -/
def emit (o : LogOutput) (time logger : String) (level : Int) (message : String) : String :=
  if o.writes level then line time logger level message else ""

end LogOutput

end RecordStore
