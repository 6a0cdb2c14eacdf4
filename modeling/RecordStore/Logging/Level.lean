/-
Log levels. A level is a number; some numbers have names, and a name may stand for a number or for
nothing known.
-/
import RecordStore.Text.UpperCase

namespace RecordStore

/-- The level a name stands for. -/
inductive NamedLevel where
  | known (n : Int)
  /-- A name that stands for no level. -/
  | unknown (name : String)
  deriving DecidableEq, Repr

/-- The levels that have names. -/
def levelNames : List (String × Int) := [
  ("CRITICAL", 50), ("FATAL", 50), ("ERROR", 40), ("WARN", 30), ("WARNING", 30), ("INFO", 20),
  ("DEBUG", 10), ("NOTSET", 0)]

/-- The level with a name. -/
def NamedLevel.ofName (name : String) : NamedLevel :=
  match levelNames.lookup name with
  | some n => .known n
  | none => .unknown name

/-- The text an unknown name is reported with in place of a level. -/
def unknownLevelText (name : String) : String := "Level " ++ name

/-- The name of a level in a log line. -/
def levelName (n : Int) : String :=
  if n = 50 then "CRITICAL"
  else if n = 40 then "ERROR"
  else if n = 30 then "WARNING"
  else if n = 20 then "INFO"
  else if n = 10 then "DEBUG"
  else if n = 0 then "NOTSET"
  else "Level " ++ toString n

end RecordStore
