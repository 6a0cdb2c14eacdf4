/-
Variables of the environment: names and texts in the order in which the names were first set.
-/
namespace RecordStore

/-- The variables of the environment. -/
abbrev Variables := List (String × String)

/-- Why the environment cannot hold a variable. -/
inductive UnsettableVariable where
  /-- The name or the text has a character of code zero. -/
  | zeroCharacter
  /-- The name has an equals sign. -/
  | equalsSign
  /-- The name is empty. -/
  | noName
  deriving DecidableEq, Repr

namespace UnsettableVariable

def message : UnsettableVariable → String
  | .zeroCharacter => "embedded null byte"
  | .equalsSign => "illegal environment variable name"
  | .noName => "[Errno 22] Invalid argument"

/-- Looks for a reason not to hold a variable. -/
def check? (name value : String) : Option UnsettableVariable :=
  if name.toList.contains '\x00' || value.toList.contains '\x00' then some .zeroCharacter
  else if name.toList.contains '=' then some .equalsSign
  else if name.isEmpty then some .noName
  else none

end UnsettableVariable

namespace Variables

/-- Puts a variable in its place if it is there, else as the last one. -/
def put (name value : String) : Variables → Variables
  | [] => [(name, value)]
  | (n, v) :: vs => if n = name then (n, value) :: vs else (n, v) :: put name value vs

/-- Sets a variable. -/
def set (name value : String) (vs : Variables) : Except UnsettableVariable Variables :=
  match UnsettableVariable.check? name value with
  | some e => .error e
  | none => .ok (vs.put name value)

/-- Removes a variable. -/
def unset (name : String) (vs : Variables) : Variables := vs.filter fun v => v.1 ≠ name

/-- The text of the variable with exactly this name. -/
def get? (name : String) (vs : Variables) : Option String := vs.lookup name

end Variables

end RecordStore
