/-
How a record of settings looks up its variables. Each field has one variable, whose name is that of
the field behind a stem. Arguments can change the rules of the look-up for one record; the names of
these arguments start with an underscore and are matched exactly.
-/
import RecordStore.Settings.Arguments
import RecordStore.Settings.Failure
import RecordStore.Value.Text

namespace RecordStore

/-- How often a name is split. -/
inductive Splits where
  | unbounded
  | atMost (n : Nat)
  /-- A number that no text has so many parts for, and no machine word holds. -/
  | outOfRange
  /-- A fraction. -/
  | notWhole (k : Kind)
  deriving DecidableEq, Repr

namespace Splits

/-- The number of splits below a bound on the number of parts. What counts as false is no bound,
and neither is a negative number. -/
def ofPartsInt (n : Int) : Splits :=
  if n = 0 then .unbounded
  else if n - 1 < -Int.pow 2 63 ∨ Int.pow 2 63 ≤ n - 1 then .outOfRange
  else if n < 0 then .unbounded
  else .atMost (n - 1).toNat

/-- The number of splits below a bound on the number of parts. -/
def ofParts (v : Value) : Except Misuse Splits :=
  if v.truthy then
    match v with
    | .int n => .ok (ofPartsInt n)
    | .bool _ => .ok (ofPartsInt 1)
    | .float _ => .ok (.notWhole v.kind)
    | _ => .error (.notCount v.kind)
  else .ok .unbounded

/-- The splits as a bound for a text with `n` characters. -/
def bound (n : Nat) : Splits → Except SettingsFailure Nat
  | .unbounded => .ok n
  | .atMost m => .ok m
  | .outOfRange => .error .splitsOutOfRange
  | .notWhole k => .error (.misuse (.notWhole k))

end Splits

/-- The rules by which variables are looked up. -/
structure Lookup where
  /-- What the names of variables start with; `none` for what is no text. -/
  stem : Option String
  /-- Whether the case of names matters. -/
  caseMatters : Bool := false
  /-- Whether a variable with an empty text counts as not set. -/
  skipsEmpty : Bool := false
  /-- The text that stands for null. -/
  nullText : Option String := none
  /-- What stands in the name of a variable between a field and a field of a nested record. -/
  delimiter : Option Value := none
  splits : Splits := .unbounded
  deriving Repr

namespace Lookup

/-- What an argument says about the rules; null says nothing. -/
def argument? (as : Arguments) (name : String) : Option Value :=
  (as.givenAs? name).bind fun v => if v.isNull then none else some v

/-- Whether an argument is given and counts as true. -/
def isTrue (as : Arguments) (name : String) : Bool :=
  ((argument? as name).map Value.truthy).getD false

/-- The stem of a record under its arguments, which has to have a length. There is an argument that
leaves the stem out. -/
def stemOf (record : SettingsRecord) (as : Arguments) : Except Misuse (Option String) :=
  let stands := match argument? as "_env_prefix_target" with
    | none => true
    | some (.text target) => target = "variable" || target = "all"
    | some _ => false
  let stem := (argument? as "_env_prefix").getD (.text record.stem)
  if stem.elements?.isNone then .error (.noLength stem.kind)
  else .ok (if stands then stem.text? else some "")

/-- The rules for a record under its arguments. -/
def ofArguments (record : SettingsRecord) (as : Arguments) : Except Misuse Lookup := do
  let splits ← Splits.ofParts ((argument? as "_env_nested_max_split").getD .null)
  let stem ← stemOf record as
  return {
    stem, splits
    caseMatters := isTrue as "_case_sensitive"
    skipsEmpty := isTrue as "_env_ignore_empty"
    nullText := (argument? as "_env_parse_none_str").bind Value.text?
    delimiter := (argument? as "_env_nested_delimiter").filter Value.truthy }

/-- A name as it is compared. -/
def fold (l : Lookup) (name : String) : String := if l.caseMatters then name else lowerText name

/-- The name of a field's variable, as it is compared. -/
def variableName (l : Lookup) (field : String) : String := l.fold (l.stem.getD "" ++ field)

end Lookup

end RecordStore
