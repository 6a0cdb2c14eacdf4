/-
Conversion of values to the types of settings. Settings come from programs and from texts, so a
number may be written as a numeral and a truth value as a word.
-/
import RecordStore.Double.Decimal
import RecordStore.Text.AsciiCase
import RecordStore.Text.Blank
import RecordStore.Value.Convert
import RecordStore.Value.Equality

namespace RecordStore.Value

/-- A text, or what bytes encode; `problem` is reported for bytes that are not UTF-8. A buffer is
neither here. -/
def written? (problem : Problem) : Value → Option (Except Problem String)
  | .text s => some (.ok s)
  | .bytes bs => some (match decodeUtf8? bs with
    | some s => .ok s
    | none => .error problem)
  | _ => none

/-- Whether underscores stand only between other characters, and one at a time. -/
def groupsDigits (cs : List Char) : Bool :=
  cs.head? ≠ some '_' && cs.getLast? ≠ some '_' &&
    (cs.zip (cs.drop 1)).all (· ≠ ('_', '_'))

/-- The number that a text stands for: a numeral with white space around it, or one whose digits
are grouped with underscores. -/
def numeral? (s : String) : Option Double :=
  let cs := s.toList
  match Double.ofNumeral? (dropLastWhile isWhiteSpace (cs.dropWhile isWhiteSpace)) with
  | some x => some x
  | none =>
    if cs.contains '_' && groupsDigits cs then Double.ofNumeral? (cs.filter (· ≠ '_')) else none

/-- A number: a float, an integer in the range of floats, a truth value, or a numeral. -/
def asNumber (v : Value) : Except Problem Double :=
  match v.written? .unreadableNumber with
  | some (.error p) => .error p
  | some (.ok s) =>
    match numeral? s with
    | some x => .ok x
    | none => .error .unreadableNumber
  | none =>
    match v with
    | .float x => .ok x
    | .bool b => .ok (.ofInt (boolNumber b))
    | .int n =>
      match Double.ofInt n with
      | .infinite _ => .error .notNumber
      | x => .ok x
    | _ => .error .notNumber

/-- A number of at least zero. -/
def asDuration (v : Value) : Except Problem Double :=
  match v.asNumber with
  | .error p => .error p
  | .ok x => if x.isNonneg then .ok x else .error .negative

/-- The words for a truth value. -/
def trueWords : List String := ["1", "on", "t", "true", "y", "yes"]

def falseWords : List String := ["0", "off", "f", "false", "n", "no"]

/-- The truth value of an integer from `low` up to below `2^63`: zero or one. The others in this
range are refused as unreadable, those outside as no truth value. -/
def flagOfInt (low n : Int) : Except Problem Bool :=
  if n = 0 then .ok false
  else if n = 1 then .ok true
  else .error (if low ≤ n ∧ n < Int.pow 2 63 then .unreadableBool else .notBool)

/-- A truth value: itself, zero and one as integers of 64 bits or as floats, or a word for it. The
least integer of 64 bits is in their range, but the float equal to it is not. -/
def asFlag (v : Value) : Except Problem Bool :=
  match v.written? .unreadableBool with
  | some (.error p) => .error p
  | some (.ok s) =>
    let word := asciiLower s
    if trueWords.contains word then .ok true
    else if falseWords.contains word then .ok false
    else .error .unreadableBool
  | none =>
    match v with
    | .bool b => .ok b
    | .int n => flagOfInt (-Int.pow 2 63) n
    | .float x =>
      match x.toInt? with
      | some n => flagOfInt (1 - Int.pow 2 63) n
      | none => .error .notBool
    | _ => .error .notBool

end RecordStore.Value
