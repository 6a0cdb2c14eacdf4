/-
Conversion of values to the types of fields. Each conversion says what it accepts and which
problem it reports otherwise.
-/
import RecordStore.Value.Basic
import RecordStore.Validation

namespace RecordStore

/-- The text that bytes encode in UTF-8. -/
def decodeUtf8? (bs : List UInt8) : Option String := String.fromUTF8? ⟨bs.toArray⟩

/-- Puts the replacement character for every surrogate that bytes hold in the pattern of UTF-8. Such
a surrogate has three bytes, `ed` and then one from `a0` on, and no character starts like that. -/
def replaceSurrogates : List UInt8 → List UInt8
  | a :: b :: c :: rest =>
    if a = 0xed && 0xa0 ≤ b then 0xef :: 0xbf :: 0xbd :: replaceSurrogates rest
    else a :: replaceSurrogates (b :: c :: rest)
  | bs => bs

namespace Value

/-- The text that bytes stand for; they have to be UTF-8. -/
def encodedText (bs : List UInt8) : Except Problem String :=
  match decodeUtf8? bs with
  | some s => .ok s
  | none => .error .notUnicode

/-- A text, or bytes that are UTF-8. -/
def asText : Value → Except Problem String
  | .text s => .ok s
  | .bytes bs | .buffer bs => encodedText bs
  | _ => .error .notText

/-- An integer of at least zero; truth values and floats do not count as integers. -/
def asCount : Value → Except Problem Nat
  | .int n => if n < 0 then .error .negative else .ok n.toNat
  | _ => .error .notInteger

/-- A conversion that lets null stand for nothing. -/
def optional {α : Type} (convert : Value → Except Problem α) : Value → Except Problem (Option α)
  | .null => .ok none
  | v => (convert v).map some

end Value

end RecordStore
