/-
Decimal numerals: the scanner that splits a numeral into digits and a power of ten, and the
nearest double of what it read. `ofNumeral?` also knows the names of the infinities and of
`nan`, in any case of letters.
-/
import RecordStore.Double.Round

namespace RecordStore

/-- A decimal number `mant · 10^exp`. -/
structure Decimal where
  mant : Nat
  exp : Int
  deriving DecidableEq, Repr

/-- The value of a digit sequence, read from the left onto `acc`. -/
def digitsValue (acc : Nat) : List Char → Nat
  | [] => acc
  | c :: cs => digitsValue (acc * 10 + (c.toNat - 48)) cs

/-- A sign in front of a numeral, if any, and the rest. -/
def splitSign : List Char → Bool × List Char
  | '-' :: cs => (true, cs)
  | '+' :: cs => (false, cs)
  | cs => (false, cs)

namespace Decimal

/-- The exponent part after `e` or `E`: an optional sign and at least one digit. -/
def exponent? (cs : List Char) : Option Int :=
  let (neg, ds) := splitSign cs
  if ds.isEmpty || !ds.all Char.isDigit then none
  else some (if neg then -(digitsValue 0 ds : Int) else digitsValue 0 ds)

/-- An unsigned numeral: digits with at most one point, at least one digit, and an optional
exponent. -/
def ofChars? (cs : List Char) : Option Decimal :=
  let whole := cs.takeWhile Char.isDigit
  let rest := cs.dropWhile Char.isDigit
  let (frac, rest) : List Char × List Char := match rest with
    | '.' :: r => (r.takeWhile Char.isDigit, r.dropWhile Char.isDigit)
    | r => ([], r)
  if whole.isEmpty && frac.isEmpty then none
  else
    let exp? : Option Int := match rest with
      | [] => some 0
      | c :: r => if c = 'e' || c = 'E' then exponent? r else none
    exp?.map fun e => ⟨digitsValue 0 (whole ++ frac), e - frac.length⟩

/-- The number of decimal digits of a natural number; `0` has one. -/
def digitCount (n : Nat) : Nat := (Nat.toDigits 10 n).length

/-- The nearest double. A number of more than 310 places before the point is infinite and one
that starts more than 330 places behind it is zero, whatever its digits. -/
def toDouble (neg : Bool) (x : Decimal) : Double :=
  if x.mant = 0 then Double.zero neg
  else
    let top := x.exp + digitCount x.mant
    if 310 < top then .infinite neg
    else if top < -330 then Double.zero neg
    else Double.ofRatio neg (x.mant * Nat.pow 10 x.exp.toNat) (Nat.pow 10 (-x.exp).toNat)

end Decimal

namespace Double

/-- Reads a numeral with an optional sign, or the name of an infinity or of `nan`. -/
def ofNumeral? (cs : List Char) : Option Double :=
  let (neg, body) := splitSign cs
  let name := String.ofList (body.map Char.toLower)
  if name = "inf" || name = "infinity" then some (.infinite neg)
  else if name = "nan" then some .nan
  else (Decimal.ofChars? body).map (Decimal.toDouble neg)

end Double

end RecordStore
