/-
Double-precision numbers as exact data: a sign, a natural mantissa and a power of two. The
order facts below compare the numbers themselves, not their representations, so `0.0` equals
`-0.0`, a number equals the integer of its value, and `nan` equals nothing.
-/
namespace RecordStore

/-- A double-precision number. `finite neg m e` is `m · 2^e`, negated where `neg` holds. -/
inductive Double where
  | nan
  | infinite (neg : Bool)
  | finite (neg : Bool) (mant : Nat) (exp : Int)
  deriving DecidableEq, Repr

namespace Double

/-- `m`, negated where `neg` holds. -/
def signed (neg : Bool) (m : Nat) : Int := if neg then -(m : Int) else m

/-- The integer `n` as a number of its own, not rounded. -/
def exactly (n : Int) : Double := .finite (n < 0) n.natAbs 0

/-- Equality of the numbers that two doubles stand for. -/
def same : Double → Double → Bool
  | .infinite s, .infinite t => s == t
  | .finite s m e, .finite t n f =>
    let low := min e f
    signed s (m * Nat.pow 2 (e - low).toNat) == signed t (n * Nat.pow 2 (f - low).toNat)
  | _, _ => false

/-- Zero of either sign. -/
def isZero : Double → Bool
  | .finite _ m _ => m == 0
  | _ => false

/-- At least zero; `nan` is not, `-0.0` is. -/
def isNonneg : Double → Bool
  | .nan => false
  | .infinite neg => !neg
  | .finite neg m _ => !neg || m == 0

/-- The integer a double stands for, if it is one. -/
def toInt? : Double → Option Int
  | .finite neg m e =>
    if 0 ≤ e then some (signed neg (m * Nat.pow 2 e.toNat))
    else if m % Nat.pow 2 (-e).toNat = 0 then some (signed neg (m / Nat.pow 2 (-e).toNat))
    else none
  | _ => none

end Double

end RecordStore
