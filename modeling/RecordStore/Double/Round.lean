/-
Rounding of exact quotients to double precision: to the nearest, a tie to the even mantissa,
gradual underflow below `2^-1022` and an infinity from `2^1024` on.
-/
import RecordStore.Double.Basic

namespace RecordStore

/-- The integer nearest to `num / den`; of two equally near, the even one. -/
def roundDiv (num den : Nat) : Nat :=
  let q := num / den
  let r := num % den
  if 2 * r < den then q else if den < 2 * r then q + 1 else q + q % 2

namespace Double

/-- Zero with the given sign. -/
def zero (neg : Bool) : Double := .finite neg 0 (-1074)

/-- `num / den` in units of `2^e`, as a fraction. -/
def inUnits (num den : Nat) (e : Int) : Nat × Nat :=
  (num * Nat.pow 2 (-e).toNat, den * Nat.pow 2 e.toNat)

/-- The exponent at which the mantissa of `num / den` has 53 bits, but at least `-1074`. -/
def unitExponent (num den : Nat) : Int :=
  let guess := max ((num.log2 : Int) - den.log2 - 53) (-1074)
  let (n, d) := inUnits num den guess
  if Nat.pow 2 53 ≤ n / d then guess + 1 else guess

/-- The double nearest to `num / den`. -/
def ofRatio (neg : Bool) (num den : Nat) : Double :=
  if num = 0 then zero neg
  else
    let e := unitExponent num den
    let (n, d) := inUnits num den e
    let m := roundDiv n d
    let (m, e) := if m = Nat.pow 2 53 then (Nat.pow 2 52, e + 1) else (m, e)
    if 971 < e then .infinite neg else .finite neg m e

/-- The double nearest to an integer. -/
def ofInt (n : Int) : Double := ofRatio (n < 0) n.natAbs 1

end Double

end RecordStore
