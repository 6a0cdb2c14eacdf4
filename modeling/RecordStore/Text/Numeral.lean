/-
The length of numerals. An integer is neither read from nor written as a numeral with more than a
fixed number of digits.
-/
namespace RecordStore

/-- The most digits a numeral may have. -/
def maxDigits : Nat := 4300

/-- Whether a number can be written as a numeral. -/
def hasNumeral (n : Nat) : Bool := (Nat.toDigits 10 n).length ≤ maxDigits

/-- The least number that cannot be written. -/
def leastUnwritable : Nat := Nat.pow 10 maxDigits

/-- The numbers that can be written are those below a power of ten. -/
theorem hasNumeral_iff {n : Nat} : hasNumeral n = true ↔ n < leastUnwritable := by
  have hpos : 0 < maxDigits := by decide
  unfold hasNumeral leastUnwritable
  -- the power itself is not to be computed
  generalize maxDigits = digits at hpos ⊢
  rw [decide_eq_true_iff]
  exact Nat.length_toDigits_le_iff (by decide) hpos

end RecordStore
