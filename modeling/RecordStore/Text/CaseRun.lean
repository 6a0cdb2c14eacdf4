/-
Runs of letters that are as far from their partners in the other case as their neighbours are. Both
case tables are lists of such runs.
-/
namespace RecordStore

/-- A run of letters from `first` to `last` in steps of `step`, each `shift` code points away from
its partner. -/
structure CaseRun where
  first : Nat
  last : Nat
  step : Nat
  shift : Int

namespace CaseRun

/-- Whether a character is a letter of the run. -/
def contains (r : CaseRun) (c : Char) : Bool :=
  r.first ≤ c.toNat && c.toNat ≤ r.last && (c.toNat - r.first) % r.step = 0

/-- The partner of a letter of the run. -/
def partner (r : CaseRun) (c : Char) : Char := Char.ofNat (c.toNat + r.shift).toNat

/-- The partner of a character in the first run that contains it, else the character itself. -/
def partnerIn (runs : List CaseRun) (c : Char) : Char :=
  match runs.find? (·.contains c) with
  | some r => r.partner c
  | none => c

end CaseRun

end RecordStore
