/-
Clauses: the written form of a condition. Each term becomes one fragment with a placeholder for
every value, the values travel beside the text, and the fragments are joined with `AND`.
-/
import RecordStore.Condition.Term

namespace RecordStore

/-- The fragments of a condition and the values bound to their placeholders. -/
structure Clause where
  fragments : List String := []
  params : List Value := []
  deriving Repr

/-- Placeholders for `n` values. -/
def placeholders (n : Nat) : String := joinWith ", " (List.replicate n "?")

namespace Term

/-- The text of a term. -/
def fragment : Term → String
  | .equals c _ => c.display ++ " = ?"
  | .compare c op _ => c.display ++ " " ++ op.symbol ++ " ?"
  | .member c vs => c.display ++ " IN (" ++ placeholders vs.length ++ ")"

/-- The values a term binds. -/
def values : Term → List Value
  | .equals _ v => [v]
  | .compare _ _ v => [v]
  | .member _ vs => vs

end Term

namespace Clause

/-- The clause of a list of terms. -/
def ofTerms (ts : List Term) : Clause where
  fragments := ts.map Term.fragment
  params := ts.flatMap Term.values

/-- The clause of given fragments, which have to be texts, and values. -/
def ofValues (fragments params : List Value) : Except Failure Clause :=
  (textsToJoin 0 fragments).map fun texts => ⟨texts, params⟩

def isEmpty (c : Clause) : Bool := c.fragments.isEmpty

/-- The fragments joined with `AND`. -/
def text (c : Clause) : String := joinWith " AND " c.fragments

/-- The clause with its keyword; nothing for an empty clause. -/
def sql (c : Clause) : String := if c.isEmpty then "" else "WHERE " ++ c.text

/-- Equality of clauses: the same fragments and equal values. -/
def same (c d : Clause) : Bool := c.fragments == d.fragments && Value.sameList c.params d.params

end Clause

/-- Compiles a value used as a condition; one that counts as false is the empty condition. -/
def Condition.compile (v : Value) : Except Failure Clause :=
  if v.truthy then (Condition.parse v).map Clause.ofTerms else .ok {}

end RecordStore
