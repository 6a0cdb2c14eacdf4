/-
Conditions on records and the terms they stand for. A condition maps columns to a value (equality),
to a mapping of operators to operands (one comparison each), or to a list or tuple (membership).
`parse` keeps the order of the condition and stops at its first unknown operator.
-/
import RecordStore.Failure
import RecordStore.Value.Equality

namespace RecordStore

/-- The comparison operators. -/
inductive Operator where
  | gt | lt | gte | lte | ne
  deriving DecidableEq, Repr

namespace Operator

/-- The key of an operator in a condition. -/
def key : Operator → String
  | .gt => "gt"
  | .lt => "lt"
  | .gte => "gte"
  | .lte => "lte"
  | .ne => "ne"

/-- The symbol of an operator in a statement. -/
def symbol : Operator → String
  | .gt => ">"
  | .lt => "<"
  | .gte => ">="
  | .lte => "<="
  | .ne => "!="

def all : List Operator := [.gt, .lt, .gte, .lte, .ne]

/-- The operator of a key; a key that is not one of the five texts has none. -/
def ofKey? : Value → Option Operator
  | .text s => all.find? fun o => o.key == s
  | _ => none

end Operator

/-- One term of a condition. -/
inductive Term where
  | equals (column value : Value)
  | compare (column : Value) (op : Operator) (value : Value)
  | member (column : Value) (values : List Value)
  deriving Repr

namespace Term

/-- Equality of terms: the same form, equal columns and equal values. -/
def same : Term → Term → Bool
  | .equals c v, .equals d w => c.same d && v.same w
  | .compare c o v, .compare d p w => c.same d && o == p && v.same w
  | .member c vs, .member d ws => c.same d && Value.sameList vs ws
  | _, _ => false

/-- Equality of term lists, term by term. -/
def sameAll : List Term → List Term → Bool
  | [], [] => true
  | s :: ss, t :: ts => s.same t && sameAll ss ts
  | _, _ => false

end Term

namespace Condition

/-- The comparisons that a mapping of operators asks of a column. -/
def comparisons (column : Value) : Entries → Except Failure (List Term)
  | [] => .ok []
  | (key, operand) :: rest =>
    match Operator.ofKey? key with
    | none => .error (.unknownOperator key)
    | some op => (comparisons column rest).map (.compare column op operand :: ·)

/-- The terms that one entry of a condition stands for. -/
def entryTerms (column : Value) : Value → Except Failure (List Term)
  | .map ops => comparisons column ops
  | .list vs => .ok [.member column vs]
  | .tuple vs => .ok [.member column vs]
  | v => .ok [.equals column v]

/-- The terms of a condition, in its order. -/
def terms : Entries → Except Failure (List Term)
  | [] => .ok []
  | (column, v) :: rest =>
    match entryTerms column v with
    | .error e => .error e
    | .ok ts => (terms rest).map (ts ++ ·)

/-- The terms of a value used as a condition. -/
def parse (v : Value) : Except Failure (List Term) :=
  match v.entries? with
  | some es => terms es
  | none => .error (.notMapping v.kind .items)

end Condition

end RecordStore
