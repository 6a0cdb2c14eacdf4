/-
Equality of values. Numbers of all types compare by the number they stand for (`true` is 1),
texts never equal bytes, a byte string equals a buffer of the same bytes, lists never equal tuples,
and mappings and sets compare without order. `nan` equals nothing, so this is not a reflexive
relation.
-/
import RecordStore.Value.Basic

namespace RecordStore

/-- The truth values as numbers. -/
def boolNumber (b : Bool) : Int := if b then 1 else 0

namespace Value

/-- The number a value stands for. -/
def number? : Value → Option Double
  | .bool b => some (.exactly (boolNumber b))
  | .int n => some (.exactly n)
  | .float x => some x
  | _ => none

/-- Equality of two numbers. -/
def sameNumber (v w : Value) : Bool :=
  match v.number?, w.number? with
  | some x, some y => x.same y
  | _, _ => false

mutual

/-- Equality of values. -/
def same : Value → Value → Bool
  | .null, w => w.isNull
  | .text s, .text t => s == t
  | .bytes bs, w | .buffer bs, w => w.bytes? == some bs
  | .list vs, .list ws => sameList vs ws
  | .tuple vs, .tuple ws => sameList vs ws
  | .set vs, .set ws => vs.length == ws.length && sameMembers vs ws
  | .map es, .map fs => es.length == fs.length && sameEntries es fs
  | v, w => sameNumber v w

/-- Equality of sequences, element by element. -/
def sameList : List Value → List Value → Bool
  | [], [] => true
  | v :: vs, w :: ws => same v w && sameList vs ws
  | _, _ => false

/-- Every element of the first list equals one of the second. -/
def sameMembers : List Value → List Value → Bool
  | [], _ => true
  | v :: vs, ws => ws.any (same v ·) && sameMembers vs ws

/-- Every entry of the first list equals one of the second in key and value. -/
def sameEntries : Entries → Entries → Bool
  | [], _ => true
  | (k, v) :: es, fs => fs.any (fun f => same k f.1 && same v f.2) && sameEntries es fs

end

/-- The values without those that equal an earlier one, added to `seen`. -/
def distinct (seen : List Value) : List Value → List Value
  | [] => seen
  | v :: vs => distinct (if seen.any (·.same v) then seen else seen ++ [v]) vs

/-- The value of the first entry whose key equals `k`. -/
def lookup? {α : Type} (k : Value) (es : List (Value × α)) : Option α :=
  (es.find? fun e => e.1.same k).map Prod.snd

/-- Sets the value at a key: in the key's place if it is there, else as a new last entry. -/
def put {α : Type} (k : Value) (v : α) : List (Value × α) → List (Value × α)
  | [] => [(k, v)]
  | (k', v') :: es => if k'.same k then (k', v) :: es else (k', v') :: put k v es

end Value

end RecordStore
