/-
The dynamic values that travel through the store: what conditions compare with, what rows hold,
what a storage engine answers. Mappings keep the order of their entries.
-/
import RecordStore.Double.Shortest

namespace RecordStore

/-- A value of any type. The keys of a mapping and the elements of a set are unique. -/
inductive Value where
  | null
  | bool (b : Bool)
  | int (n : Int)
  | float (x : Double)
  | text (s : String)
  | bytes (bs : List UInt8)
  /-- Bytes that can be changed in place. -/
  | buffer (bs : List UInt8)
  | list (vs : List Value)
  | tuple (vs : List Value)
  | set (vs : List Value)
  | map (es : List (Value × Value))
  deriving Repr

/-- The entries of a mapping, in order. -/
abbrev Entries := List (Value × Value)

/-- The type of a value. -/
inductive Kind where
  | null | bool | int | float | text | bytes | buffer | list | tuple | set | map
  deriving DecidableEq, Repr

/-- The name a type has in messages. -/
def Kind.name : Kind → String
  | .null => "NoneType"
  | .bool => "bool"
  | .int => "int"
  | .float => "float"
  | .text => "str"
  | .bytes => "bytes"
  | .buffer => "bytearray"
  | .list => "list"
  | .tuple => "tuple"
  | .set => "set"
  | .map => "dict"

namespace Value

instance : Inhabited Value := ⟨.null⟩

def kind : Value → Kind
  | .null => .null
  | .bool _ => .bool
  | .int _ => .int
  | .float _ => .float
  | .text _ => .text
  | .bytes _ => .bytes
  | .buffer _ => .buffer
  | .list _ => .list
  | .tuple _ => .tuple
  | .set _ => .set
  | .map _ => .map

/-- Whether a value counts as true: everything but null, false, zero and what is empty. -/
def truthy : Value → Bool
  | .null => false
  | .bool b => b
  | .int n => n != 0
  | .float x => !x.isZero
  | .text s => s != ""
  | .bytes bs | .buffer bs => !bs.isEmpty
  | .list vs => !vs.isEmpty
  | .tuple vs => !vs.isEmpty
  | .set vs => !vs.isEmpty
  | .map es => !es.isEmpty

def isNull : Value → Bool
  | .null => true
  | _ => false

/-- The text of a text. -/
def text? : Value → Option String
  | .text s => some s
  | _ => none

/-- The bytes of a byte string or a buffer. -/
def bytes? : Value → Option (List UInt8)
  | .bytes bs | .buffer bs => some bs
  | _ => none

/-- The entries of a mapping. -/
def entries? : Value → Option Entries
  | .map es => some es
  | _ => none

/-- What walking over a value yields: elements, keys, characters or byte numbers. The other
types cannot be walked over. -/
def elements? : Value → Option (List Value)
  | .list vs => some vs
  | .tuple vs => some vs
  | .set vs => some vs
  | .map es => some (es.map Prod.fst)
  | .text s => some (s.toList.map fun c => .text (String.singleton c))
  | .bytes bs | .buffer bs => some (bs.map fun b => .int b.toNat)
  | _ => none

end Value

end RecordStore
