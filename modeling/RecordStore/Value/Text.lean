/-
The text of a value. `display` is what stands in a statement or a message: a text stands as it
is, everything else, also inside containers, in the notation of `quoted`.
-/
import RecordStore.Value.Basic
import RecordStore.Text.Quoted
import RecordStore.Text.Join

namespace RecordStore.Value

mutual

/-- The notation of a value: quoted texts, decimal numbers, brackets around elements. -/
def quoted : Value → String
  | .null => "None"
  | .bool b => if b then "True" else "False"
  | .int n => toString n
  | .float x => x.text
  | .text s => quotedText s
  | .bytes bs => quotedBytes bs
  | .buffer bs => "bytearray(" ++ quotedBytes bs ++ ")"
  | .list vs => "[" ++ joinWith ", " (quotedList vs) ++ "]"
  | .tuple [v] => "(" ++ quoted v ++ ",)"
  | .tuple vs => "(" ++ joinWith ", " (quotedList vs) ++ ")"
  | .set [] => "set()"
  | .set vs => "\x7b" ++ joinWith ", " (quotedList vs) ++ "\x7d"
  | .map es => "\x7b" ++ joinWith ", " (quotedEntries es) ++ "\x7d"

/-- The notations of the elements. -/
def quotedList : List Value → List String
  | [] => []
  | v :: vs => quoted v :: quotedList vs

/-- The notations of the entries, each as key, colon and value. -/
def quotedEntries : Entries → List String
  | [] => []
  | (k, v) :: es => (quoted k ++ ": " ++ quoted v) :: quotedEntries es

end

/-- A value as text: a text itself, the notation of anything else. -/
def display : Value → String
  | .text s => s
  | v => v.quoted

end RecordStore.Value
