/-
Joining of texts with a separator between neighbours.
-/
namespace RecordStore

/-- The texts in order, with `sep` between each two. -/
def joinWith (sep : String) : List String → String
  | [] => ""
  | [s] => s
  | s :: t :: rest => s ++ sep ++ joinWith sep (t :: rest)

end RecordStore
