/-
Cutting a text at the places where another one occurs, from the left.
-/
namespace RecordStore

/-- What stands before the first occurrence of `mark`, and what stands behind it. -/
def cutFirst? (mark : List Char) : List Char → Option (List Char × List Char)
  | [] => none
  | c :: cs =>
    if mark.isPrefixOf (c :: cs) then some ([], (c :: cs).drop mark.length)
    else (cutFirst? mark cs).map fun r => (c :: r.1, r.2)

/-- The pieces of a text between occurrences of `mark`; it is cut `cuts` times at most. -/
def pieces (mark : List Char) : (cuts : Nat) → List Char → List (List Char)
  | 0, cs => [cs]
  | cuts + 1, cs =>
    match cutFirst? mark cs with
    | none => [cs]
    | some (before, behind) => before :: pieces mark cuts behind

end RecordStore
