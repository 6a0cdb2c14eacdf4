/-
Blank characters. Unicode's white space, and the same with the four ASCII separators U+001C to
U+001F, which trimming of text takes for blanks too.
-/
namespace RecordStore

/-- The characters with Unicode's property `White_Space`. -/
def isWhiteSpace (c : Char) : Bool :=
  let n := c.toNat
  (0x09 ≤ n && n ≤ 0x0d) || n = 0x20 || n = 0x85 || n = 0xa0 || n = 0x1680 ||
    (0x2000 ≤ n && n ≤ 0x200a) || n = 0x2028 || n = 0x2029 || n = 0x202f || n = 0x205f || n = 0x3000

/-- White space or an ASCII separator. -/
def isBlank (c : Char) : Bool :=
  isWhiteSpace c || (0x1c ≤ c.toNat && c.toNat ≤ 0x1f)

/-- A list without its last elements that satisfy `p`. -/
def dropLastWhile {α : Type} (p : α → Bool) : List α → List α
  | [] => []
  | x :: xs =>
    match dropLastWhile p xs with
    | [] => if p x then [] else [x]
    | rest => x :: rest

/-- A text without the blanks at its end. -/
def trimmedEnd (s : String) : String := String.ofList (dropLastWhile isBlank s.toList)

/-- Whether a text has no character but blanks. -/
def allBlank (s : String) : Bool := s.toList.all isBlank

end RecordStore
