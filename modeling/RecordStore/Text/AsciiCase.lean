/-
Equality of texts up to the case of ASCII letters. A text with any other character equals only
itself.
-/
namespace RecordStore

/-- Whether a text is wholly ASCII. -/
def isAscii (s : String) : Bool := s.toList.all fun c => c.toNat < 0x80

/-- A text with its ASCII capitals made small. -/
def asciiLower (s : String) : String := String.ofList (s.toList.map Char.toLower)

/-- Equality of texts where ASCII texts are compared without regard to case. -/
def sameIgnoringCase (s t : String) : Bool :=
  s == t || (isAscii s && isAscii t && asciiLower s == asciiLower t)

end RecordStore
