/-
Quoted text and quoted bytes, the way a text or a byte string is shown inside a container or a
message. Single quotes stand around it unless it has a single quote and no double one; the quote
that stands around it, a backslash and what is not printable are escaped.
-/
import RecordStore.Text.Printable

namespace RecordStore

/-- The low `width` hexadecimal digits of `n`, in lower case. -/
def hexDigits : Nat → Nat → List Char
  | 0, _ => []
  | width + 1, n => hexDigits width (n / 16) ++ [Nat.digitChar (n % 16)]

/-- The quote to put around a character sequence. -/
def quoteFor (cs : List Char) : Char :=
  if cs.contains '\'' && !cs.contains '"' then '"' else '\''

/-- The escapes that text and bytes share: quote, backslash, tab, line feed and carriage
return. -/
def commonEscape? (quote c : Char) : Option (List Char) :=
  if c = quote || c = '\\' then some ['\\', c]
  else if c = '\t' then some ['\\', 't']
  else if c = '\n' then some ['\\', 'n']
  else if c = '\r' then some ['\\', 'r']
  else none

/-- A character of quoted text. -/
def escapedChar (quote c : Char) : List Char :=
  match commonEscape? quote c with
  | some cs => cs
  | none =>
    if isPrintable c then [c]
    else if c.toNat < 0x100 then '\\' :: 'x' :: hexDigits 2 c.toNat
    else if c.toNat < 0x10000 then '\\' :: 'u' :: hexDigits 4 c.toNat
    else '\\' :: 'U' :: hexDigits 8 c.toNat

/-- A byte of a quoted byte string. -/
def escapedByte (quote : Char) (b : UInt8) : List Char :=
  match commonEscape? quote (Char.ofNat b.toNat) with
  | some cs => cs
  | none =>
    if 0x20 ≤ b && b < 0x7f then [Char.ofNat b.toNat]
    else '\\' :: 'x' :: hexDigits 2 b.toNat

/-- A text in quotes. -/
def quotedText (s : String) : String :=
  let quote := quoteFor s.toList
  String.ofList (quote :: s.toList.flatMap (escapedChar quote) ++ [quote])

/-- A byte string in quotes, marked with a `b` in front. -/
def quotedBytes (bs : List UInt8) : String :=
  let quote := quoteFor (bs.map fun b => Char.ofNat b.toNat)
  String.ofList ('b' :: quote :: bs.flatMap (escapedByte quote) ++ [quote])

end RecordStore
