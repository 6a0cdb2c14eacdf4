/-
JSON text as values. A numeral with neither fraction nor exponent is an integer, any other a float,
and the infinities and `nan` have names. Of a repeated member name the last value counts, at the
first place. Control characters have to be escaped; an unpaired surrogate makes a text that is no
Unicode text, and such a text stands as bytes that are not UTF-8.
-/
import RecordStore.Double.Decimal
import RecordStore.Text.Numeral
import RecordStore.Value.Equality

namespace RecordStore.Json

/-- JSON's white space. -/
def isSpace (c : Char) : Bool := c = ' ' || c = '\t' || c = '\n' || c = '\r'

def skipSpace (cs : List Char) : List Char := cs.dropWhile isSpace

/-! ## Texts -/

/-- The value of a hexadecimal digit. -/
def hexValue? (c : Char) : Option Nat :=
  if c.isDigit then some (c.toNat - 48)
  else if 'a' ≤ c ∧ c ≤ 'f' then some (c.toNat - 87)
  else if 'A' ≤ c ∧ c ≤ 'F' then some (c.toNat - 55)
  else none

/-- The value of hexadecimal digits, read from the left onto `acc`. -/
def hexNumber? (acc : Nat) : List Char → Option Nat
  | [] => some acc
  | c :: cs =>
    match hexValue? c with
    | none => none
    | some d => hexNumber? (acc * 16 + d) cs

/-- The character that a letter stands for behind a backslash. -/
def escaped? : Char → Option Nat
  | '"' => some 0x22
  | '\\' => some 0x5c
  | '/' => some 0x2f
  | 'b' => some 0x08
  | 'f' => some 0x0c
  | 'n' => some 0x0a
  | 'r' => some 0x0d
  | 't' => some 0x09
  | _ => none

/-- Reads a text up to its closing quote, as code points of characters and units of escapes. -/
def readText? : List Char → Option (List Nat × List Char)
  | [] => none
  | '"' :: rest => some ([], rest)
  | '\\' :: 'u' :: a :: b :: c :: d :: rest =>
    match hexNumber? 0 [a, b, c, d] with
    | none => none
    | some n => (readText? rest).map fun r => (n :: r.1, r.2)
  | '\\' :: e :: rest =>
    match escaped? e with
    | none => none
    | some n => (readText? rest).map fun r => (n :: r.1, r.2)
  | c :: rest =>
    if c.toNat < 0x20 then none else (readText? rest).map fun r => (c.toNat :: r.1, r.2)

def isHighSurrogate (n : Nat) : Bool := 0xd800 ≤ n && n < 0xdc00

def isLowSurrogate (n : Nat) : Bool := 0xdc00 ≤ n && n < 0xe000

/-- Puts the halves of surrogate pairs together. -/
def joinSurrogates : List Nat → List Nat
  | [] => []
  | [n] => [n]
  | n :: m :: rest =>
    if isHighSurrogate n && isLowSurrogate m then
      (0x10000 + (n - 0xd800) * 0x400 + (m - 0xdc00)) :: joinSurrogates rest
    else n :: joinSurrogates (m :: rest)

/-- A code point in the byte pattern of UTF-8, which is kept for surrogates too. -/
def codePointBytes (n : Nat) : List UInt8 :=
  if n < 0x80 then [.ofNat n]
  else if n < 0x800 then [.ofNat (0xc0 + n / 0x40), .ofNat (0x80 + n % 0x40)]
  else if n < 0x10000 then
    [.ofNat (0xe0 + n / 0x1000), .ofNat (0x80 + n / 0x40 % 0x40), .ofNat (0x80 + n % 0x40)]
  else
    [.ofNat (0xf0 + n / 0x40000), .ofNat (0x80 + n / 0x1000 % 0x40),
      .ofNat (0x80 + n / 0x40 % 0x40), .ofNat (0x80 + n % 0x40)]

/-- The value of a text. -/
def textValue (units : List Nat) : Value :=
  let points := joinSurrogates units
  if points.any fun n => isHighSurrogate n || isLowSurrogate n then
    .bytes (points.flatMap codePointBytes)
  else .text (String.ofList (points.map Char.ofNat))

/-! ## Numbers -/

/-- The digits of a whole part and the rest: a zero alone, or digits that do not start with one. -/
def wholeDigits : List Char → List Char × List Char
  | '0' :: rest => (['0'], rest)
  | cs => (cs.takeWhile Char.isDigit, cs.dropWhile Char.isDigit)

/-- The digits behind a point, if there is a point with digits behind it, and the rest. -/
def fractionDigits : List Char → List Char × List Char
  | '.' :: rest =>
    match rest.takeWhile Char.isDigit with
    | [] => ([], '.' :: rest)
    | ds => (ds, rest.dropWhile Char.isDigit)
  | cs => ([], cs)

/-- The exponent, if there is a whole one, and the rest. -/
def exponent : List Char → Option Int × List Char
  | [] => (none, [])
  | c :: rest =>
    if c = 'e' || c = 'E' then
      let (neg, ds) := splitSign rest
      match ds.takeWhile Char.isDigit with
      | [] => (none, c :: rest)
      | es => (some (Double.signed neg (digitsValue 0 es)), ds.dropWhile Char.isDigit)
    else (none, c :: rest)

/-- Reads a numeral. -/
def readNumber? (cs : List Char) : Option (Value × List Char) :=
  let (neg, cs) : Bool × List Char := match cs with
    | '-' :: rest => (true, rest)
    | cs => (false, cs)
  let (whole, cs) := wholeDigits cs
  let (fraction, cs) := fractionDigits cs
  let (exp, cs) := exponent cs
  if whole.isEmpty then none
  else if fraction.isEmpty && exp.isNone then
    if maxDigits < whole.length then none
    else some (.int (Double.signed neg (digitsValue 0 whole)), cs)
  else
    let mant := digitsValue 0 (whole ++ fraction)
    some (.float (Decimal.toDouble neg ⟨mant, exp.getD 0 - fraction.length⟩), cs)

/-- The values that have names. -/
def names : List (String × Value) := [
  ("null", .null), ("true", .bool true), ("false", .bool false), ("NaN", .float .nan),
  ("Infinity", .float (.infinite false)), ("-Infinity", .float (.infinite true))]

/-- Reads a name or a numeral. -/
def readScalar? (cs : List Char) : Option (Value × List Char) :=
  match names.find? fun e => e.1.toList.isPrefixOf cs with
  | some (name, v) => some (v, cs.drop name.length)
  | none => readNumber? cs

/-! ## Values -/

/-- What can nest in JSON. -/
inductive Nesting where
  | list | object
  deriving DecidableEq, Repr

/-- Why a text is not read as JSON. -/
inductive Unreadable where
  /-- It is no JSON. -/
  | malformed
  /-- Lists and objects nest too deeply in it; the innermost one that was reached is of this
  sort. -/
  | tooDeep (n : Nesting)
  deriving DecidableEq, Repr

/-- How deeply lists and objects may nest. -/
def maxDepth : Nat := 980

/-- What reading yields: a value and the text behind it. -/
abbrev Outcome (α : Type) := Except Unreadable (α × List Char)

/-- The outcome of a reading that can only fail on what is no JSON. -/
def Outcome.ofOption {α : Type} : Option (α × List Char) → Outcome α
  | some r => .ok r
  | none => .error .malformed

mutual

/-- Reads a value in which lists and objects may nest `room` deep. The second argument bounds how
many values and members are read. -/
def readValue (room : Nat) : Nat → List Char → Outcome Value
  | 0, _ => .error .malformed
  | fuel + 1, cs =>
    match cs, room with
    | '"' :: rest, _ => .ofOption ((readText? rest).map fun r => (textValue r.1, r.2))
    | '[' :: _, 0 => .error (.tooDeep .list)
    | '[' :: rest, room + 1 =>
      match skipSpace rest with
      | ']' :: rest => .ok (.list [], rest)
      | rest => (readElements room fuel rest).map fun r => (.list r.1, r.2)
    | '\x7b' :: _, 0 => .error (.tooDeep .object)
    | '\x7b' :: rest, room + 1 =>
      match skipSpace rest with
      | '\x7d' :: rest => .ok (.map [], rest)
      | rest => (readMembers room fuel [] rest).map fun r => (.map r.1, r.2)
    | cs, _ => .ofOption (readScalar? cs)

/-- Reads the elements of a list up to its closing bracket. -/
def readElements (room : Nat) : Nat → List Char → Outcome (List Value)
  | 0, _ => .error .malformed
  | fuel + 1, cs =>
    match readValue room fuel cs with
    | .error e => .error e
    | .ok (v, rest) =>
      match skipSpace rest with
      | ']' :: rest => .ok ([v], rest)
      | ',' :: rest =>
        (readElements room fuel (skipSpace rest)).map fun r => (v :: r.1, r.2)
      | _ => .error .malformed

/-- Reads members up to the closing brace and adds them to those read before. -/
def readMembers (room : Nat) : Nat → Entries → List Char → Outcome Entries
  | 0, _, _ => .error .malformed
  | fuel + 1, es, cs =>
    match cs with
    | '"' :: rest =>
      match readText? rest with
      | none => .error .malformed
      | some (units, rest) =>
        match skipSpace rest with
        | ':' :: rest =>
          match readValue room fuel (skipSpace rest) with
          | .error e => .error e
          | .ok (v, rest) =>
            let es := Value.put (textValue units) v es
            match skipSpace rest with
            | '\x7d' :: rest => .ok (es, rest)
            | ',' :: rest => readMembers room fuel es (skipSpace rest)
            | _ => .error .malformed
        | _ => .error .malformed
    | _ => .error .malformed

end

end RecordStore.Json

namespace RecordStore

/-- The value that a JSON text stands for. A character opens at most one value, and a value is
read in at most two steps. -/
def Value.ofJson (s : String) : Except Json.Unreadable Value :=
  let cs := Json.skipSpace s.toList
  match Json.readValue Json.maxDepth (2 * cs.length + 2) cs with
  | .error e => .error e
  | .ok (v, rest) => if (Json.skipSpace rest).isEmpty then .ok v else .error .malformed

end RecordStore
