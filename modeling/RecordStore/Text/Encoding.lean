/-
Encodings of text. A file is written in UTF-8 and may be read in another encoding: its bytes then
stand for other characters, or for none.
-/
import RecordStore.Text.AsciiCase
import RecordStore.Text.Quoted

namespace RecordStore

/-- The order of the two bytes of a unit. -/
inductive ByteOrder where
  | little | big
  deriving DecidableEq, Repr

inductive Encoding where
  | utf8
  /-- UTF-8 behind a byte order mark, which may be missing. -/
  | utf8Marked
  | ascii
  | latin1
  | windows1252
  | utf16 (order : ByteOrder)
  /-- UTF-16 with a byte order mark in front. -/
  | utf16Marked
  deriving DecidableEq, Repr

/-- Why bytes stand for no character. -/
inductive DecodingFault where
  | notAscii | unassigned | truncated | illegalSurrogate | illegalEncoding | endsEarly
  deriving DecidableEq, Repr

def DecodingFault.message : DecodingFault → String
  | .notAscii => "ordinal not in range(128)"
  | .unassigned => "character maps to <undefined>"
  | .truncated => "truncated data"
  | .illegalSurrogate => "illegal UTF-16 surrogate"
  | .illegalEncoding => "illegal encoding"
  | .endsEarly => "unexpected end of data"

/-- Why a file has no text. -/
inductive Undecodable where
  /-- The bytes from this place on stand for no character of the code. -/
  | bytes (code : String) (place : Nat) (bs : List UInt8) (fault : DecodingFault)
  /-- The byte order mark is missing. -/
  | noOrderMark
  deriving DecidableEq, Repr

def Undecodable.message : Undecodable → String
  | .bytes code place bs fault =>
    let what := match bs with
      | [b] => "byte 0x" ++ String.ofList (hexDigits 2 b.toNat) ++ " in position " ++ toString place
      | _ => "bytes in position " ++ toString place ++ "-" ++ toString (place + bs.length - 1)
    "'" ++ code ++ "' codec can't decode " ++ what ++ ": " ++ fault.message
  | .noOrderMark => "UTF-16 stream does not start with BOM"

/-- Why a name is no name of an encoding. -/
inductive NoEncoding where
  | unknown (name : String)
  /-- It names a code for something else than text. -/
  | notText (name : String)
  deriving DecidableEq, Repr

def NoEncoding.message : NoEncoding → String
  | .unknown name => "unknown encoding: " ++ name
  | .notText name =>
    "'" ++ name ++ "' is not a text encoding; use codecs.open() to handle arbitrary codecs"

namespace Encoding

/-! ## Names -/

/-- A name as it is compared: small ASCII letters, digits and dots, with one underscore for
whatever stands between them. `gap` tells whether something was left out behind `done`. -/
def plainName (done : List Char) (gap : Bool) : List Char → List Char
  | [] => done
  | c :: cs =>
    if c.isAlphanum || c = '.' then
      plainName (done ++ (if gap && done ≠ [] then ['_'] else []) ++ [c.toLower]) false cs
    else plainName done true cs

/-- The names of each encoding, as they are compared. -/
def names : List (Encoding × List String) := [
  (.utf8, ["utf_8", "utf8", "u8", "utf", "utf8_ucs2", "utf8_ucs4", "cp65001"]),
  (.utf8Marked, ["utf_8_sig"]),
  (.ascii, ["ascii", "646", "ansi_x3.4_1968", "ansi_x3_4_1968", "ansi_x3.4_1986", "cp367",
    "csascii", "ibm367", "iso646_us", "iso_646.irv_1991", "iso_ir_6", "us", "us_ascii"]),
  (.latin1, ["latin_1", "8859", "cp819", "csisolatin1", "ibm819", "iso8859", "iso8859_1",
    "iso_8859_1", "iso_8859_1_1987", "iso_ir_100", "l1", "latin", "latin1"]),
  (.windows1252, ["cp1252", "1252", "windows_1252"]),
  (.utf16 .little, ["utf_16_le", "unicodelittleunmarked", "utf_16le"]),
  (.utf16 .big, ["utf_16_be", "unicodebigunmarked", "utf_16be"]),
  (.utf16Marked, ["utf_16", "u16", "utf16"])]

/-- Codes for something else than text. -/
def otherCodes : List String := ["base64", "base64_codec", "base_64", "bz2", "bz2_codec", "hex",
  "hex_codec", "quopri", "quopri_codec", "quoted_printable", "quotedprintable", "rot13", "rot_13",
  "uu", "uu_codec", "zip", "zlib", "zlib_codec"]

/-- The encoding with a name. -/
def ofName (name : String) : Except NoEncoding Encoding :=
  let plain := String.ofList (plainName [] false name.toList)
  match names.find? fun e => e.2.contains plain with
  | some e => .ok e.1
  | none => .error (if otherCodes.contains plain then .notText name else .unknown name)

/-! ## Reading -/

/-- The characters that Windows-1252 has from `80` to `9f`; zero where it has none. -/
def windowsChars : List Nat := [
  0x20ac, 0, 0x201a, 0x192, 0x201e, 0x2026, 0x2020, 0x2021, 0x2c6, 0x2030, 0x160, 0x2039, 0x152, 0,
  0x17d, 0, 0, 0x2018, 0x2019, 0x201c, 0x201d, 0x2022, 0x2013, 0x2014, 0x2dc, 0x2122, 0x161, 0x203a,
  0x153, 0, 0x17e, 0x178]

/-- The character of a byte in Windows-1252. -/
def windowsChar? (b : UInt8) : Option Char :=
  if 0x80 ≤ b && b < 0xa0 then
    match windowsChars[b.toNat - 0x80]? with
    | none | some 0 => none
    | some n => some (Char.ofNat n)
  else some (Char.ofNat b.toNat)

/-- Reads bytes one by one, from a place on. -/
def readBytes (code : String) (fault : DecodingFault) (char? : UInt8 → Option Char) (place : Nat) :
    List UInt8 → Except Undecodable (List Char)
  | [] => .ok []
  | b :: bs =>
    match char? b with
    | some c => (readBytes code fault char? (place + 1) bs).map (c :: ·)
    | none => .error (.bytes code place [b] fault)

namespace ByteOrder

/-- The name of UTF-16 in this order. -/
def code : ByteOrder → String
  | .little => "utf-16-le"
  | .big => "utf-16-be"

/-- The unit of two bytes. -/
def unit (o : ByteOrder) (a b : UInt8) : Nat :=
  match o with
  | .little => b.toNat * 0x100 + a.toNat
  | .big => a.toNat * 0x100 + b.toNat

end ByteOrder

/-- Whether a unit is the first half of a character. -/
def isHigh (u : Nat) : Bool := 0xd800 ≤ u && u < 0xdc00

/-- Whether a unit is the second half of a character. -/
def isLow (u : Nat) : Bool := 0xdc00 ≤ u && u < 0xe000

/-- Reads units of two bytes, from a place on. -/
def readUnits (o : ByteOrder) (place : Nat) : List UInt8 → Except Undecodable (List Char)
  | [] => .ok []
  | [a] => .error (.bytes (ByteOrder.code o) place [a] .truncated)
  | a :: b :: rest =>
    let u := ByteOrder.unit o a b
    if isLow u then .error (.bytes (ByteOrder.code o) place [a, b] .illegalEncoding)
    else if isHigh u then
      match rest with
      | c :: d :: rest =>
        let v := ByteOrder.unit o c d
        if isLow v then
          (readUnits o (place + 4) rest).map
            (Char.ofNat (0x10000 + (u - 0xd800) * 0x400 + (v - 0xdc00)) :: ·)
        else .error (.bytes (ByteOrder.code o) place [a, b] .illegalSurrogate)
      | [c] => .error (.bytes (ByteOrder.code o) place [a, b, c] .endsEarly)
      | [] => .error (.bytes (ByteOrder.code o) place [a, b] .endsEarly)
    else (readUnits o (place + 2) rest).map (Char.ofNat u :: ·)

/-- Drops a byte order mark in front. -/
def unmarked : List Char → List Char
  | '\ufeff' :: cs => cs
  | cs => cs

/-- What a text that was written in UTF-8 is when it is read in an encoding. UTF-8 never starts
with a mark of UTF-16. -/
def reread (e : Encoding) (text : String) : Except Undecodable String :=
  let bs := text.toUTF8.toList
  match e with
  | .utf8 => .ok text
  | .utf8Marked => .ok (String.ofList (unmarked text.toList))
  | .ascii => (readBytes "ascii" .notAscii
      (fun b => if b < 0x80 then some (Char.ofNat b.toNat) else none) 0 bs).map String.ofList
  | .latin1 => .ok (String.ofList (bs.map fun b => Char.ofNat b.toNat))
  | .windows1252 => (readBytes "charmap" .unassigned windowsChar? 0 bs).map String.ofList
  | .utf16 o => (readUnits o 0 bs).map String.ofList
  | .utf16Marked =>
    match readUnits .little 0 bs with
    | .error e => .error e
    | .ok [] => .ok ""
    | .ok _ => .error .noOrderMark

end Encoding

end RecordStore
