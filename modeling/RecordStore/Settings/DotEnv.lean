/-
The `.env` file: variables written as `NAME=VALUE`, one after the other. Names and values may stand
in quotes, `export` may stand before a name, and `#` starts a comment. A name without `=` has no
value. In a value, `${NAME}` and `${NAME:-default}` stand for the value of another variable. What
cannot be read as an assignment is skipped up to the end of its line.
-/
import RecordStore.Settings.Variables
import RecordStore.Text.Blank

namespace RecordStore.DotEnv

/-- A blank inside a line. -/
def isGap (c : Char) : Bool := isBlank c && c ≠ '\n' && c ≠ '\r'

def skipGap (cs : List Char) : List Char := cs.dropWhile isGap

/-- Lines end with a line feed; a carriage return, alone or before one, counts as the same. -/
def unifyLines : List Char → List Char
  | [] => []
  | '\r' :: '\n' :: rest => '\n' :: unifyLines rest
  | '\r' :: rest => '\n' :: unifyLines rest
  | c :: rest => c :: unifyLines rest

/-! ## Values -/

/-- Reads up to the closing quote. A backslash takes the character after it along, so a quote
behind one does not close. -/
def readQuoted? (quote : Char) : List Char → Option (List Char × List Char)
  | [] => none
  | [c] => if c = quote then some ([], []) else none
  | c :: d :: rest =>
    if c = quote then some ([], d :: rest)
    else if c = '\\' then (readQuoted? quote rest).map fun r => (c :: d :: r.1, r.2)
    else (readQuoted? quote (d :: rest)).map fun r => (c :: r.1, r.2)

/-- What a letter stands for behind a backslash in single quotes. -/
def singleEscape? : Char → Option Char
  | '\\' => some '\\'
  | '\'' => some '\''
  | _ => none

/-- What a letter stands for behind a backslash in double quotes. -/
def doubleEscape? : Char → Option Char
  | '\\' => some '\\'
  | '\'' => some '\''
  | '"' => some '"'
  | 'a' => some '\x07'
  | 'b' => some '\x08'
  | 'f' => some '\x0c'
  | 'n' => some '\n'
  | 'r' => some '\r'
  | 't' => some '\t'
  | 'v' => some '\x0b'
  | _ => none

/-- Replaces escapes; a backslash before any other character stays. -/
def unescape (escape? : Char → Option Char) : List Char → List Char
  | [] => []
  | [c] => [c]
  | c :: d :: rest =>
    if c = '\\' then
      match escape? d with
      | some e => e :: unescape escape? rest
      | none => c :: unescape escape? (d :: rest)
    else c :: unescape escape? (d :: rest)

/-- A value without quotes, up to the first blanks that `#` follows. -/
def beforeComment : List Char → List Char
  | [] => []
  | c :: rest =>
    if isBlank c && (rest.dropWhile isBlank).head? = some '#' then [] else c :: beforeComment rest

/-- Reads the value behind `=`, after the blanks there. A value without quotes that starts with `#`
is a comment if there are such blanks. -/
def readValue? (cs : List Char) : Option (List Char × List Char) :=
  match skipGap cs with
  | '\'' :: rest => (readQuoted? '\'' rest).map fun r => (unescape singleEscape? r.1, r.2)
  | '"' :: rest => (readQuoted? '"' rest).map fun r => (unescape doubleEscape? r.1, r.2)
  | _ =>
    let line := beforeComment (cs.takeWhile (· ≠ '\n'))
    some (dropLastWhile isBlank (skipGap line), cs.dropWhile (· ≠ '\n'))

/-! ## Assignments -/

/-- Drops `export` with blanks behind it. -/
def skipExport (cs : List Char) : List Char :=
  if "export".toList.isPrefixOf cs then
    match cs.drop 6 with
    | c :: rest => if isGap c then skipGap rest else cs
    | [] => cs
  else cs

/-- Reads a name; at a comment there is none. `none` means that nothing can be read. -/
def readName? (cs : List Char) : Option (Option (List Char) × List Char) :=
  match cs with
  | '#' :: _ => some (none, cs)
  | '\'' :: rest =>
    match rest.takeWhile (· ≠ '\''), rest.dropWhile (· ≠ '\'') with
    | [], _ => none
    | _, [] => none
    | name, _ :: rest => some (some name, rest)
  | cs =>
    let inName (c : Char) : Bool := c ≠ '=' && c ≠ '#' && !isBlank c
    match cs.takeWhile inName with
    | [] => none
    | name => some (some name, cs.dropWhile inName)

/-- Reads the end of a line: blanks, perhaps a comment, and a line feed or the end of the text. -/
def readEnd? (cs : List Char) : Option (List Char) :=
  let rest := match skipGap cs with
    | '#' :: rest => rest.dropWhile (· ≠ '\n')
    | rest => rest
  match rest with
  | [] => some []
  | '\n' :: rest => some rest
  | _ => none

/-- A name and its value, if it has one. -/
abbrev Assignment := String × Option String

/-- Reads one line: the assignment on it, if there is one, and the rest of the text. -/
def readLine (cs : List Char) : Option Assignment × List Char :=
  let skipLine (cs : List Char) : Option Assignment × List Char :=
    (none, (cs.dropWhile (· ≠ '\n')).drop 1)
  let cs := skipExport (cs.dropWhile isBlank)
  match cs, readName? cs with
  | [], _ => (none, [])
  | cs, none => skipLine cs
  | _, some (name, rest) =>
    let close (value : Option (List Char)) (rest : List Char) : Option Assignment × List Char :=
      match readEnd? rest with
      | none => skipLine rest
      | some rest => (name.map fun n => (String.ofList n, value.map String.ofList), rest)
    match skipGap rest with
    | '=' :: rest =>
      match readValue? rest with
      | none => skipLine rest
      | some (value, rest) => close (some value) rest
    | rest => close none rest

/-- Reads all assignments of a text. Every line takes at least one character. -/
def assignments (cs : List Char) : List Assignment :=
  match readLine cs with
  | (found, rest) =>
    if _h : rest.length < cs.length then found.toList ++ assignments rest else found.toList
termination_by cs.length

/-! ## Interpolation -/

/-- Reads what stands behind `${`, up to the closing brace: a name, and a default behind `:-`. -/
def reference? (cs : List Char) : Option (List Char × List Char × List Char) :=
  let inName (c : Char) : Bool := c ≠ '\x7d' && c ≠ ':'
  match cs.dropWhile inName with
  | '\x7d' :: rest => some (cs.takeWhile inName, [], rest)
  | ':' :: '-' :: rest =>
    match rest.dropWhile (· ≠ '\x7d') with
    | [] => none
    | _ :: after => some (cs.takeWhile inName, rest.takeWhile (· ≠ '\x7d'), after)
  | _ => none

/-- Replaces the references in a value. `valueOf?` gives the value of a name; `none` means that
there is no such name, and a name without a value stands for nothing. -/
def interpolate (valueOf? : String → Option (Option String)) : Nat → List Char → List Char
  | _, [] => []
  | 0, cs => cs
  | fuel + 1, c :: rest =>
    match c, rest with
    | '$', '\x7b' :: inside =>
      match reference? inside with
      | some (name, fallback, after) =>
        (match valueOf? (String.ofList name) with
          | none => fallback
          | some none => []
          | some (some v) => v.toList) ++ interpolate valueOf? fuel after
      | none => c :: interpolate valueOf? fuel rest
    | _, _ => c :: interpolate valueOf? fuel rest

/-- Sets the value of a name: in its place if it is there, else as the last one. -/
def assign (name : String) (value : Option String) : List Assignment → List Assignment
  | [] => [(name, value)]
  | (n, v) :: rest => if n = name then (n, value) :: rest else (n, v) :: assign name value rest

/-- Resolves assignments one after the other. A reference finds the assignments before it first,
then the variables of the environment. -/
def resolve (env : Variables) (done : List Assignment) : List Assignment → List Assignment
  | [] => done
  | (name, value) :: rest =>
    let valueOf? (n : String) : Option (Option String) :=
      match done.lookup n with
      | some v => some v
      | none => (env.get? n).map some
    let value := value.map fun s =>
      String.ofList (interpolate valueOf? s.length s.toList)
    resolve env (assign name value done) rest

end RecordStore.DotEnv

namespace RecordStore

/-- The variables that the text of an `.env` file assigns. A byte order mark in front is
dropped. -/
def dotEnvVariables (env : Variables) (text : String) : List DotEnv.Assignment :=
  let cs := match text.toList with
    | '\ufeff' :: rest => rest
    | cs => cs
  DotEnv.resolve env [] (DotEnv.assignments (DotEnv.unifyLines cs))

end RecordStore
