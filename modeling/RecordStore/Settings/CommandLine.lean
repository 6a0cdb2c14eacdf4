/-
Command lines that settings can be read from. An option is written with two dashes and followed by
its value, which may also stand behind an equals sign; the last one of an option counts. A record
nested at a field has an option for itself, which takes JSON, and one for each of its fields behind
a dot. A field that is a flag can have two options without a value instead.
-/
import RecordStore.Settings.Failure
import RecordStore.Settings.Variables
import RecordStore.Text.Blank
import RecordStore.Text.LowerCase

namespace RecordStore

/-- What follows an option. -/
inductive OptionValue where
  | required
  /-- A value, or nothing, which stands for this text. -/
  | optional (alone : String)
  /-- Nothing; the option stands for this text. -/
  | fixed (text : String)
  deriving DecidableEq, Repr

/-- An option of a command line. -/
structure CommandOption where
  /-- The name of what it sets. -/
  target : String
  /-- How it is written behind the dashes. -/
  written : String
  value : OptionValue := .required
  deriving Repr

/-- How the options of a record are written. -/
structure OptionStyle where
  /-- What all names start with. -/
  stem : String := ""
  /-- Whether words of a name are separated by dashes and not by underscores. -/
  dashed : Bool := false
  /-- Whether a flag has an option for each of its values. -/
  flags : Bool := false
  /-- Whether nested records can be given as JSON. -/
  json : Bool := true
  deriving Repr

namespace OptionStyle

/-- A name as it is written. -/
def write (style : OptionStyle) (name : String) : String :=
  if style.dashed then String.ofList (name.toList.map fun c => if c = '_' then '-' else c) else name

/-- The options for a field of a record, behind `start`. -/
def field (style : OptionStyle) (record : SettingsRecord) (start name : String) :
    List CommandOption :=
  let target := style.stem ++ start ++ name
  let written := style.write target
  if style.flags && record.flags.contains name then
    [⟨target, written, .fixed "true"⟩, ⟨target, "no-" ++ written, .fixed "false"⟩]
  else [⟨target, written, .required⟩]

/-- The options for the fields of a record. -/
def options (style : OptionStyle) : SettingsRecord → List CommandOption
  | .database => SettingsRecord.database.fields.flatMap (style.field .database "")
  | .app =>
    let db := style.stem ++ "db"
    style.field .app "" "log_level" ++
      (if style.json then [⟨db, style.write db, .optional "\x7b\x7d"⟩] else []) ++
      SettingsRecord.database.fields.flatMap (style.field .database "db.")

end OptionStyle

/-- What a word of a command line is. -/
inductive CommandWord where
  /-- An option, perhaps with its value. -/
  | option (o : CommandOption) (attached : Option String)
  /-- A request for help. -/
  | help
  /-- Something written like an option, but none of them. -/
  | unknown (word : String)
  | value (word : String)
  deriving Repr

namespace CommandWord

/-- Whether characters are written like a negative number. -/
def isNegative (cs : List Char) : Bool :=
  match cs with
  | '-' :: digits =>
    let rest := digits.dropWhile Char.isDigit
    match rest with
    | [] => !digits.isEmpty
    | '.' :: fraction => !fraction.isEmpty && fraction.all Char.isDigit
    | _ => false
  | _ => false

/-- The option that is written as a word, without a value. -/
def option? (os : List CommandOption) (word : List Char) : Option CommandOption :=
  os.find? fun o => "--".toList ++ o.written.toList = word

/-- Finds out what a word is. -/
def ofString (os : List CommandOption) (word : String) : CommandWord :=
  let cs := word.toList
  let name := cs.takeWhile (· ≠ '=')
  if cs.head? ≠ some '-' || cs.length = 1 then .value word
  else if word = "-h" || word = "--help" then .help
  else
    match option? os cs, option? os name with
    | some o, _ => .option o none
    | none, some o => .option o (some (String.ofList (cs.drop (name.length + 1))))
    | none, none => if isNegative cs || cs.contains ' ' then .value word else .unknown word

/-- The words of a command line. What stands behind two dashes is no option. -/
def ofStrings (os : List CommandOption) : List String → List CommandWord
  | [] => []
  | "--" :: rest => .unknown "--" :: rest.map .value
  | word :: rest => ofString os word :: ofStrings os rest

/-- The name of an option in small letters: one or two dashes, and what follows up to a blank or an
equals sign. Of the rest of the word only the first line is kept. -/
def foldCase (word : String) : String :=
  let cs := word.toList
  let inName (c : Char) : Bool := !isBlank c && c ≠ '='
  let name := cs.takeWhile inName
  if cs.head? ≠ some '-' || name.length < 2 then word
  else
    lowerText (String.ofList name) ++
      String.ofList ((cs.drop name.length).takeWhile (· ≠ '\n'))

end CommandWord

/-- What a command line says. -/
structure CommandLine where
  /-- The values of options, by their names. -/
  values : Variables := []
  /-- The words that belong to no option. -/
  others : List String := []
  deriving Repr

namespace CommandLine

/-- Sets the target of an option. -/
def put (l : CommandLine) (o : CommandOption) (v : String) : CommandLine :=
  { l with values := l.values.put o.target v }

/-- Leaves a word that belongs to no option. -/
def leave (l : CommandLine) (word : String) : CommandLine :=
  { l with others := l.others ++ [word] }

/-- The failure of a command line: a refusal, or the end of the program. -/
inductive Stop where
  | refused (e : CommandLineFailure)
  | helped
  deriving DecidableEq, Repr

/-- The name of an option in messages: all the ways in which it can be written. -/
def shown (os : List CommandOption) (o : CommandOption) : String :=
  joinWith "/" ((os.filter fun p => p.target = o.target).map fun p => "--" ++ p.written)

/-- Reads words from the left. -/
def read (os : List CommandOption) (done : CommandLine) :
    List CommandWord → Except Stop CommandLine
  | [] => .ok done
  | .help :: _ => .error .helped
  | .unknown word :: rest | .value word :: rest => read os (done.leave word) rest
  | .option o (some v) :: rest =>
    match o.value with
    | .fixed _ => .error (.refused (.valueIgnored (shown os o) v))
    | _ => read os (done.put o v) rest
  | .option o none :: .value v :: rest =>
    match o.value with
    | .fixed fixed => read os ((done.put o fixed).leave v) rest
    | _ => read os (done.put o v) rest
  | .option o none :: rest =>
    match o.value with
    | .fixed v | .optional v => read os (done.put o v) rest
    | .required => .error (.refused (.noValue (shown os o)))

/-- The text of a word in a list; what counts as false is an empty one. -/
def wordOf : Value → Except Misuse String
  | .text s => .ok s
  | v => if v.truthy then .error (.notWord v.kind) else .ok ""

/-- Reads the words of a list. Unless `lenient`, no word may be left over. -/
def ofWords (os : List CommandOption) (caseMatters lenient : Bool) (vs : List Value) :
    Except SettingsFailure (Except Stop Variables) :=
  match vs.mapM wordOf with
  | .error m => .error (.misuse m)
  | .ok words =>
    let words := if caseMatters then words else words.map CommandWord.foldCase
    .ok (match read os {} (CommandWord.ofStrings os words) with
      | .error e => .error e
      | .ok line =>
        if lenient || line.others.isEmpty then .ok line.values
        else .error (.refused (.unknown line.others)))

end CommandLine

end RecordStore
