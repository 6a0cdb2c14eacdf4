/-
What a record of settings is read from. A setting is looked up on the command line if there is one,
then among the arguments, in the environment and in the `.env` file; each field of a record looks
for itself. Arguments can say that there are no such sources at all.
-/
import RecordStore.Settings.CommandLine
import RecordStore.Settings.DotEnv
import RecordStore.Settings.Lookup
import RecordStore.Settings.Path

namespace RecordStore

/-- The variables of the environment and the text of the `.env` file, if there is one. -/
structure Surroundings where
  env : Variables := []
  file : Option String := none
  deriving Repr

/-- What a variable is found to be. -/
inductive Reading where
  /-- It has a name, but no text. -/
  | absent
  /-- Its text stands for null. -/
  | null
  | text (s : String)
  deriving DecidableEq, Repr

/-- What is read from a variable. -/
def Reading.value? : Reading → Option Value
  | .absent => none
  | .null => some .null
  | .text s => some (.text s)

/-- The sources of a record. -/
structure Sources where
  record : SettingsRecord
  arguments : Arguments := []
  environment : Variables := []
  file : List DotEnv.Assignment := []
  commandLine : Variables := []
  /-- The rules for the environment and the file. -/
  lookup : Lookup := { stem := some "" }
  /-- The rules for the command line. -/
  commandLookup : Lookup := { stem := some "" }
  /-- Whether the `.env` file is listed among the directories of secrets: all paths that are
  listed, and whether the file is there. -/
  secrets : Value := .null
  hasFile : Bool := false
  deriving Repr

namespace Sources

/-! ## Gathering -/

/-- Checks the bound of the search for a file. There is only one place to look at, so any number
will do. -/
def checkDepth : Option Value → Except SettingsFailure Unit
  | none | some (.int _) | some (.bool _) | some (.float _) => .ok ()
  | some v => .error (.misuse (.notDepth v.kind))

/-- Reads the text of a file in an encoding; what counts as false is none. -/
def decode (encoding : Option Value) (text : String) : Except SettingsFailure String :=
  match encoding.filter Value.truthy with
  | none => .ok text
  | some (.text name) => do
    let e ← (Encoding.ofName name).mapError .noEncoding
    (e.reread text).mapError .undecodable
  | some v => .error (.misuse (.notEncoding v.kind))

/-- Reads the text of the `.env` file if it is there and one of the paths names it. -/
def readListed (s : Surroundings) (encoding depth : Option Value) :
    List Value → Except SettingsFailure (Option String)
  | [] => .ok none
  | v :: rest => do
    let path ← Path.ofValue v
    checkDepth depth
    let here ← if path.isDotEnv then s.file.mapM (decode encoding) else .ok none
    let later ← readListed s encoding depth rest
    return later.or here

/-- Reads the assignments of the `.env` file under the arguments of a record. -/
def readFile (s : Surroundings) (as : Arguments) :
    Except SettingsFailure (List DotEnv.Assignment) := do
  let paths ← Path.listed ((as.givenAs? "_env_file").getD (.text ".env"))
  let text ← readListed s (Lookup.argument? as "_env_file_encoding")
    (Lookup.argument? as "_env_file_depth") paths
  return (text.map (dotEnvVariables s.env)).getD []

/-- Whether characters are names with dots between them: letters, digits and underscores, with no
digit first and a dot at neither end. Only ASCII names are told apart like this. -/
def isDottedName (cs : List Char) : Bool :=
  let plain := cs.filter (· ≠ '.')
  cs.head? ≠ some '.' && cs.getLast? ≠ some '.' && !plain.isEmpty &&
    plain.all (fun c => c.isAlphanum || c = '_' || 0x80 ≤ c.toNat) &&
    !(plain.head?.map Char.isDigit).getD true

/-- How the options of a command line are written, under the arguments of a record. -/
def optionStyle (as : Arguments) : Except CommandLineFailure OptionStyle :=
  let style : OptionStyle := {
    dashed := Lookup.isTrue as "_cli_kebab_case"
    flags := Lookup.isTrue as "_cli_implicit_flags"
    json := !Lookup.isTrue as "_cli_avoid_json" }
  match ((Lookup.argument? as "_cli_prefix").bind Value.text?).getD "" with
  | "" => .ok style
  | stem =>
    if isDottedName stem.toList then .ok { style with stem := stem ++ "." }
    else .error (.badStem stem)

/-- Reads the words of a command line under the arguments of a record. A refused one ends the
program unless an argument says otherwise. -/
def readWords (record : SettingsRecord) (as : Arguments) (style : OptionStyle)
    (words : List Value) : Except SettingsFailure Variables := do
  match ← CommandLine.ofWords (style.options record) (Lookup.isTrue as "_case_sensitive")
      (Lookup.isTrue as "_cli_ignore_unknown_args") words with
  | .ok values => return values
  | .error .helped => throw (.ended 0)
  | .error (.refused e) =>
    throw (if ((Lookup.argument? as "_cli_exit_on_error").map Value.truthy).getD true then .ended 2
      else .commandLine e)

/-- Reads the command line that the arguments of a record hold. -/
def readCommandLine (record : SettingsRecord) (as : Arguments) :
    Except SettingsFailure Variables := do
  match Lookup.argument? as "_cli_parse_args" with
  | none => return []
  | some v =>
    let style ← (optionStyle as).mapError .commandLine
    match v with
    | .list words | .tuple words => readWords record as style words
    | .bool _ | .int 0 => return []
    | v =>
      if v.kind = .float && !v.truthy then return []
      else throw (.commandLine (.notWords v.kind))

/-- The rules for a command line under the arguments of a record. -/
def commandLookupOf (as : Arguments) : Lookup :=
  let null := if Lookup.isTrue as "_cli_avoid_json" then "None" else "null"
  let given := ((Lookup.argument? as "_cli_parse_none_str").bind Value.text?).filter (· ≠ "")
  { stem := some ((optionStyle as).toOption.map OptionStyle.stem |>.getD "")
    caseMatters := Lookup.isTrue as "_case_sensitive"
    nullText := some (given.getD null)
    delimiter := some (.text ".") }

/-- The sources that an argument gives in place of all others: a pair of them and of arguments. A
value is no source, so there can be none. -/
def ofPair (record : SettingsRecord) (v : Value) : Except SettingsFailure Sources :=
  match v.elements? with
  | none => .error (.misuse (.notPair v.kind))
  | some [sources, _] =>
    if sources.truthy then
      match sources.elements? with
      | none => .error (.misuse (.notIterable sources.kind))
      | some [] => .ok { record }
      | some (source :: _) => .error (.misuse (.notSource source.kind))
    else .ok { record }
  | some parts => .error (.notTwo parts.length)

/-- The sources of a record under its arguments. -/
def ofArguments (s : Surroundings) (record : SettingsRecord) (as : Arguments) :
    Except SettingsFailure Sources := do
  unless as.areNamed do throw (.misuse .notNamed)
  if (as.givenAs? Arguments.receiver).isSome then throw (.misuse (.named Arguments.receiver))
  match Lookup.argument? as "_build_sources" with
  | some v => ofPair record v
  | none =>
    let lookup ← (Lookup.ofArguments record as).mapError .misuse
    let file ← readFile s as
    let commandLine ← readCommandLine record as
    return {
      record, lookup, file, commandLine
      arguments := as
      environment := s.env
      commandLookup := commandLookupOf as
      secrets := (Lookup.argument? as "_secrets_dir").getD .null
      hasFile := s.file.isSome }

/-! ## Looking up -/

/-- Checks that the names of variables can be made. -/
def checkStem (s : Sources) : Except SettingsFailure Unit :=
  match s.lookup.stem with
  | some _ => .ok ()
  | none => .error (.notFound (s.record.fields.headD "") .environment)

/-- Checks that the directories of secrets are not files. Nothing else is looked for there. -/
def checkSecrets (s : Sources) : Except SettingsFailure Unit := do
  let paths ← (← Path.listed s.secrets).mapM Path.ofValue
  if s.hasFile && paths.any Path.isDotEnv then throw .secretsInFile

/-- The rules for a source. -/
def rules (s : Sources) : VariableSource → Lookup
  | .commandLine => s.commandLookup
  | _ => s.lookup

/-- The variables of a source with their texts, if they have any. -/
def texts (s : Sources) : VariableSource → List (String × Option String)
  | .commandLine => s.commandLine.map fun v => (v.1, some v.2)
  | .environment => s.environment.map fun v => (v.1, some v.2)
  | .file => s.file

/-- What a source says about variables, by their names as they are compared. -/
def readings (s : Sources) (source : VariableSource) : List (String × Reading) :=
  let l := s.rules source
  let kept := (s.texts source).filter fun v => !(l.skipsEmpty && v.2 = some "")
  kept.map fun v => (l.fold v.1, match v.2 with
    | none => .absent
    | some t => if l.nullText = some t then .null else .text t)

/-- What a source says about the variable of a field. Of several names that are compared as equal
the last one counts. -/
def reading (s : Sources) (source : VariableSource) (field : String) : Reading :=
  let name := (s.rules source).variableName field
  let found := (s.readings source).reverse.find? fun v => v.1 = name
  (found.map Prod.snd).getD .absent

/-- What is given for a field. -/
def given? (s : Sources) (field : String) : Option Given :=
  let read? (source : VariableSource) : Option Given :=
    (s.reading source field).value?.map .value
  read? .commandLine <|> s.arguments.find? field <|> read? .environment <|> read? .file

end Sources

/-- The value of a field: what is given for it, converted, else its default. -/
def fieldOr {α : Type} (default : α) (convert : Given → Except Problem α) :
    Option Given → Except Problem α
  | none => .ok default
  | some g => convert g

end RecordStore
