/-
Why settings could not be built, and the message each failure shows. Some failures refuse what was
given: where the settings are a field of other settings, these are complaints about the field.
-/
import RecordStore.Text.Encoding
import RecordStore.Text.Join
import RecordStore.Validation
import RecordStore.Value.Json

namespace RecordStore

/-- The records of settings. -/
inductive SettingsRecord where
  | database | app
  deriving DecidableEq, Repr

namespace SettingsRecord

def name : SettingsRecord → String
  | .database => "DatabaseSettings"
  | .app => "AppSettings"

/-- What the names of a record's variables start with, unless an argument says otherwise. -/
def stem : SettingsRecord → String
  | .database => "DBDM_DATABASE_"
  | .app => "DBDM_"

/-- The fields of a record, in order. -/
def fields : SettingsRecord → List String
  | .database => ["path", "timeout", "foreign_keys"]
  | .app => ["log_level", "db"]

/-- The fields that are truth values. -/
def flags : SettingsRecord → List String
  | .database => ["foreign_keys"]
  | .app => []

end SettingsRecord

/-- The sources that hold variables. -/
inductive VariableSource where
  | commandLine | environment | file
  deriving DecidableEq, Repr

/-- The name a source has in messages. -/
def VariableSource.name : VariableSource → String
  | .commandLine => "CliSettingsSource"
  | .environment => "EnvSettingsSource"
  | .file => "DotEnvSettingsSource"

/-- Arguments that cannot be used at all, whatever the fields hold. -/
inductive Misuse where
  /-- An argument has a name that is no text. -/
  | notNamed
  /-- An argument has the name under which the record itself is passed. -/
  | named (receiver : String)
  /-- What should start the names of variables has no length. -/
  | noLength (k : Kind)
  /-- What should be walked over cannot be. -/
  | notIterable (k : Kind)
  /-- What should name a file is no text. -/
  | notPath (k : Kind)
  /-- What should name an encoding is no text. -/
  | notEncoding (k : Kind)
  /-- What should bound a search is no number. -/
  | notDepth (k : Kind)
  /-- What should count splits is no number. -/
  | notCount (k : Kind)
  /-- What should count splits is a fraction. -/
  | notWhole (k : Kind)
  /-- What should split names is no text. -/
  | notDelimiter (k : Kind)
  /-- A word of a command line is no text. -/
  | notWord (k : Kind)
  /-- What should be a pair has no parts. -/
  | notPair (k : Kind)
  /-- What should be a source gives nothing. -/
  | notSource (k : Kind)
  deriving DecidableEq, Repr

def Misuse.message : Misuse → String
  | .notNamed => "keywords must be strings"
  | .named receiver =>
    "BaseSettings.__init__() got multiple values for argument '" ++ receiver ++ "'"
  | .noLength k => "object of type '" ++ k.name ++ "' has no len()"
  | .notIterable k => "'" ++ k.name ++ "' object is not iterable"
  | .notPath .bytes =>
    "argument should be a str object or an os.PathLike object returning str, not <class 'bytes'>"
  | .notPath k => "expected str, bytes or os.PathLike object, not " ++ k.name
  | .notEncoding k => "open() argument 'encoding' must be str or None, not " ++ k.name
  | .notDepth k => "'<=' not supported between instances of '" ++ k.name ++ "' and 'int'"
  | .notCount k => "unsupported operand type(s) for -: '" ++ k.name ++ "' and 'int'"
  | .notWhole k => "'" ++ k.name ++ "' object cannot be interpreted as an integer"
  | .notDelimiter k => "must be str or None, not " ++ k.name
  | .notWord .bytes | .notWord .buffer => "cannot use a string pattern on a bytes-like object"
  | .notWord k => "expected string or bytes-like object, got '" ++ k.name ++ "'"
  | .notPair k => "cannot unpack non-iterable " ++ k.name ++ " object"
  | .notSource k => "'" ++ k.name ++ "' object is not callable"

/-- Why a command line cannot be used. -/
inductive CommandLineFailure where
  /-- It is no list of words. -/
  | notWords (k : Kind)
  /-- The names of its options cannot start like this. -/
  | badStem (stem : String)
  /-- An option is not followed by a value. -/
  | noValue (option : String)
  /-- An option that takes no value has one. -/
  | valueIgnored (option value : String)
  /-- Words that belong to no option. -/
  | unknown (words : List String)
  deriving DecidableEq, Repr

def CommandLineFailure.message : CommandLineFailure → String
  | .notWords k => "cli_parse_args must be a list or tuple of strings, received <class '" ++
      k.name ++ "'>"
  | .badStem stem => "CLI settings source prefix is invalid: " ++ stem
  | .noValue option => "error parsing CLI: argument " ++ option ++ ": expected one argument"
  | .valueIgnored option value => "error parsing CLI: argument " ++ option ++
      ": ignored explicit argument " ++ quotedText value
  | .unknown words => "error parsing CLI: unrecognized arguments: " ++ joinWith " " words

/-- Why settings could not be built. -/
inductive SettingsFailure where
  /-- The arguments cannot be used. -/
  | misuse (m : Misuse)
  /-- What should be a pair has this many parts. -/
  | notTwo (parts : Nat)
  /-- The number of splits does not fit into a machine word. -/
  | splitsOutOfRange
  /-- A path starts in a home that nobody has. -/
  | noHome
  /-- The encoding of a file is none. -/
  | noEncoding (e : NoEncoding)
  /-- A file has no text in its encoding. -/
  | undecodable (e : Undecodable)
  /-- The command line cannot be used. -/
  | commandLine (e : CommandLineFailure)
  /-- The command line ends the program, with this status. -/
  | ended (status : Nat)
  /-- The name of a field's variable cannot be made. -/
  | notFound (field : String) (source : VariableSource)
  /-- The variable for the database settings is no JSON. -/
  | notJson (source : VariableSource)
  /-- The JSON for the database settings nests too deeply. -/
  | tooDeep (n : Json.Nesting)
  /-- What should hold secrets is a file and no directory. -/
  | secretsInFile
  /-- Fields of a record were rejected. -/
  | rejected (record : SettingsRecord) (cs : List Complaint)
  deriving Repr

/-- The word for what nests too deeply. -/
def Json.Nesting.word : Json.Nesting → String
  | .list => "array"
  | .object => "object"

namespace SettingsFailure

def message : SettingsFailure → String
  | .misuse m => m.message
  | .notTwo parts =>
    if parts < 2 then
      "not enough values to unpack (expected 2, got " ++ toString parts ++ ")"
    else "too many values to unpack (expected 2)"
  | .splitsOutOfRange => "Python int too large to convert to C ssize_t"
  | .noHome => "Could not determine home directory."
  | .noEncoding e => e.message
  | .undecodable e => e.message
  | .commandLine e => e.message
  | .ended status => toString status
  | .notFound field source =>
    "error getting value for field \"" ++ field ++ "\" from source \"" ++ source.name ++ "\""
  | .notJson source =>
    "error parsing value for field \"db\" from source \"" ++ source.name ++ "\""
  | .tooDeep n =>
    "maximum recursion depth exceeded while decoding a JSON " ++ n.word ++ " from a unicode string"
  | .secretsInFile => "secrets_dir must reference a directory, not a file"
  | .rejected record cs => complaintHeadline cs record.name

/-- Whether a failure refuses what was given, so that it can be a complaint about a field. -/
def isRefusal : SettingsFailure → Bool
  | .notTwo _ | .undecodable _ | .commandLine _ => true
  | .notFound _ _ | .notJson _ | .secretsInFile => true
  | _ => false

/-- What a failure to build the settings of a field is for the record with the field. Complaints
about settings that were given are complaints about the record. -/
def inside (record : SettingsRecord) (field : String) : SettingsFailure → SettingsFailure
  | .rejected _ cs => .rejected record (cs.map fun c => { c with path := field :: c.path })
  | e => if e.isRefusal then .rejected record [⟨[field], .refused e.message⟩] else e

end SettingsFailure

end RecordStore
