/-
Named arguments for a record of settings. A field takes the first argument that has its name in any
case; arguments that name no field are ignored. Arguments may be read from JSON, where of several
names that differ only in case the last one counts.
-/
import RecordStore.Text.LowerCase
import RecordStore.Value.Convert
import RecordStore.Value.Equality

namespace RecordStore

/-- What is given for a field: a value, or a text of JSON that is no Unicode text, with the
replacement character for each surrogate that has no partner. -/
inductive Given where
  | value (v : Value)
  | brokenText (repaired : String)
  deriving Repr

namespace Given

/-- Converts what is given for a field, which has to be read if it is a text. -/
def convert {α : Type} (f : Value → Except Problem α) : Given → Except Problem α
  | .value v => f v
  | .brokenText _ => .error .notUnicode

/-- Converts what is given for a field that holds any text as it is. -/
def asText : Given → Except Problem String
  | .value v => v.asText
  | .brokenText repaired => .ok repaired

/-- What is given as a value. -/
def toValue : Given → Value
  | .value v => v
  | .brokenText repaired => .text repaired

end Given

/-- Arguments in order, each under its name. A name should be a text, but any value can stand in its
place. -/
abbrev Arguments := List (Value × Given)

namespace Arguments

/-- The entries of a mapping as arguments. -/
def ofEntries (es : Entries) : Arguments := es.map fun e => (e.1, .value e.2)

/-- A member of a JSON object as an argument. JSON has no bytes of its own: they stand for texts
that are no Unicode texts. -/
def ofMember : Value → Given
  | .bytes bs => .brokenText ((decodeUtf8? (replaceSurrogates bs)).getD "")
  | v => .value v

/-- The members of a JSON object as arguments for `fields`. A name that is one of the fields in
another case is put into the case of the field; a name that is no Unicode text names no field. -/
def ofObject (fields : List String) (es : Entries) : Arguments :=
  es.foldl (fun done e =>
    match e.1 with
    | .text name =>
      Value.put (.text ((fields.find? (· = lowerText name)).getD name)) (ofMember e.2) done
    | _ => done) []

/-- Whether every name is a text. -/
def areNamed (as : Arguments) : Bool := as.all fun a => a.1.kind = .text

/-- What is given for a field: the first argument that has its name in any case. -/
def find? (field : String) (as : Arguments) : Option Given :=
  (List.find? (fun (name, _) =>
    match name with
    | .text name => lowerText name = field
    | _ => false) as).map Prod.snd

/-- What is given under exactly this name. -/
def givenAs? (name : String) (as : Arguments) : Option Value :=
  (Value.lookup? (.text name) as).map Given.toValue

/-- The name under which a record itself is passed to what builds it. -/
def receiver : String := "__pydantic_self__"

/-- Merges arguments: those of `strong` replace those of `weak` with the same name, and the others
follow. -/
def merge (weak strong : Arguments) : Arguments :=
  strong.foldl (fun done a => Value.put a.1 a.2 done) weak

end Arguments

end RecordStore
