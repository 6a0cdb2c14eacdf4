/-
Fields of a nested record in variables of their own. If the rules of the look-up name a delimiter,
a variable whose name goes on behind the field and the delimiter is for a field of the record nested
there, or for a field deeper inside.
-/
import RecordStore.Settings.Sources
import RecordStore.Text.Pieces

namespace RecordStore

/-- Puts what is read from a variable at a path of names. What is no mapping on the way is left as
it is, and null replaces nothing but an empty mapping. -/
def Reading.putAt (r : Reading) : List String → Entries → Entries
  | [], es => es
  | [name], es =>
    let keeps := r = .null && match Value.lookup? (.text name) es with
      | none => false
      | some (.map []) => false
      | some _ => true
    if keeps then es else Value.put (.text name) (r.value?.getD .null) es
  | name :: names, es =>
    match Value.lookup? (.text name) es with
    | none => Value.put (.text name) (.map (r.putAt names [])) es
    | some (.map inner) => Value.put (.text name) (.map (r.putAt names inner)) es
    | some _ => es

/-- The names that a text goes through: its pieces between delimiters, which have to be texts. -/
def Lookup.namesIn (l : Lookup) (delimiter : Value) (cs : List Char) :
    Except SettingsFailure (List String) := do
  let cuts ← l.splits.bound cs.length
  match delimiter with
  | .text mark => return (pieces mark.toList cuts cs).map String.ofList
  | _ => throw (.misuse (.notDelimiter delimiter.kind))

namespace Sources

/-- Each name once, at its first place, with the last reading. -/
def lastReadings (rs : List (String × Reading)) : List (String × Reading) :=
  rs.foldl (fun done r =>
    if done.any (·.1 = r.1) then done.map fun d => if d.1 = r.1 then r else d else done ++ [r]) []

/-- What a source says about the fields of the record nested at a field. A delimiter is looked for
by the text it shows. -/
def nestedEntries (s : Sources) (source : VariableSource) (field : String) :
    Except SettingsFailure Entries :=
  let l := s.rules source
  match l.delimiter with
  | none => .ok []
  | some delimiter =>
    let start := (l.variableName field).toList ++ delimiter.display.toList
    (lastReadings (s.readings source)).foldlM (fun es v =>
      let name := v.1.toList
      if start.isPrefixOf name then
        (l.namesIn delimiter (name.drop start.length)).map fun names => v.2.putAt names es
      else .ok es) []

end Sources

/-- The entries of a mapping as arguments for a record. If the case of names does not matter they
are put into the case of the fields. -/
def Lookup.objectArguments (l : Lookup) (record : SettingsRecord) (es : Entries) : Arguments :=
  .ofObject (if l.caseMatters then [] else record.fields) es

end RecordStore
