/-
Paths that arguments name. A path is taken apart at its slashes; steps that stay in place are left
out. A relative path may start in somebody's home. The only file that is looked at is the `.env`
file in the working directory.
-/
import RecordStore.Settings.Failure
import RecordStore.Text.Pieces

namespace RecordStore

/-- The path of a file or a directory. -/
structure Path where
  absolute : Bool
  steps : List String
  deriving DecidableEq, Repr

namespace Path

def ofString (s : String) : Path :=
  let cs := s.toList
  { absolute := cs.head? = some '/'
    steps := ((pieces ['/'] cs.length cs).map String.ofList).filter fun step =>
      step ≠ "" && step ≠ "." }

/-- The marks of the homes there are: that of the user, and that of the administrator by name. -/
def homes : List String := ["~", "~root"]

/-- Replaces the mark of a home by its place. -/
def fromHome (p : Path) : Except SettingsFailure Path :=
  match p.steps with
  | step :: rest =>
    if p.absolute || step.toList.head? ≠ some '~' then .ok p
    else if homes.contains step then .ok ⟨true, "root" :: rest⟩
    else .error .noHome
  | [] => .ok p

/-- The path that a value names. -/
def ofValue : Value → Except SettingsFailure Path
  | .text s => fromHome (ofString s)
  | v => .error (.misuse (.notPath v.kind))

/-- Whether a path names the `.env` file. -/
def isDotEnv (p : Path) : Bool := p = ⟨false, [".env"]⟩

/-- The names of paths that an argument lists: a text is a single one, and null is none. -/
def listed : Value → Except SettingsFailure (List Value)
  | .null => .ok []
  | .text s => .ok [.text s]
  | v =>
    match v.elements? with
    | some vs => .ok vs
    | none => .error (.misuse (.notIterable v.kind))

end Path

end RecordStore
