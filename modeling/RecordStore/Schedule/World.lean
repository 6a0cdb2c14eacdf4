/-
The shared world of running programs: the client, its lock, how much has been asked of the outside
so far, and the history of everything that happened, in order. What the outside answers is scripted
per task: each call takes the next entry of its task's script.
-/
import RecordStore.Client.Operation

namespace RecordStore

/-- A client: where it is in its life, and the handle it holds. -/
structure Client where
  state : Lifecycle := .unconnected
  handle : Option Value := none
  deriving Repr

/-- A boundary with answers from a script. `answer c n r` is the answer of a call, or the fault it
signals by itself, when `n` openings were asked for, this one included, and the script says `r` or
nothing. -/
structure Scripted extends Boundary where
  /-- What a script can say a call returns. -/
  Return : Type
  /-- Whether a call asks for an opening. -/
  opening : Call → Bool
  /-- Whether a call is answered at once, without an entry of the script. -/
  immediate : Call → Bool
  answer : (c : Call) → Nat → Option Return → Except Fault (Answer c)

/-- One entry of a script: how often a call is suspended, and then its fault or what it
returns. -/
structure Entry (R : Type) where
  ticks : Nat := 0
  outcome : Except Fault (Option R) := .ok none

namespace Scripted

/-- The entry of a script that a call takes, and the rest. A call that is answered at once and a
script that is used up give the default entry. -/
def nextEntry (B : Scripted) (c : B.Call) :
    List (Entry B.Return) → Entry B.Return × List (Entry B.Return)
  | [] => ({}, [])
  | e :: es => if B.immediate c then ({}, e :: es) else (e, es)

end Scripted

/-- All suspensions a script asks for. -/
def scriptTicks {R : Type} : List (Entry R) → Nat
  | [] => 0
  | e :: es => e.ticks + scriptTicks es

/-- What a call comes back with when it takes this entry and `n` openings were asked for. -/
def Entry.result {B : Scripted} (e : Entry B.Return) (c : B.Call) (n : Nat) :
    Except Fault (B.Answer c) :=
  match e.outcome with
  | .ok returned => B.answer c n returned
  | .error f => .error f.outside

/-- Something that happened. -/
inductive Event (B : Boundary) where
  /-- An operation began, with the client in this state. -/
  | began (s : Lifecycle)
  /-- A guarded operation obtained the lock, with the client in this state. -/
  | entered (s : Lifecycle)
  /-- A call was made. -/
  | called (c : B.Call)
  /-- A call came back. -/
  | answered (c : B.Call) (r : Except Fault (B.Answer c))
  /-- An identifier was drawn. -/
  | drew (r : Except Fault Value)
  | logged (r : LogRecord)
  /-- The client changed to this state. -/
  | became (s : Lifecycle)
  /-- An operation ended. -/
  | replied (r : Reply)

/-- The world of the programs across a boundary. -/
structure World (B : Boundary) where
  client : Client := {}
  /-- Whether a task holds the lock. -/
  locked : Bool := false
  /-- The openings asked for so far. -/
  openings : Nat := 0
  /-- The identifiers drawn so far. -/
  draws : Nat := 0
  /-- What happened, each event with the task it happened in. -/
  history : List (Nat × Event B) := []

/-- A source of identifiers: the outcome of the `n`-th draw, counted from 1. -/
abbrev IdSource := Nat → Except Fault Value

namespace World

variable {B : Boundary}

/-- Adds an event of a task to the history. -/
def record (w : World B) (task : Nat) (e : Event B) : World B :=
  { w with history := w.history ++ [(task, e)] }

/-- Adds events of a task to the history. -/
def recordAll (w : World B) (task : Nat) (es : List (Event B)) : World B :=
  { w with history := w.history ++ es.map fun e => (task, e) }

/-- Puts the client into a state, with a handle or without one. -/
def become (w : World B) (task : Nat) (s : Lifecycle) (handle : Option Value) : World B :=
  { w with client := ⟨s, handle⟩ }.record task (.became s)

/-- Draws an identifier with this outcome: the world afterwards counts it. -/
def draw (w : World B) (task : Nat) (r : Except Fault Value) : World B :=
  { w with draws := w.draws + 1 }.record task (.drew r)

/-- Makes a call: the world afterwards counts it if it asks for an opening. -/
def ask {B : Scripted} (w : World B.toBoundary) (task : Nat) (c : B.Call) : World B.toBoundary :=
  { w with openings := w.openings + if B.opening c then 1 else 0 }.record task (.called c)

end World

/-- A call under way: what it will come back with, and the program that goes on then. -/
structure Pending (B : Boundary) (α : Type) where
  call : B.Call
  result : Except Fault (B.Answer call)
  next : Except Fault (B.Answer call) → Program B α

namespace Pending

variable {B : Boundary} {α : Type}

/-- The event of the call coming back. -/
def event (p : Pending B α) : Event B := .answered p.call p.result

/-- The program that goes on once the call has come back. -/
def rest (p : Pending B α) : Program B α := p.next p.result

end Pending

/-- How far a program got in one turn. -/
inductive Progress (B : Scripted) (α : Type) where
  /-- It ended, with the rest of its script. -/
  | ended (a : α) (script : List (Entry B.Return))
  /-- It is suspended in a call, for `delay` turns after the next. -/
  | suspended (p : Pending B.toBoundary α) (delay : Nat) (script : List (Entry B.Return))

/-- Runs a program of a task to its end or its next suspension. -/
def advance {B : Scripted} {α : Type} (ids : IdSource) (task : Nat) (w : World B.toBoundary)
    (script : List (Entry B.Return)) :
    Program B.toBoundary α → World B.toBoundary × Progress B α
  | .done a => (w, .ended a script)
  | .log r next => advance ids task (w.record task (.logged r)) script next
  | .draw next =>
    let r := (ids (w.draws + 1)).mapError Fault.outside
    advance ids task (w.draw task r) script (next r)
  | .connect h next => advance ids task (w.become task .connected (some h)) script next
  | .close next => advance ids task (w.become task .closed none) script next
  | .call c next =>
    let (e, script) := B.nextEntry c script
    let w := w.ask task c
    let r := e.result c w.openings
    match e.ticks with
    | 0 => advance ids task (w.record task (.answered c r)) script (next r)
    | delay + 1 => (w, .suspended ⟨c, r, next⟩ delay script)

/-- The scripted storage: any value may be returned. Without an entry an opening returns the label
`hN` with the number of openings, a writing statement affects one record, and queries find
nothing. -/
abbrev ScriptedStorage : Scripted where
  toBoundary := Storage
  Return := Value
  opening
    | .open _ => true
    | _ => false
  immediate _ := false
  answer c openings returned :=
    match returned with
    | some v => .ok v
    | none => match c with
      | .open _ => .ok (.text ("h" ++ toString openings))
      | .execute _ _ => .ok (.int 1)
      | .queryAll _ _ => .ok (.list [])
      | .queryOne _ _ => .ok .null
      | .close _ => .ok .null

end RecordStore
