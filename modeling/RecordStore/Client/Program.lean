/-
Programs of the store: finite trees of calls to the world outside, log records, drawn
identifiers and changes of the client. A program says nothing about time; a call may take any
number of suspensions, and other programs run meanwhile.
-/
import RecordStore.LogRecord
import RecordStore.Fault

namespace RecordStore

/-- A boundary to the world outside: the calls that can be made across it and the answer each of
them has when it does not fail. -/
structure Boundary where
  Call : Type
  Answer : Call → Type

/-- A program across a boundary that ends with an `α`. -/
inductive Program (B : Boundary) (α : Type) where
  | done (a : α)
  /-- Makes a call and goes on with its answer or the fault it signalled. -/
  | call (c : B.Call) (next : Except Fault (B.Answer c) → Program B α)
  /-- Draws a fresh identifier; the source may fail. -/
  | draw (next : Except Fault Value → Program B α)
  /-- Writes a log record. -/
  | log (r : LogRecord) (next : Program B α)
  /-- Makes the client a connected one, on a handle. -/
  | connect (handle : Value) (next : Program B α)
  /-- Makes the client a closed one, without a handle. -/
  | close (next : Program B α)

namespace Program

variable {B C : Boundary} {α β : Type}

/-- Runs a program and then the program its result asks for. -/
def bind : Program B α → (α → Program B β) → Program B β
  | done a, f => f a
  | call c next, f => call c fun r => (next r).bind f
  | draw next, f => draw fun r => (next r).bind f
  | log r next, f => log r (next.bind f)
  | connect h next, f => connect h (next.bind f)
  | close next, f => close (next.bind f)

/-- Goes on with the result of a program unless it is a fault. -/
def andThen (p : Program B (Except Fault α)) (f : α → Program B (Except Fault β)) :
    Program B (Except Fault β) :=
  p.bind fun
    | .ok a => f a
    | .error e => .done (.error e)

/-- Runs a program and then another one, whatever the outcome of the first. The outcome stays that
of the first unless the second fails: then it is the fault of the second. -/
def ensuring (p : Program B (Except Fault α)) (after : Program B (Except Fault Unit)) :
    Program B (Except Fault α) :=
  p.bind fun r => after.andThen fun _ => .done r

/-- Interprets the calls of a program by programs across another boundary. -/
def interpret (via : (c : B.Call) → Program C (Except Fault (B.Answer c))) :
    Program B α → Program C α
  | done a => done a
  | call c next => (via c).bind fun r => (next r).interpret via
  | draw next => draw fun r => (next r).interpret via
  | log r next => log r (next.interpret via)
  | connect h next => connect h (next.interpret via)
  | close next => close (next.interpret via)

end Program

end RecordStore
