/-
Running an operation alone, from its beginning to its end. Nothing else happens while it is
suspended, so suspensions have no effect, and the lock, which is free before, is free again after.
-/
import RecordStore.Schedule.World

namespace RecordStore

variable {B : Scripted}

/-- Runs a program of a task to its end: the world afterwards, the result, and the rest of the
script. -/
def complete {α : Type} (ids : IdSource) (task : Nat) (w : World B.toBoundary)
    (script : List (Entry B.Return)) :
    Program B.toBoundary α → World B.toBoundary × α × List (Entry B.Return)
  | .done a => (w, a, script)
  | .log r next => complete ids task (w.record task (.logged r)) script next
  | .draw next =>
    let r := (ids (w.draws + 1)).mapError Fault.outside
    complete ids task (w.draw task r) script (next r)
  | .connect h next => complete ids task (w.become task .connected (some h)) script next
  | .close next => complete ids task (w.become task .closed none) script next
  | .call c next =>
    let (e, script) := B.nextEntry c script
    let w := w.ask task c
    let r := e.result c w.openings
    complete ids task (w.record task (.answered c r)) script (next r)

/-- Runs an operation alone: the world afterwards, the reply, and the rest of the script. -/
def Operation.alone (ids : IdSource) (task : Nat) (w : World B.toBoundary)
    (script : List (Entry B.Return)) (op : Operation B.toBoundary) :
    World B.toBoundary × Reply × List (Entry B.Return) :=
  let state := w.client.state
  let w := w.record task (.began state)
  let (w, reply, script) : World B.toBoundary × Reply × List (Entry B.Return) :=
    match op with
    | .free start => complete ids task w script (start state)
    | .guarded refusal body =>
      match state, w.client.handle with
      | .connected, some handle =>
        let w := w.record task (.entered state)
        let (w, ending, script) := complete ids task w script (body handle)
        (w.recordAll task (ending.afterwards.map .logged), ending.reply, script)
      | _, _ => (w, refusal, script)
  (w.record task (.replied reply), reply, script)

end RecordStore
