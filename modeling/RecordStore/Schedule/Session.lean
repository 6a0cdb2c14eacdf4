/-
Sessions: one client used step by step. A step is a single request, several requests started
together, or a block that connects on entry and closes on exit. After each step the session reports
the state of the client and what happened since the report before.
-/
import RecordStore.Schedule.Alone
import RecordStore.Schedule.Pool

namespace RecordStore

/-- What a client is made of: the path of its database, its storage driver, and its source of
identifiers. -/
structure Setup (B : Scripted) where
  path : String
  driver : Driver B.toBoundary
  ids : IdSource

/-- A request with the script of its calls. -/
structure Job (R : Type) where
  request : Request
  script : List (Entry R) := []

/-- A step of a session. -/
inductive Step (R : Type) where
  | single (job : Job R)
  /-- Requests started together, in this order. -/
  | together (jobs : List (Job R))
  /-- A block around further steps, at whose end a fault may be signalled. The script serves
  entering and leaving. -/
  | block (body : List (Step R)) (signalled : Option Fault) (script : List (Entry R))

/-- The client after a step, and what happened since the report before. -/
structure Report (B : Boundary) where
  state : Lifecycle
  events : List (Event B)

/-- The answer to a step. -/
inductive Answer (B : Boundary) where
  | single (reply : Reply) (report : Report B)
  | together (replies : List Reply) (report : Report B)
  /-- A block that could not be entered. -/
  | refused (failure : Failure) (report : Report B)
  /-- A block that was entered, with the failure it was left with. -/
  | block (body : List (Answer B)) (failure : Option Failure) (report : Report B)

/-- A session under way. -/
structure Session (B : Boundary) where
  world : World B := {}
  /-- The tasks begun so far; the next task gets this number. -/
  tasks : Nat := 0
  /-- How much of the history has been reported. -/
  reported : Nat := 0

namespace Setup

variable {B : Scripted}

/-- The operation of a request on this client. -/
def operation (c : Setup B) (r : Request) : Operation B.toBoundary :=
  (r.operation c.path).through c.driver

end Setup

namespace Session

variable {B : Scripted}

/-- Reports what happened since the report before. -/
def report {B : Boundary} (s : Session B) : Session B × Report B :=
  ({ s with reported := s.world.history.length },
    ⟨s.world.client.state, (s.world.history.drop s.reported).map Prod.snd⟩)

/-- Serves a request alone; the rest of its script comes back. -/
def serve (c : Setup B) (s : Session B.toBoundary) (job : Job B.Return) :
    Session B.toBoundary × Reply × List (Entry B.Return) :=
  let (world, reply, script) := (c.operation job.request).alone c.ids s.tasks s.world job.script
  ({ s with world, tasks := s.tasks + 1 }, reply, script)

/-- The tasks of jobs that start together, numbered from `first` on. -/
def tasksOf (c : Setup B) (first : Nat) : List (Job B.Return) → List (Task B)
  | [] => []
  | job :: jobs =>
    { id := first, phase := .start (c.operation job.request), script := job.script } ::
      tasksOf c (first + 1) jobs

/-- Serves requests together; the replies are in the order of the jobs. -/
def serveTogether (c : Setup B) (s : Session B.toBoundary) (jobs : List (Job B.Return)) :
    Session B.toBoundary × List Reply :=
  let tasks := tasksOf c s.tasks jobs
  let pool := Pool.run c.ids { world := s.world, ready := tasks }
  ({ s with world := pool.world, tasks := s.tasks + jobs.length },
    tasks.filterMap fun t => (pool.finished.find? (·.id == t.id)).map Finished.reply)

mutual

/-- Takes a step. -/
def step (c : Setup B) (s : Session B.toBoundary) :
    Step B.Return → Session B.toBoundary × Answer B.toBoundary
  | .single job =>
    let (s, reply, _) := s.serve c job
    let (s, report) := s.report
    (s, .single reply report)
  | .together jobs =>
    let (s, replies) := s.serveTogether c jobs
    let (s, report) := s.report
    (s, .together replies report)
  | .block body signalled script =>
    let (s, entered, script) := s.serve c ⟨.connect, script⟩
    match entered.result with
    | .error failure =>
      let (s, report) := s.report
      (s, .refused failure report)
    | .ok _ =>
      let (s, answers) := steps c s body
      let (s, left, _) := s.serve c ⟨.close, script⟩
      let (s, report) := s.report
      (s, .block answers
        (match left.result with
          | .error failure => some failure
          | .ok _ => signalled.map .passed) report)

/-- Takes steps one after the other. -/
def steps (c : Setup B) (s : Session B.toBoundary) :
    List (Step B.Return) → Session B.toBoundary × List (Answer B.toBoundary)
  | [] => (s, [])
  | st :: sts =>
    let (s, answer) := step c s st
    let (s, answers) := steps c s sts
    (s, answer :: answers)

end

end Session

/-- The answers of a whole session of a fresh client. -/
def Setup.run {B : Scripted} (c : Setup B) (sts : List (Step B.Return)) :
    List (Answer B.toBoundary) :=
  (Session.steps c {} sts).2

end RecordStore
