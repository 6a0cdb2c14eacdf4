/-
All runs of one client. At every point of a run another job may start, and any ready task may take
its turn, so calls come back in any order. Throughout a run each task serves the job it was started
for: what it is about to do is a part of that job's operation.
-/
import RecordStore.Proofs.Schedule.Line

namespace RecordStore

variable {B : Scripted}

/-- A run under way: the jobs started so far, and the pool of the tasks that serve them. Task `i`
serves job `i`. -/
structure Run (B : Scripted) where
  jobs : List (Job B.Return) := []
  pool : Pool B := { world := {}, ready := [] }

/-- A move of a run. -/
inductive Move (R : Type) where
  /-- Another job starts. -/
  | start (job : Job R)
  /-- The task at this place of the queue takes its turn. -/
  | turn (place : Nat)

/-- Makes a move. -/
def Run.move (c : Setup B) (r : Run B) : Move B.Return → Run B
  | .start job =>
    { jobs := r.jobs ++ [job]
      pool := r.pool.enqueue
        { id := r.jobs.length, phase := .start (c.operation job.request), script := job.script } }
  | .turn place =>
    match r.pool.ready[place]? with
    | none => r
    | some t =>
      { r with pool := Pool.take c.ids { r.pool with ready := r.pool.ready.eraseIdx place } t }

/-- The run that these moves of a fresh client make. -/
def Setup.play (c : Setup B) (ms : List (Move B.Return)) : Run B := ms.foldl (Run.move c) {}

theorem Setup.play_concat (c : Setup B) (ms : List (Move B.Return)) (m : Move B.Return) :
    c.play (ms ++ [m]) = (c.play ms).move c m := by
  unfold Setup.play
  rw [List.foldl_append]
  rfl

/-- What holds at the beginning and is kept by every move of a run holds throughout the run. -/
theorem Setup.play_induct {c : Setup B} {P : Run B → Prop} (fresh : P {})
    (move : ∀ ms m, P (c.play ms) → P ((c.play ms).move c m)) (ms : List (Move B.Return)) :
    P (c.play ms) := by
  have hfrom : ∀ done, P (c.play done) → P (c.play (done ++ ms)) := by
    induction ms with
    | nil =>
      intro done h
      rw [List.append_nil]
      exact h
    | cons m ms ih =>
      intro done h
      rw [List.append_cons]
      refine ih (done ++ [m]) ?_
      rw [play_concat]
      exact move done m h
  exact hfrom [] fresh

/-! ## What a task is about to do -/

/-- The phase is one of a task that serves this operation. -/
def Phase.Of {B : Boundary} (op : Operation B) : Phase B → Prop
  | .start op' => op' = op
  | .claiming g => op = .guarded g.refusal g.body
  | .holding call => ∃ refusal body handle, op = .guarded refusal body ∧
    (body handle).Leaves (.call call.call call.next)
  | .free call => ∃ start state, op = .free start ∧ (start state).Leaves (.call call.call call.next)

theorem Program.Leaves.trans {B : Boundary} {α : Type} {p q r : Program B α} (hp : p.Leaves q)
    (hq : q.Leaves r) : p.Leaves r := by
  induction hp with
  | refl p => exact hq
  | call a _ ih => exact .call a (ih hq)
  | draw a _ ih => exact .draw a (ih hq)
  | log _ ih => exact .log (ih hq)
  | connect _ ih => exact .connect (ih hq)
  | close _ ih => exact .close (ih hq)

/-- What goes on after a call is a part of the program that made it. -/
theorem Pending.leaves_rest {B : Boundary} {α : Type} {p : Program B α} {call : Pending B α}
    (h : p.Leaves (.call call.call call.next)) : p.Leaves call.rest :=
  h.trans (.call call.result (.refl _))

namespace Pool

/-- The tasks of a pool that have not ended. -/
def tasks (p : Pool B) : List (Task B) := p.ready ++ p.parked

/-- What a turn of a task does to the tasks: each was there before, or it is the task itself, still
serving its operation. -/
def Keeps (op : Operation B.toBoundary) (id : Nat) (p q : Pool B) : Prop :=
  ∀ u ∈ q.tasks, u ∈ p.tasks ∨ u.id = id ∧ u.phase.Of op

variable {op : Operation B.toBoundary} {id : Nat} {p q : Pool B}

theorem Keeps.of_eq (h : q.tasks = p.tasks) : Keeps op id p q := fun _ hu => .inl (h ▸ hu)

theorem tasks_release (p : Pool B) : p.release.tasks = p.tasks := by
  obtain ⟨world, ready, parked, finished⟩ := p
  cases parked with
  | nil => rfl
  | cons t ts => exact List.append_assoc ready [t] ts

theorem enqueue_keeps {t : Task B} (ht : t.id = id ∧ t.phase.Of op) (h : q.tasks = p.tasks) :
    Keeps op id p (q.enqueue t) := by
  intro u hu
  rw [← h]
  simp only [tasks, enqueue, List.append_assoc, List.mem_append, List.mem_singleton] at hu ⊢
  rcases hu with hu | rfl | hu
  · exact .inl (.inl hu)
  · exact .inr ht
  · exact .inl (.inr hu)

theorem goFree_keeps (ids : IdSource) {script : List (Entry B.Return)}
    {start : Lifecycle → Program B.toBoundary Reply} {state : Lifecycle}
    {program : Program B.toBoundary Reply} (hop : op = .free start)
    (hp : (start state).Leaves program) (h : q.tasks = p.tasks) :
    Keeps op id p (goFree ids q id script program) := by
  unfold goFree
  split
  · exact .of_eq h
  · rename_i hs
    exact enqueue_keeps ⟨rfl, start, state, hop, hp.trans (advance_leaves ids id hs)⟩ h

theorem goHolding_keeps (ids : IdSource) {script : List (Entry B.Return)} {refusal : Reply}
    {body : Value → Program B.toBoundary Ending} {handle : Value}
    {program : Program B.toBoundary Ending} (hop : op = .guarded refusal body)
    (hp : (body handle).Leaves program) (h : q.tasks = p.tasks) :
    Keeps op id p (goHolding ids q id script program) := by
  unfold goHolding
  split
  · exact .of_eq ((tasks_release _).trans h)
  · rename_i hs
    exact enqueue_keeps ⟨rfl, refusal, body, handle, hop, hp.trans (advance_leaves ids id hs)⟩ h

theorem enter_keeps (ids : IdSource) {script : List (Entry B.Return)} {g : Guarded B.toBoundary}
    (hop : op = .guarded g.refusal g.body) (h : q.tasks = p.tasks) :
    Keeps op id p (enter ids q id script g) := by
  unfold enter
  dsimp only
  split
  · exact goHolding_keeps ids hop (.refl _) h
  · exact .of_eq ((tasks_release _).trans h)

/-- The turn of a task leaves every task with the operation it serves. -/
theorem take_keeps (ids : IdSource) (p : Pool B) {t : Task B} (ht : t.phase.Of op) :
    Keeps op t.id p (take ids p t) := by
  obtain ⟨id, phase, delay, script⟩ := t
  cases delay with
  | succ delay => exact enqueue_keeps ⟨rfl, ht⟩ rfl
  | zero =>
    cases phase with
    | free call =>
      obtain ⟨start, state, hop, hcall⟩ := ht
      exact goFree_keeps ids hop (Pending.leaves_rest hcall) rfl
    | holding call =>
      obtain ⟨refusal, body, handle, hop, hcall⟩ := ht
      exact goHolding_keeps ids hop (Pending.leaves_rest hcall) rfl
    | claiming g => exact enter_keeps ids ht rfl
    | start op' =>
      cases op' with
      | free start => exact goFree_keeps ids ht.symm (.refl _) rfl
      | guarded refusal body =>
        simp only [take]
        split
        · exact .of_eq rfl
        · split
          · intro u hu
            simp only [tasks, ← List.append_assoc, List.mem_append (s := p.ready ++ p.parked),
              List.mem_singleton] at hu
            rcases hu with hu | rfl
            · exact .inl hu
            · exact .inr ⟨rfl, ht.symm⟩
          · exact enter_keeps ids ht.symm rfl

end Pool

/-- Each task serves the operation of its job. -/
def Run.Serves (c : Setup B) (r : Run B) : Prop :=
  ∀ t ∈ r.pool.tasks, ∃ job, r.jobs[t.id]? = some job ∧ t.phase.Of (c.operation job.request)

theorem Run.Serves.move {c : Setup B} {r : Run B} (h : r.Serves c) (m : Move B.Return) :
    (r.move c m).Serves c := by
  cases m with
  | start job =>
    let started : Task B :=
      { id := r.jobs.length, phase := .start (c.operation job.request), script := job.script }
    have hof : started.phase.Of (c.operation job.request) := rfl
    intro t ht
    rcases Pool.enqueue_keeps ⟨rfl, hof⟩ rfl t ht with ht | ⟨hid, hof⟩
    · obtain ⟨job', hjob, hphase⟩ := h t ht
      obtain ⟨hlt, -⟩ := List.getElem?_eq_some_iff.1 hjob
      exact ⟨job', (List.getElem?_append_left hlt).trans hjob, hphase⟩
    · exact ⟨job, by rw [hid]; exact List.getElem?_concat_length, hof⟩
  | turn place =>
    unfold Run.move
    dsimp only
    split
    · exact h
    · rename_i t hready
      obtain ⟨job, hjob, hphase⟩ := h t (List.mem_append_left _ (List.mem_of_getElem? hready))
      intro u hu
      rcases Pool.take_keeps c.ids _ hphase u hu with hold | ⟨hid, hof⟩
      · refine h u ?_
        rcases List.mem_append.1 hold with hold | hold
        · exact List.mem_append_left _ (List.mem_of_mem_eraseIdx hold)
        · exact List.mem_append_right _ hold
      · exact ⟨job, hid ▸ hjob, hof⟩

/-- Throughout a run, each task serves the operation of its job. -/
theorem Setup.play_serves (c : Setup B) (ms : List (Move B.Return)) : (c.play ms).Serves c :=
  play_induct (List.forall_mem_nil _) (fun _ m h => h.move m) ms

/-! ## Requests served together -/

/-- Jobs that start one after the other stand in the queue in their order. -/
theorem Run.starts (c : Setup B) (jobs : List (Job B.Return)) (r : Run B) :
    (jobs.map Move.start).foldl (Run.move c) r =
      { jobs := r.jobs ++ jobs
        pool := { r.pool with ready := r.pool.ready ++ Session.tasksOf c r.jobs.length jobs } } := by
  induction jobs generalizing r with
  | nil => simp [Session.tasksOf]
  | cons job jobs ih =>
    rw [List.map_cons, List.foldl_cons, ih]
    simp [Run.move, Session.tasksOf, Pool.enqueue]

/-- Turns of the first place run the pool to its end. -/
theorem Run.drains (c : Setup B) (r : Run B) :
    ∃ n, (List.replicate n (Move.turn 0)).foldl (Run.move c) r =
      { r with pool := r.pool.run c.ids } := by
  obtain ⟨jobs, p⟩ := r
  -- the pool takes its turns from the front of the queue, which is the first place
  induction p using Pool.run.induct c.ids with
  | case1 p hready => exact ⟨0, by rw [Pool.run_nil c.ids hready]; rfl⟩
  | case2 p t ts hready ih =>
    obtain ⟨n, hn⟩ := ih
    refine ⟨n + 1, ?_⟩
    rw [List.replicate_succ, List.foldl_cons, Pool.run_cons c.ids hready, ← hn]
    simp [Run.move, hready]

end RecordStore
