/-
Running operations together on one client. Ready tasks wait in a queue, first come, first served;
a task runs until it is suspended and then stands at the end of the queue. The client's lock is
fair: while it is held, tasks that need it park in a line of their own, and giving it back hands it
to the first of them, which joins the end of the queue. `run` goes on until no task is ready; every
turn uses up a part of `Pool.weight`, so it ends.
-/
import RecordStore.Schedule.World

namespace RecordStore

/-- An operation that needs the lock, as a task carries it. -/
structure Guarded (B : Boundary) where
  refusal : Reply
  body : Value → Program B Ending

/-- What a task does next. -/
inductive Phase (B : Boundary) where
  /-- It has not begun. -/
  | start (op : Operation B)
  /-- It waits for the lock, or has been handed it. -/
  | claiming (g : Guarded B)
  /-- It is in a call, under the lock. -/
  | holding (p : Pending B Ending)
  /-- It is in a call, without the lock. -/
  | free (p : Pending B Reply)

/-- How many turns a phase may take, suspensions apart. -/
def Phase.turns {B : Boundary} : Phase B → Nat
  | .start _ => 3
  | .claiming _ => 2
  | .holding _ => 1
  | .free _ => 1

/-- A task: an operation under way, with the rest of its script. -/
structure Task (B : Scripted) where
  id : Nat
  phase : Phase B.toBoundary
  /-- How many turns it lets pass before it goes on. -/
  delay : Nat := 0
  script : List (Entry B.Return) := []

/-- A task that ended. -/
structure Finished (B : Scripted) where
  id : Nat
  reply : Reply
  /-- What is left of its script. -/
  script : List (Entry B.Return)

/-- Tasks that run together. -/
structure Pool (B : Scripted) where
  world : World B.toBoundary
  ready : List (Task B)
  /-- The tasks in line for the lock. -/
  parked : List (Task B) := []
  finished : List (Finished B) := []

namespace Task

variable {B : Scripted}

/-- How many turns a task may still take, at most. -/
def weight (t : Task B) : Nat := t.phase.turns + t.delay + scriptTicks t.script

end Task

/-- The weights of tasks added up. -/
def totalWeight {B : Scripted} : List (Task B) → Nat
  | [] => 0
  | t :: ts => t.weight + totalWeight ts

namespace Pool

variable {B : Scripted}

/-- How many turns a pool may still take, at most. -/
def weight (p : Pool B) : Nat := totalWeight p.ready + totalWeight p.parked

/-- Puts a task at the end of the queue. -/
def enqueue (p : Pool B) (t : Task B) : Pool B := { p with ready := p.ready ++ [t] }

/-- Ends a task with a reply. -/
def finish (p : Pool B) (id : Nat) (reply : Reply) (script : List (Entry B.Return)) : Pool B :=
  { p with
    world := p.world.record id (.replied reply)
    finished := p.finished ++ [⟨id, reply, script⟩] }

/-- Gives the lock back: it goes to the first task in line, if there is one. -/
def release (p : Pool B) : Pool B :=
  match p.parked with
  | [] => { p with world := { p.world with locked := false } }
  | t :: ts => { p with ready := p.ready ++ [t], parked := ts }

/-- Writes log records of a task. -/
def logAll (p : Pool B) (id : Nat) (rs : List LogRecord) : Pool B :=
  { p with world := p.world.recordAll id (rs.map .logged) }

/-- Goes on with a program that runs without the lock. -/
def goFree (ids : IdSource) (p : Pool B) (id : Nat) (script : List (Entry B.Return))
    (program : Program B.toBoundary Reply) : Pool B :=
  match advance ids id p.world script program with
  | (w, .ended reply script) => { p with world := w }.finish id reply script
  | (w, .suspended pending delay script) =>
    { p with world := w }.enqueue ⟨id, .free pending, delay, script⟩

/-- Goes on with a program that runs under the lock. -/
def goHolding (ids : IdSource) (p : Pool B) (id : Nat) (script : List (Entry B.Return))
    (program : Program B.toBoundary Ending) : Pool B :=
  match advance ids id p.world script program with
  | (w, .ended ending script) =>
    (({ p with world := w }.release).logAll id ending.afterwards).finish id ending.reply script
  | (w, .suspended pending delay script) =>
    { p with world := w }.enqueue ⟨id, .holding pending, delay, script⟩

/-- Enters a guarded operation with the lock just obtained. -/
def enter (ids : IdSource) (p : Pool B) (id : Nat) (script : List (Entry B.Return))
    (g : Guarded B.toBoundary) : Pool B :=
  let client := p.world.client
  let p := { p with world := p.world.record id (.entered client.state) }
  match client.state, client.handle with
  | .connected, some handle => goHolding ids p id script (g.body handle)
  | _, _ => p.release.finish id g.refusal script

/-- Lets a task take its turn; `p` is the pool without it. -/
def take (ids : IdSource) (p : Pool B) (t : Task B) : Pool B :=
  match t.delay with
  | delay + 1 => p.enqueue { t with delay }
  | 0 =>
    match t.phase with
    | .free call =>
      goFree ids { p with world := p.world.record t.id call.event } t.id t.script call.rest
    | .holding call =>
      goHolding ids { p with world := p.world.record t.id call.event } t.id t.script call.rest
    | .claiming g => enter ids p t.id t.script g
    | .start op =>
      let state := p.world.client.state
      let p := { p with world := p.world.record t.id (.began state) }
      match op with
      | .free program => goFree ids p t.id t.script (program state)
      | .guarded refusal body =>
        if state ≠ .connected then p.finish t.id refusal t.script
        else if p.world.locked then
          { p with parked := p.parked ++ [{ t with phase := .claiming ⟨refusal, body⟩ }] }
        else
          enter ids { p with world := { p.world with locked := true } } t.id t.script
            ⟨refusal, body⟩

/-! ## Every turn uses up weight -/

theorem totalWeight_append (ts us : List (Task B)) :
    totalWeight (ts ++ us) = totalWeight ts + totalWeight us := by
  induction ts with
  | nil => simp [totalWeight]
  | cons t ts ih => simp [totalWeight, ih]; omega

theorem weight_enqueue (p : Pool B) (t : Task B) : (p.enqueue t).weight = p.weight + t.weight := by
  simp [weight, enqueue, totalWeight_append, totalWeight]; omega

theorem weight_finish (p : Pool B) (id : Nat) (r : Reply) (s : List (Entry B.Return)) :
    (p.finish id r s).weight = p.weight := rfl

theorem weight_release (p : Pool B) : p.release.weight = p.weight := by
  obtain ⟨world, ready, parked, finished⟩ := p
  cases parked with
  | nil => rfl
  | cons t ts => simp only [release, weight, totalWeight_append, totalWeight]; omega

theorem weight_logAll (p : Pool B) (id : Nat) (rs : List LogRecord) :
    (p.logAll id rs).weight = p.weight := rfl

/-- A call uses up the suspensions of the entry it takes. -/
theorem ticks_nextEntry_le (c : B.Call) (script : List (Entry B.Return)) :
    (B.nextEntry c script).1.ticks + scriptTicks (B.nextEntry c script).2 ≤ scriptTicks script := by
  cases script with
  | nil => exact Nat.le_refl _
  | cons e es =>
    simp only [Scripted.nextEntry]
    split
    · exact Nat.le_of_eq (Nat.zero_add _)
    · exact Nat.le_refl _

/-- A suspended program has used up more suspensions of its script than it still waits for. -/
theorem ticks_of_suspended {α : Type} (ids : IdSource) (id : Nat) (w : World B.toBoundary)
    (script : List (Entry B.Return)) (program : Program B.toBoundary α) {w' pending delay script'}
    (h : advance ids id w script program = (w', .suspended pending delay script')) :
    delay + scriptTicks script' < scriptTicks script := by
  induction program generalizing w script with
  | done a => simp [advance] at h
  | log r next ih => exact ih _ _ h
  | draw next ih => exact ih _ _ _ h
  | connect h next ih => exact ih _ _ h
  | close next ih => exact ih _ _ h
  | call c next ih =>
    have used : (B.nextEntry c script).1.ticks + scriptTicks (B.nextEntry c script).2 ≤
        scriptTicks script := ticks_nextEntry_le c script
    unfold advance at h
    cases ticks : (B.nextEntry c script).1.ticks with
    | zero =>
      simp only [ticks] at h
      exact Nat.lt_of_lt_of_le (ih _ _ _ h) (Nat.le_trans (Nat.le_add_left _ _) used)
    | succ delay =>
      simp only [ticks, Prod.mk.injEq, Progress.suspended.injEq] at h
      obtain ⟨-, -, rfl, rfl⟩ := h
      omega

theorem weight_goFree_le (ids : IdSource) (p : Pool B) (id : Nat) (s : List (Entry B.Return))
    (program : Program B.toBoundary Reply) :
    (goFree ids p id s program).weight ≤ p.weight + scriptTicks s := by
  unfold goFree
  split
  · exact Nat.le_add_right _ _
  · rename_i h
    have := ticks_of_suspended _ _ _ _ _ h
    rw [weight_enqueue]
    simp only [Task.weight, Phase.turns, weight]
    omega

theorem weight_goHolding_le (ids : IdSource) (p : Pool B) (id : Nat) (s : List (Entry B.Return))
    (program : Program B.toBoundary Ending) :
    (goHolding ids p id s program).weight ≤ p.weight + scriptTicks s := by
  unfold goHolding
  split
  · rw [weight_finish, weight_logAll, weight_release]
    exact Nat.le_add_right _ _
  · rename_i h
    have := ticks_of_suspended _ _ _ _ _ h
    rw [weight_enqueue]
    simp only [Task.weight, Phase.turns, weight]
    omega

theorem weight_enter_le (ids : IdSource) (p : Pool B) (id : Nat) (s : List (Entry B.Return))
    (g : Guarded B.toBoundary) : (enter ids p id s g).weight ≤ p.weight + scriptTicks s := by
  unfold enter
  simp only
  split
  · exact weight_goHolding_le _ _ _ _ _
  · rw [weight_finish, weight_release]
    exact Nat.le_add_right _ _

theorem weight_take_lt (ids : IdSource) (p : Pool B) (t : Task B) :
    (take ids p t).weight < p.weight + t.weight := by
  obtain ⟨id, phase, delay, script⟩ := t
  cases delay with
  | succ delay =>
    simp only [take, weight_enqueue, Task.weight]
    omega
  | zero =>
    cases phase with
    | free call =>
      exact Nat.lt_of_le_of_lt (weight_goFree_le ids _ id script call.rest) (by
        simp only [Task.weight, Phase.turns, weight]; omega)
    | holding call =>
      exact Nat.lt_of_le_of_lt (weight_goHolding_le ids _ id script call.rest) (by
        simp only [Task.weight, Phase.turns, weight]; omega)
    | claiming g =>
      exact Nat.lt_of_le_of_lt (weight_enter_le ids p id script g) (by
        simp only [Task.weight, Phase.turns]; omega)
    | start op =>
      cases op with
      | free program =>
        exact Nat.lt_of_le_of_lt (weight_goFree_le ids _ id script _) (by
          simp only [Task.weight, Phase.turns, weight]; omega)
      | guarded refusal body =>
        simp only [take]
        split
        · rw [weight_finish]
          simp only [Task.weight, Phase.turns, weight]
          omega
        · split
          · simp only [weight, totalWeight_append, totalWeight, Task.weight, Phase.turns]
            omega
          · exact Nat.lt_of_le_of_lt (weight_enter_le ids _ id script _) (by
              simp only [Task.weight, Phase.turns, weight]; omega)

end Pool

/-- Runs a pool until no task is ready. -/
def Pool.run {B : Scripted} (ids : IdSource) (p : Pool B) : Pool B :=
  match _h : p.ready with
  | [] => p
  | t :: ts => Pool.run ids (Pool.take ids { p with ready := ts } t)
termination_by p.weight
decreasing_by
  have lt := Pool.weight_take_lt ids { p with ready := ts } t
  have eq : p.weight = Pool.weight { p with ready := ts } + t.weight := by
    simp only [Pool.weight, _h, totalWeight]; omega
  omega

end RecordStore
