/-
Sessions are runs. A request that is served alone starts and takes every turn from then on; requests
that are served together start one after the other, and then the first ready task takes its turn until
none is ready. What holds throughout every run of a client therefore holds throughout every session.
-/
import RecordStore.Proofs.Schedule.Course

namespace RecordStore

variable {B : Scripted}

/-- A program runs to its end without regard to the lock. -/
theorem complete_locked {α : Type} (ids : IdSource) (task : Nat) (p : Program B.toBoundary α)
    (w : World B.toBoundary) (script : List (Entry B.Return)) (b : Bool) :
    complete ids task { w with locked := b } script p =
      ({ (complete ids task w script p).1 with locked := b }, (complete ids task w script p).2) := by
  induction p generalizing w script with
  | done a => rfl
  | log r next ih => exact ih (w.record task (.logged r)) script
  | draw next ih => exact ih _ (w.draw task _) script
  | connect handle next ih => exact ih (w.become task .connected (some handle)) script
  | close next ih => exact ih (w.become task .closed none) script
  | call k next ih => exact ih _ ((w.ask task k).record task (.answered k _)) _

namespace Pool

/-! ## A task alone in its pool -/

/-- The turns that a task lets pass change nothing when no other one takes them. -/
theorem run_delayed (ids : IdSource) (w : World B.toBoundary) (fs : List (Finished B)) (t : Task B) :
    run ids ⟨w, [t], [], fs⟩ = run ids ⟨w, [{ t with delay := 0 }], [], fs⟩ := by
  obtain ⟨id, phase, delay, script⟩ := t
  induction delay with
  | zero => rfl
  | succ delay ih =>
    rw [run_cons ids rfl]
    exact ih

/-- A task that is alone in its pool goes through its program to the end. Its turns take it to the end,
after which `last` is done, or leave it waiting in a call, and then it is resumed. -/
theorem run_lone {α : Type} (turn : Pool B → List (Entry B.Return) → Program B.toBoundary α → Pool B)
    (wait : Pending B.toBoundary α → Phase B.toBoundary) (last : World B.toBoundary → α → World B.toBoundary)
    (ids : IdSource) (id : Nat)
    (ended : ∀ {w w' : World B.toBoundary} {script script' : List (Entry B.Return)}
      {p : Program B.toBoundary α} {a : α} (fs : List (Finished B)),
      advance ids id w script p = (w', .ended a script') →
        ∃ fs', turn ⟨w, [], [], fs⟩ script p = ⟨last w' a, [], [], fs'⟩)
    (suspended : ∀ {w w' : World B.toBoundary} {script script' : List (Entry B.Return)}
      {p : Program B.toBoundary α} {call : Pending B.toBoundary α} {delay : Nat} (fs : List (Finished B)),
      advance ids id w script p = (w', .suspended call delay script') →
        turn ⟨w, [], [], fs⟩ script p = ⟨w', [⟨id, wait call, delay, script'⟩], [], fs⟩)
    (resumed : ∀ (w : World B.toBoundary) (call : Pending B.toBoundary α) (script : List (Entry B.Return))
      (fs : List (Finished B)), take ids ⟨w, [], [], fs⟩ ⟨id, wait call, 0, script⟩ =
        turn ⟨w.record id call.event, [], [], fs⟩ script call.rest)
    (w : World B.toBoundary) (script : List (Entry B.Return)) (p : Program B.toBoundary α)
    (fs : List (Finished B)) :
    ∃ fs', (turn ⟨w, [], [], fs⟩ script p).run ids =
      ⟨last (complete ids id w script p).1 (complete ids id w script p).2.1, [], [], fs'⟩ := by
  -- by induction on the suspensions that are left in the script
  induction hticks : scriptTicks script using Nat.strongRecOn generalizing w script p fs with
  | ind n ih =>
    subst hticks
    rcases hadvance : advance ids id w script p with ⟨w', ⟨a, script'⟩ | ⟨call, delay, script'⟩⟩
    · obtain ⟨fs', hturn⟩ := ended fs hadvance
      rw [hturn, run_nil ids rfl, complete_of_ended ids id p hadvance]
      exact ⟨fs', rfl⟩
    · have hless : scriptTicks script' < scriptTicks script := by
        have := ticks_of_suspended ids id w script p hadvance
        omega
      obtain ⟨fs', hrun⟩ := ih _ hless (w'.record id call.event) script' call.rest fs rfl
      refine ⟨fs', ?_⟩
      rw [suspended fs hadvance, run_delayed, run_cons ids rfl, resumed, hrun,
        complete_of_suspended ids id p hadvance]

theorem run_goFree (ids : IdSource) (id : Nat) (w : World B.toBoundary) (script : List (Entry B.Return))
    (p : Program B.toBoundary Reply) (fs : List (Finished B)) :
    ∃ fs', (goFree ids ⟨w, [], [], fs⟩ id script p).run ids =
      ⟨(complete ids id w script p).1.record id (.replied (complete ids id w script p).2.1), [], [], fs'⟩ := by
  refine run_lone (fun q => goFree ids q id) .free (fun w a => w.record id (.replied a)) ids id
    (fun fs h => ?_) (fun fs h => ?_) (fun _ _ _ _ => rfl) w script p fs
  · simp only [goFree, h]
    exact ⟨_, rfl⟩
  · simp only [goFree, h]
    rfl

/-- What is done at the end of a body: the lock is given back, and then the operation logs and replies. -/
theorem run_goHolding (ids : IdSource) (id : Nat) (w : World B.toBoundary) (script : List (Entry B.Return))
    (p : Program B.toBoundary Ending) (fs : List (Finished B)) :
    ∃ fs', (goHolding ids ⟨w, [], [], fs⟩ id script p).run ids =
      ⟨(World.recordAll { (complete ids id w script p).1 with locked := false } id
        ((complete ids id w script p).2.1.afterwards.map .logged)).record id
          (.replied (complete ids id w script p).2.1.reply), [], [], fs'⟩ := by
  refine run_lone (fun q => goHolding ids q id) .holding
    (fun w a => (World.recordAll { w with locked := false } id (a.afterwards.map .logged)).record id
      (.replied a.reply)) ids id (fun fs h => ?_) (fun fs h => ?_) (fun _ _ _ _ => rfl) w script p fs
  · simp only [goHolding, h]
    exact ⟨_, rfl⟩
  · simp only [goHolding, h]
    rfl

/-- A request that starts in an empty pool does what it does when it is served alone. -/
theorem run_start (ids : IdSource) (id : Nat) {w : World B.toBoundary} (hlive : w.client.Live)
    (hfree : w.locked = false) (script : List (Entry B.Return)) (op : Operation B.toBoundary)
    (fs : List (Finished B)) :
    ∃ fs', run ids ⟨w, [⟨id, .start op, 0, script⟩], [], fs⟩ = ⟨(op.alone ids id w script).1, [], [], fs'⟩ := by
  obtain ⟨⟨state, handle⟩, locked, openings, draws, history⟩ := w
  obtain rfl : locked = false := hfree
  rw [run_cons ids rfl]
  cases op with
  | free start => exact run_goFree ids id _ script _ fs
  | guarded refusal body =>
    cases state with
    | unconnected | closed => exact ⟨_, run_nil ids rfl⟩
    | connected =>
      obtain ⟨v, rfl⟩ : ∃ v, handle = some v := hlive rfl
      let entered : World B.toBoundary :=
        ⟨⟨.connected, some v⟩, false, openings, draws, history ++ [(id, .began .connected)] ++ [(id, .entered .connected)]⟩
      obtain ⟨fs', hrun⟩ := run_goHolding ids id { entered with locked := true } script (body v) fs
      have hkept : { (complete ids id entered script (body v)).1 with locked := false } =
          (complete ids id entered script (body v)).1 :=
        (Prod.mk.inj (complete_locked ids id (body v) entered script false)).1.symm
      rw [complete_locked] at hrun
      dsimp only at hrun
      rw [hkept] at hrun
      exact ⟨fs', hrun⟩

/-! ## Tasks that ended before -/

/-- The pool with further tasks that ended before. -/
def after (fs : List (Finished B)) (p : Pool B) : Pool B := { p with finished := fs ++ p.finished }

variable {fs : List (Finished B)} {p : Pool B}

theorem finish_after (id : Nat) (reply : Reply) (script : List (Entry B.Return)) :
    (p.after fs).finish id reply script = (p.finish id reply script).after fs := by
  simp [after, finish]

theorem release_after : (p.after fs).release = p.release.after fs := by
  unfold release after
  dsimp only
  split <;> rfl

theorem goFree_after (ids : IdSource) (id : Nat) (script : List (Entry B.Return))
    (program : Program B.toBoundary Reply) :
    goFree ids (p.after fs) id script program = (goFree ids p id script program).after fs := by
  unfold goFree
  rw [show (p.after fs).world = p.world from rfl]
  split
  · rename_i w reply script' h
    exact finish_after (p := { p with world := w }) id reply script'
  · rfl

theorem goHolding_after (ids : IdSource) (id : Nat) (script : List (Entry B.Return))
    (program : Program B.toBoundary Ending) :
    goHolding ids (p.after fs) id script program = (goHolding ids p id script program).after fs := by
  unfold goHolding
  rw [show (p.after fs).world = p.world from rfl]
  split
  · rename_i w ending script' h
    rw [show Pool.release { p.after fs with world := w } = (Pool.release { p with world := w }).after fs from
      release_after (p := { p with world := w })]
    exact finish_after (p := (Pool.release { p with world := w }).logAll id ending.afterwards) id ending.reply script'
  · rfl

theorem enter_after (ids : IdSource) (id : Nat) (script : List (Entry B.Return)) (g : Guarded B.toBoundary) :
    enter ids (p.after fs) id script g = (enter ids p id script g).after fs := by
  let entered : Pool B := { p with world := p.world.record id (.entered p.world.client.state) }
  unfold enter
  rw [show (p.after fs).world = p.world from rfl]
  dsimp only
  split
  · exact goHolding_after (p := entered) ids id script _
  · rw [show Pool.release { p.after fs with world := p.world.record id (.entered p.world.client.state) } =
      (Pool.release entered).after fs from release_after (p := entered)]
    exact finish_after (p := Pool.release entered) id g.refusal script

theorem take_after (ids : IdSource) (t : Task B) : take ids (p.after fs) t = (take ids p t).after fs := by
  obtain ⟨id, phase, delay, script⟩ := t
  cases delay with
  | succ delay => rfl
  | zero =>
    cases phase with
    | free call => exact goFree_after (p := { p with world := p.world.record id call.event }) ids id script call.rest
    | holding call =>
      exact goHolding_after (p := { p with world := p.world.record id call.event }) ids id script call.rest
    | claiming g => exact enter_after ids id script g
    | start op =>
      let begun : Pool B := { p with world := p.world.record id (.began p.world.client.state) }
      cases op with
      | free start => exact goFree_after (p := begun) ids id script _
      | guarded refusal body =>
        simp only [take]
        rw [show (p.after fs).world = p.world from rfl]
        split
        · exact finish_after (p := begun) id refusal script
        · split
          · rfl
          · exact enter_after (p := { begun with world := { begun.world with locked := true } }) ids id script _

/-- Tasks that ended before make no difference to those that run. -/
theorem run_after (ids : IdSource) (p : Pool B) : (p.after fs).run ids = (p.run ids).after fs := by
  induction p using Pool.run.induct ids with
  | case1 p hready => rw [run_nil ids hready, run_nil ids (show (p.after fs).ready = [] from hready)]
  | case2 p t ts hready ih =>
    rw [run_cons ids hready, run_cons ids (show (p.after fs).ready = t :: ts from hready), ← ih]
    exact congrArg (Pool.run ids) (take_after (p := { p with ready := ts }) ids t)

/-- A pool that ran to its end has no ready task. -/
theorem run_ready (ids : IdSource) (p : Pool B) : (p.run ids).ready = [] := by
  induction p using Pool.run.induct ids with
  | case1 p hready => rw [run_nil ids hready, hready]
  | case2 p t ts hready ih => rw [run_cons ids hready, ih]

end Pool

/-! ## Sessions -/

/-- The run has come to where the session stands: no task is left. -/
structure Session.Stands (s : Session B.toBoundary) (r : Run B) : Prop where
  world : r.pool.world = s.world
  tasks : r.jobs.length = s.tasks
  idle : r.pool.ready = []

/-- Throughout every run the pool is orderly, and a client that is connected has a handle. -/
theorem Setup.play_orderly (c : Setup B) (ms : List (Move B.Return)) :
    (c.play ms).pool.Orderly ∧ (c.play ms).pool.world.client.Live := by
  have rule : Upheld (fun _ _ => True) (fun (_ : List (Nat × Event B.toBoundary)) k => k.Live)
      (fun _ _ _ => True) :=
    ⟨fun _ _ hlive _ hturn => ⟨hturn.live hlive, fun _ _ => trivial⟩, fun _ _ _ _ _ _ _ _ => trivial⟩
  have hupholds := c.play_upholds rule nofun (fun _ _ _ => trivial) ms (fun _ _ _ => trivial)
  exact ⟨hupholds.orderly, hupholds.world⟩

namespace Session

mutual

/-- The jobs that a step serves. -/
def stepJobs (c : Setup B) (s : Session B.toBoundary) : Step B.Return → List (Job B.Return)
  | .single job => [job]
  | .together jobs => jobs
  | .block body _ script =>
    let (t, entered, rest) := s.serve c ⟨.connect, script⟩
    match entered.result with
    | .error _ => [⟨.connect, script⟩]
    | .ok _ => ⟨.connect, script⟩ :: (jobs c t body ++ [⟨.close, rest⟩])

/-- The jobs that steps serve, in their order. -/
def jobs (c : Setup B) (s : Session B.toBoundary) : List (Step B.Return) → List (Job B.Return)
  | [] => []
  | st :: sts => stepJobs c s st ++ jobs c (step c s st).1 sts

end

variable {c : Setup B} {s : Session B.toBoundary} {ms : List (Move B.Return)}

theorem Stands.report {r : Run B} (hs : s.Stands r) : s.report.1.Stands r := ⟨hs.world, hs.tasks, hs.idle⟩

/-- In a run that has come to where a session stands, the lock is free and the client has a handle if it is
connected. -/
theorem Stands.free (hs : s.Stands (c.play ms)) :
    s.world.locked = false ∧ (c.play ms).pool.parked = [] ∧ s.world.client.Live := by
  have hidle : (c.play ms).pool.world.locked = false ∧ (c.play ms).pool.parked = [] := by
    rcases (c.play_orderly ms).1.owned with ⟨-, t, ht⟩ | ⟨hlocked, -, hparked⟩
    · rw [Pool.holders, hs.idle] at ht
      cases ht
    · exact ⟨hlocked, hparked⟩
  rw [← hs.world]
  exact ⟨hidle.1, hidle.2, (c.play_orderly ms).2⟩

/-- The moves that serve jobs together: they start one after the other, and then the first ready task takes
its turn until none is ready. -/
theorem Stands.starts (hs : s.Stands (c.play ms)) (js : List (Job B.Return)) :
    ∃ n fs, c.play (ms ++ (js.map .start ++ List.replicate n (.turn 0))) =
      { jobs := (c.play ms).jobs ++ js
        pool := (Pool.run c.ids { world := s.world, ready := tasksOf c s.tasks js }).after fs } := by
  obtain ⟨n, hn⟩ := Run.drains c ((js.map Move.start).foldl (Run.move c) (c.play ms))
  have hpool : { (c.play ms).pool with ready := (c.play ms).pool.ready ++ tasksOf c (c.play ms).jobs.length js } =
      Pool.after (c.play ms).pool.finished { world := s.world, ready := tasksOf c s.tasks js } := by
    dsimp only [Pool.after]
    rw [hs.idle, hs.tasks, hs.world, hs.free.2.1, List.nil_append, List.append_nil]
  refine ⟨n, (c.play ms).pool.finished, ?_⟩
  unfold Setup.play at hn hpool ⊢
  rw [List.foldl_append, List.foldl_append, hn, Run.starts, hpool, Pool.run_after]

/-- A request that is served alone is served in a run. -/
theorem serve_played (hs : s.Stands (c.play ms)) (job : Job B.Return) :
    ∃ more, (s.serve c job).1.Stands (c.play (ms ++ more)) ∧
      (c.play (ms ++ more)).jobs = (c.play ms).jobs ++ [job] := by
  obtain ⟨hfree, -, hlive⟩ := hs.free
  obtain ⟨n, fs, hplay⟩ := hs.starts [job]
  obtain ⟨fs', hrun⟩ := Pool.run_start c.ids s.tasks hlive hfree job.script (c.operation job.request) []
  have hpool : Pool.run c.ids { world := s.world, ready := tasksOf c s.tasks [job] } = _ := hrun
  rw [hpool] at hplay
  refine ⟨_, ⟨by rw [hplay]; rfl, ?_, by rw [hplay]; rfl⟩, by rw [hplay]⟩
  rw [hplay]
  exact List.length_append.trans (congrArg (· + 1) hs.tasks)

/-- Requests that are served together are served in a run. -/
theorem serveTogether_played (hs : s.Stands (c.play ms)) (js : List (Job B.Return)) :
    ∃ more, (s.serveTogether c js).1.Stands (c.play (ms ++ more)) ∧
      (c.play (ms ++ more)).jobs = (c.play ms).jobs ++ js := by
  obtain ⟨n, fs, hplay⟩ := hs.starts js
  refine ⟨_, ⟨by rw [hplay]; rfl, ?_, ?_⟩, by rw [hplay]⟩
  · rw [hplay]
    exact List.length_append.trans (congrArg (· + js.length) hs.tasks)
  · rw [hplay]
    exact Pool.run_ready c.ids _

mutual

/-- From where a session stands, a run goes on to where the session stands after a step. -/
theorem step_played {ms : List (Move B.Return)} : ∀ {s : Session B.toBoundary}, s.Stands (c.play ms) →
    ∀ st : Step B.Return, ∃ more, (step c s st).1.Stands (c.play (ms ++ more)) ∧
      (c.play (ms ++ more)).jobs = (c.play ms).jobs ++ stepJobs c s st
  | s, hs, .single job =>
    have ⟨more, hserved, hjobs⟩ := serve_played hs job
    ⟨more, hserved.report, hjobs⟩
  | s, hs, .together js =>
    have ⟨more, hserved, hjobs⟩ := serveTogether_played hs js
    ⟨more, hserved.report, hjobs⟩
  | s, hs, .block body signalled script => by
    obtain ⟨more₁, hentered, hjobs₁⟩ := serve_played hs ⟨.connect, script⟩
    unfold step stepJobs
    generalize serve c s ⟨.connect, script⟩ = x at *
    obtain ⟨t, ⟨result, data⟩, rest⟩ := x
    cases result with
    | error failure => exact ⟨more₁, hentered.report, hjobs₁⟩
    | ok v =>
      obtain ⟨more₂, hthrough, hjobs₂⟩ := steps_played hentered body
      obtain ⟨more₃, hleft, hjobs₃⟩ := serve_played hthrough ⟨.close, rest⟩
      rw [List.append_assoc, List.append_assoc] at hleft hjobs₃
      rw [List.append_assoc] at hjobs₂ hjobs₃
      refine ⟨more₁ ++ (more₂ ++ more₃), hleft.report, ?_⟩
      rw [hjobs₃, hjobs₂, hjobs₁]
      simp

theorem steps_played {ms : List (Move B.Return)} : ∀ {s : Session B.toBoundary}, s.Stands (c.play ms) →
    ∀ sts : List (Step B.Return), ∃ more, (steps c s sts).1.Stands (c.play (ms ++ more)) ∧
      (c.play (ms ++ more)).jobs = (c.play ms).jobs ++ jobs c s sts
  | _, hs, [] => ⟨[], by rwa [List.append_nil], by rw [List.append_nil]; exact (List.append_nil _).symm⟩
  | s, hs, st :: sts => by
    obtain ⟨more₁, hstep, hjobs₁⟩ := step_played hs st
    obtain ⟨more₂, hsteps, hjobs₂⟩ := steps_played hstep sts
    rw [List.append_assoc] at hsteps hjobs₂
    refine ⟨more₁ ++ more₂, hsteps, ?_⟩
    rw [hjobs₂, hjobs₁, List.append_assoc]
    rfl

end

/-- What every turn keeps is kept from one point where a session stands to a later one. -/
theorem Stands.keeps {ops : Nat → Operation B.toBoundary → Prop}
    {J : List (Nat × Event B.toBoundary) → Client → Prop}
    {A : List (Nat × Event B.toBoundary) → Nat → Phase B.toBoundary → Prop} (rule : Upheld ops J A)
    (start : ∀ {h : List (Nat × Event B.toBoundary)} {k : Client} {n : Nat}
      {op : Operation B.toBoundary}, J h k → ops n op → (∀ e ∈ h, e.1 ≠ n) → A h n (.start op))
    (hops : ∀ n (job : Job B.Return), ops n (c.operation job.request)) (hs : s.Stands (c.play ms))
    (hj : J s.world.history s.world.client) {t : Session B.toBoundary} {more : List (Move B.Return)}
    (ht : t.Stands (c.play (ms ++ more))) : J t.world.history t.world.client := by
  have hstanding : (c.play ms).pool.standing = [] := by
    rw [Pool.standing, Pool.tasks, hs.idle, hs.free.2.1]
    rfl
  have hnone {P : Nat × Phase B.toBoundary → Prop} : ∀ x ∈ (c.play ms).pool.standing, P x := by
    rw [hstanding]
    exact List.forall_mem_nil _
  have hupholds : (c.play ms).pool.Upholds ops J A := by
    refine ⟨(c.play_orderly ms).1, ?_, hnone, hs.world ▸ hj, hnone⟩
    rw [hstanding]
    exact List.nodup_nil
  have hmoved := (Run.upholds_moves c rule start hupholds (c.play_numbered ms) more fun n job _ => hops n job).1.world
  rw [← ht.world]
  unfold Setup.play at hmoved ⊢
  rw [List.foldl_append]
  exact hmoved

end Session

/-- Every session of a client is a run of it, of the jobs that its steps serve. -/
theorem Setup.session_played (c : Setup B) (sts : List (Step B.Return)) :
    ∃ ms, (Session.steps c {} sts).1.Stands (c.play ms) ∧ (c.play ms).jobs = Session.jobs c {} sts := by
  have fresh : ({} : Session B.toBoundary).Stands (c.play []) := ⟨rfl, rfl, rfl⟩
  exact Session.steps_played fresh sts

end RecordStore
