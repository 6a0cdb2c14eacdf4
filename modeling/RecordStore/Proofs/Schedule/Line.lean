/-
The order of operations that the lock of a client and its line fix: the task that has the lock, the
tasks parked behind it, the tasks that have not begun. Settling the tasks of a pool in this order
leads to a world and to replies that no turn changes, so a pool that ran to its end has the world
and the replies that its tasks settle to.

A task that is refused at once, while the lock is still taken, is no exception: the client is not
connected then, and none of the tasks before it connects. All tasks are those of guarded operations
here; connecting needs no lock and has no place in the line.
-/
import RecordStore.Proofs.Schedule.Settling
import Mathlib.Data.List.Perm.Basic
import Mathlib.Tactic.Tauto
import Mathlib.Tactic.Set

namespace RecordStore

variable {B : Scripted}

/-- The task has not begun. -/
def Task.waits (t : Task B) : Bool :=
  match t.phase with
  | .start _ => true
  | _ => false

namespace Pool

/-- The task that has the lock, if any. -/
def owner (p : Pool B) : List (Task B) := p.ready.filter fun t => !t.waits

/-- The tasks that have not begun. -/
def waiting (p : Pool B) : List (Task B) := p.ready.filter Task.waits

/-- The tasks of a pool in the order in which they get the lock. -/
def line (p : Pool B) : List (Task B) := p.owner ++ (p.parked ++ p.waiting)

/-- The replies so far, each with its task. -/
def replies (p : Pool B) : List (Nat × Reply) := p.finished.map fun f => (f.id, f.reply)

/-- All tasks are guarded ones, those that have not begun begin at their turn, and those parked
want the lock. -/
structure Guarding (p : Pool B) : Prop where
  guards : ∀ t ∈ p.ready ++ p.parked, t.phase.Guards
  prompt : ∀ t ∈ p.waiting, t.delay = 0
  claims : ∀ t ∈ p.parked, t.waits = false

/-- One task has the lock, or none has it and none is parked. -/
structure Fair (p : Pool B) : Prop extends p.Guarding where
  owned : (p.world.locked = true ∧ ∃ t, p.owner = [t]) ∨
    p.world.locked = false ∧ p.owner = [] ∧ p.parked = []

/-- The pool during the turn of the task that has the lock: that task is not in it. -/
structure Vacant (p : Pool B) : Prop extends p.Guarding where
  locked : p.world.locked = true
  owner : p.owner = []

theorem Vacant.setWorld {p : Pool B} (h : p.Vacant) {w : World B.toBoundary}
    (hl : w.locked = true) : Vacant { p with world := w } :=
  ⟨⟨h.guards, h.prompt, h.claims⟩, hl, h.owner⟩

/-- Settling the tasks of a fair pool leads to a world like this one and to these replies, in some
order. -/
structure Leads (ids : IdSource) (p : Pool B) (w : World B.toBoundary) (rs : List (Nat × Reply)) :
    Prop where
  fair : p.Fair
  world : (settleAll ids p.world p.line).1.Alike w
  replies : (p.replies ++ (settleAll ids p.world p.line).2).Perm rs

/-- Giving the lock back makes the first parked task the owner, and changes nothing else. -/
theorem release_fair {p : Pool B} (h : p.Vacant) :
    p.release.Fair ∧ p.release.line = p.parked ++ p.waiting ∧ p.release.world.Alike p.world ∧
      p.release.replies = p.replies := by
  obtain ⟨world, ready, parked, finished⟩ := p
  have howner : ready.filter (fun t => !t.waits) = [] := h.owner
  cases parked with
  | nil =>
    refine ⟨⟨⟨h.guards, h.prompt, h.claims⟩, .inr ⟨rfl, howner, rfl⟩⟩, ?_, World.alike_locked _ _, rfl⟩
    simp only [release, line, Pool.owner, Pool.waiting, howner, List.nil_append]
  | cons t ts =>
    have ht : t.waits = false := h.claims t List.mem_cons_self
    have hready : (ready ++ [t]).filter (fun t => !t.waits) = [t] := by
      simp [List.filter_append, howner, ht]
    have hwaiting : (ready ++ [t]).filter Task.waits = ready.filter Task.waits := by
      simp [List.filter_append, ht]
    refine ⟨⟨⟨?_, ?_, ?_⟩, .inl ⟨h.locked, t, hready⟩⟩, ?_, .refl _, rfl⟩
    · intro u hu
      exact h.guards u (by simpa [release, or_assoc] using hu)
    · intro u hu
      exact h.prompt u (by simpa only [release, Pool.waiting, hwaiting] using hu)
    · exact fun u hu => h.claims u (List.mem_cons_of_mem t hu)
    · simp only [release, line, Pool.owner, Pool.waiting, hready, hwaiting, List.cons_append,
        List.nil_append]

/-- The owner goes back into the queue: it stays the first in line. -/
theorem enqueue_fair {p : Pool B} (h : p.Vacant) {t : Task B} (ht : t.waits = false)
    (hg : t.phase.Guards) :
    (p.enqueue t).Fair ∧ (p.enqueue t).line = t :: (p.parked ++ p.waiting) := by
  have howner : (p.enqueue t).owner = [t] := by
    have : p.ready.filter (fun t => !t.waits) = [] := h.owner
    simp [Pool.owner, enqueue, List.filter_append, this, ht]
  have hwaiting : (p.enqueue t).waiting = p.waiting := by
    simp [Pool.waiting, enqueue, List.filter_append, ht]
  refine ⟨⟨⟨?_, ?_, h.claims⟩, .inl ⟨h.locked, t, howner⟩⟩, ?_⟩
  · intro u hu
    have : u ∈ p.ready ++ p.parked ∨ u = t := by
      simp only [enqueue, List.mem_append, List.mem_singleton] at hu ⊢
      tauto
    rcases this with hu | rfl
    · exact h.guards u hu
    · exact hg
  · rw [hwaiting]
    exact h.prompt
  · unfold line
    rw [howner, hwaiting]
    rfl

/-- The owner, which is not in the pool any more, ends with a reply. -/
theorem finish_leads (ids : IdSource) {q : Pool B} (hq : q.Fair) {s : World B.toBoundary × Reply}
    (hw : q.world.Alike s.1) (id : Nat) (script : List (Entry B.Return)) :
    (q.finish id s.2 script).Leads ids (settleAll ids s.1 q.line).1
      (q.replies ++ (id, s.2) :: (settleAll ids s.1 q.line).2) := by
  have ended : (q.finish id s.2 script).world.Alike s.1 := (World.alike_record _ id rfl).trans hw
  have replied : (q.finish id s.2 script).replies = q.replies ++ [(id, s.2)] := List.map_append ..
  have unchanged : (q.finish id s.2 script).line = q.line := rfl
  obtain ⟨hw', hr'⟩ := settleAll_alike ids ended q.line
  refine ⟨⟨⟨hq.guards, hq.prompt, hq.claims⟩, hq.owned⟩, ?_, ?_⟩
  · rw [unchanged]
    exact hw'
  · rw [unchanged, hr', replied, List.append_assoc]
    exact .refl _

/-- The owner runs on: its task settles as it would alone, and then the others do. -/
theorem goHolding_leads (ids : IdSource) {p : Pool B} (hp : p.Vacant) {v : World B.toBoundary}
    (hv : p.world.Alike v) (id : Nat) (script : List (Entry B.Return))
    {program : Program B.toBoundary Ending} (hn : program.NeverConnects)
    {s : World B.toBoundary × Reply}
    (hs : s = Ending.settle id (complete ids id v script program)) :
    (goHolding ids p id script program).Leads ids (settleAll ids s.1 (p.parked ++ p.waiting)).1
      (p.replies ++ (id, s.2) :: (settleAll ids s.1 (p.parked ++ p.waiting)).2) := by
  obtain ⟨hw, hr⟩ := complete_alike ids id program hv script
  obtain ⟨hw, hr⟩ := Ending.settle_alike id hw hr
  rw [← hs] at hw hr
  have hl := advance_locked ids id program p.world script
  unfold goHolding
  -- it ends and gives the lock back, or it is suspended in a call and stays the owner
  split
  · rename_i w' ending script' h
    rw [complete_of_ended ids id program h] at hw hr
    rw [h] at hl
    have vacant : Vacant { p with world := w' } := hp.setWorld (hl.trans hp.locked)
    obtain ⟨hf, hline, hworld, hreplies⟩ := release_fair vacant
    generalize release { p with world := w' } = q at hf hline hworld hreplies
    have logged : (q.logAll id ending.afterwards).world.Alike s.1 := (hworld.recordAll id _).trans hw
    have leads := finish_leads ids (q := q.logAll id ending.afterwards)
      ⟨⟨hf.guards, hf.prompt, hf.claims⟩, hf.owned⟩ logged id script'
    rw [show (q.logAll id ending.afterwards).line = p.parked ++ p.waiting from hline,
      show (q.logAll id ending.afterwards).replies = p.replies from hreplies, ← hr] at leads
    rw [← hr]
    exact leads
  · rename_i w' call delay script' h
    rw [complete_of_suspended ids id program h] at hw hr
    rw [h] at hl
    have vacant : Vacant { p with world := w' } := hp.setWorld (hl.trans hp.locked)
    have hcall := neverConnects_of_suspended ids id hn h
    obtain ⟨hf, hline⟩ :=
      enqueue_fair vacant (t := ⟨id, .holding call, delay, script'⟩) rfl hcall
    obtain ⟨hw', hr'⟩ := settleAll_alike ids hw (p.parked ++ p.waiting)
    refine ⟨hf, ?_, ?_⟩
    · rw [hline]
      exact hw'
    · rw [hline, ← hr, ← hr']
      exact .refl _

/-- A task enters with the lock just obtained: it settles as a guarded operation that has the lock,
and then the others do. -/
theorem enter_leads (ids : IdSource) {p : Pool B} (hp : p.Vacant) {v : World B.toBoundary}
    (hv : p.world.Alike v) (id : Nat) (script : List (Entry B.Return)) {g : Guarded B.toBoundary}
    (hg : ∀ h, (g.body h).NeverConnects) {s : World B.toBoundary × Reply}
    (hs : s = g.settle ids id v script) :
    (enter ids p id script g).Leads ids (settleAll ids s.1 (p.parked ++ p.waiting)).1
      (p.replies ++ (id, s.2) :: (settleAll ids s.1 (p.parked ++ p.waiting)).2) := by
  have entered : (p.world.record id (.entered p.world.client.state)).Alike v :=
    (World.alike_record _ id rfl).trans hv
  have vacant : Vacant { p with world := p.world.record id (.entered p.world.client.state) } :=
    hp.setWorld hp.locked
  unfold Guarded.settle at hs
  rw [← hv.client] at hs
  match hc : p.world.client with
  | ⟨.connected, some handle⟩ =>
    simp only [enter, hc, Client.live?] at entered vacant hs ⊢
    exact goHolding_leads ids vacant entered id script (hg handle) hs
  | ⟨.connected, none⟩ | ⟨.unconnected, _⟩ | ⟨.closed, _⟩ =>
    simp only [enter, hc, Client.live?] at entered vacant hs ⊢
    subst hs
    obtain ⟨hf, hline, hworld, hreplies⟩ := release_fair vacant
    have leads := finish_leads ids hf (s := (v, g.refusal)) (hworld.trans entered) id script
    rw [hline, hreplies] at leads
    exact leads

/-- Where a pool leads is kept by a turn that leads there. -/
theorem Leads.of_turn {ids : IdSource} {p q : Pool B} {w : World B.toBoundary}
    {rs : List (Nat × Reply)} (h : p.Leads ids w rs)
    (hq : q.Leads ids (settleAll ids p.world p.line).1
      (p.replies ++ (settleAll ids p.world p.line).2)) : q.Leads ids w rs :=
  ⟨hq.fair, hq.world.trans h.world, hq.replies.trans h.replies⟩

/-- The turn of the task that has the lock. -/
theorem resume_leads (ids : IdSource) {p : Pool B} (hp : p.Vacant) {t : Task B}
    (ht : t.phase.Guards) (hw : t.waits = false) :
    (take ids p t).Leads ids (settleAll ids p.world (t :: (p.parked ++ p.waiting))).1
      (p.replies ++ (settleAll ids p.world (t :: (p.parked ++ p.waiting))).2) := by
  obtain ⟨id, phase, delay, script⟩ := t
  cases delay with
  | succ delay =>
    obtain ⟨hf, hline⟩ := enqueue_fair hp (t := ⟨id, phase, delay, script⟩) hw ht
    refine ⟨hf, ?_, ?_⟩
    · rw [show (take ids p ⟨id, phase, delay + 1, script⟩).line = _ from hline]
      exact .refl _
    · rw [show (take ids p ⟨id, phase, delay + 1, script⟩).line = _ from hline]
      exact .refl _
  | zero =>
    cases phase with
    | start op => cases hw
    | claiming g => exact enter_leads ids hp (.refl _) id script ht rfl
    | holding call =>
      have vacant : Vacant { p with world := p.world.record id call.event } := hp.setWorld hp.locked
      exact goHolding_leads ids vacant (.refl _) id script (ht _) rfl
    | free call => exact ht.elim

/-- A task that begins on a client that is not connected ends with its refusal, which is what it
settles to at its place in line as well: no task before it connects. -/
theorem refuse_leads (ids : IdSource) {p : Pool B} (hp : p.Fair) {t : Task B} {refusal : Reply}
    {body : Value → Program B.toBoundary Ending} (ht : t.phase = .start (.guarded refusal body))
    (hc : p.world.client.state ≠ .connected) {v : World B.toBoundary} (hv : p.world.Alike v) :
    (p.finish t.id refusal t.script).Leads ids
      (settleAll ids v (p.owner ++ (p.parked ++ t :: p.waiting))).1
      (p.replies ++ (settleAll ids v (p.owner ++ (p.parked ++ t :: p.waiting))).2) := by
  have front : p.owner ++ (p.parked ++ t :: p.waiting) =
      (p.owner ++ p.parked) ++ t :: p.waiting := (List.append_assoc ..).symm
  have guards : ∀ u ∈ p.owner ++ p.parked, u.phase.Guards := by
    intro u hu
    rcases List.mem_append.1 hu with hu | hu
    · exact hp.guards u (List.mem_append_left _ (List.mem_filter.1 hu).1)
    · exact hp.guards u (List.mem_append_right _ hu)
  -- none of the tasks before it connects, so it is refused at its place in line too
  have closed := settleAll_notConnected ids guards (hv.client ▸ hc)
  have without := settleAll_append ids v (p.owner ++ p.parked) p.waiting
  have whole := settleAll_append ids v (p.owner ++ p.parked) (t :: p.waiting)
  generalize settleAll ids v (p.owner ++ p.parked) = u at closed without whole
  have settled : t.settle ids u.1 = (u.1, refusal) := by
    simp only [Task.settle, ht]
    exact Guarded.settle_refused ids t.id closed t.script _
  rw [settleAll, settled] at whole
  have ended : (p.finish t.id refusal t.script).world.Alike v :=
    (World.alike_record _ _ rfl).trans hv
  have unchanged : (p.finish t.id refusal t.script).line = (p.owner ++ p.parked) ++ p.waiting :=
    (List.append_assoc ..).symm
  have replied : (p.finish t.id refusal t.script).replies = p.replies ++ [(t.id, refusal)] :=
    List.map_append ..
  obtain ⟨hw', hr'⟩ := settleAll_alike ids ended ((p.owner ++ p.parked) ++ p.waiting)
  rw [without] at hw' hr'
  rw [front, whole]
  refine ⟨⟨⟨hp.guards, hp.prompt, hp.claims⟩, hp.owned⟩, ?_, ?_⟩
  · rw [unchanged]
    exact hw'
  · rw [unchanged, hr', replied]
    simp only [List.append_assoc, List.cons_append, List.nil_append]
    exact List.perm_middle.symm.append_left p.replies

/-- A task that begins while the lock is taken parks behind the others and keeps its place. -/
theorem park_leads (ids : IdSource) {p : Pool B} (hp : p.Fair) {t : Task B} {refusal : Reply}
    {body : Value → Program B.toBoundary Ending} (ht : t.phase = .start (.guarded refusal body))
    (hg : ∀ h, (body h).NeverConnects) (hl : p.world.locked = true) {v : World B.toBoundary}
    (hv : p.world.Alike v) :
    Leads ids { p with parked := p.parked ++ [{ t with phase := .claiming ⟨refusal, body⟩ }] }
      (settleAll ids v (p.owner ++ (p.parked ++ t :: p.waiting))).1
      (p.replies ++ (settleAll ids v (p.owner ++ (p.parked ++ t :: p.waiting))).2) := by
  set t' : Task B := { t with phase := .claiming ⟨refusal, body⟩ } with ht'
  have same : ∀ w, t'.settle ids w = t.settle ids w := by
    intro w
    simp only [Task.settle, ht, ht']
  have number : t'.id = t.id := rfl
  have kept : settleAll ids v (p.owner ++ (p.parked ++ [t'] ++ p.waiting)) =
      settleAll ids v (p.owner ++ (p.parked ++ t :: p.waiting)) := by
    simp only [List.append_assoc, List.cons_append, List.nil_append, settleAll_append, settleAll,
      same, number]
  obtain ⟨hw', hr'⟩ := settleAll_alike ids hv (p.owner ++ (p.parked ++ [t'] ++ p.waiting))
  rw [← kept]
  refine ⟨⟨⟨?_, hp.prompt, ?_⟩, ?_⟩, hw', ?_⟩
  · intro u hu
    have : u ∈ p.ready ++ p.parked ∨ u = t' := by
      simp only [List.mem_append, List.mem_singleton] at hu ⊢
      tauto
    rcases this with hu | rfl
    · exact hp.guards u hu
    · exact hg
  · intro u hu
    rcases List.mem_append.1 hu with hu | hu
    · exact hp.claims u hu
    · rw [List.mem_singleton.1 hu]
      rfl
  · rcases hp.owned with h | ⟨hn, -, -⟩
    · exact .inl h
    · rw [hl] at hn
      cases hn
  · rw [← hr']
    exact .refl _

/-- The turn of a task that begins. -/
theorem begin_leads (ids : IdSource) {p : Pool B} (hp : p.Fair) {t : Task B}
    (ht : t.phase.Guards) (hw : t.waits = true) (hd : t.delay = 0) :
    (take ids p t).Leads ids (settleAll ids p.world (p.owner ++ (p.parked ++ t :: p.waiting))).1
      (p.replies ++ (settleAll ids p.world (p.owner ++ (p.parked ++ t :: p.waiting))).2) := by
  obtain ⟨id, phase, delay, script⟩ := t
  cases hd
  cases phase with
  | claiming g => cases hw
  | holding call => cases hw
  | free call => cases hw
  | start op =>
    cases op with
    | free program => exact ht.elim
    | guarded refusal body =>
      have began : (p.world.record id (.began p.world.client.state)).Alike p.world :=
        World.alike_record _ id rfl
      have fair : Fair { p with world := p.world.record id (.began p.world.client.state) } :=
        ⟨⟨hp.guards, hp.prompt, hp.claims⟩, hp.owned⟩
      simp only [take]
      split
      · rename_i hc
        exact refuse_leads ids fair (t := ⟨id, .start (.guarded refusal body), 0, script⟩) rfl hc began
      · split
        · rename_i hl
          exact park_leads ids fair (t := ⟨id, .start (.guarded refusal body), 0, script⟩) rfl ht hl began
        · rename_i hl
          rcases hp.owned with ⟨hn, -⟩ | ⟨-, howner, hparked⟩
          · exact absurd hn hl
          · have vacant : Vacant { p with world :=
                { p.world.record id (.began p.world.client.state) with locked := true } } :=
              ⟨⟨hp.guards, hp.prompt, hp.claims⟩, rfl, howner⟩
            have leads := enter_leads ids vacant (v := p.world) (g := ⟨refusal, body⟩)
              ((World.alike_locked _ true).trans began) id script ht rfl
            rw [howner, hparked]
            simp only [hparked] at leads
            exact leads

/-- No turn changes where a pool leads. -/
theorem take_leads (ids : IdSource) {p : Pool B} {w : World B.toBoundary} {rs : List (Nat × Reply)}
    (h : p.Leads ids w rs) {t : Task B} {ts : List (Task B)} (hr : p.ready = t :: ts) :
    (take ids { p with ready := ts } t).Leads ids w rs := by
  obtain ⟨world, ready, parked, finished⟩ := p
  cases hr
  refine h.of_turn ?_
  have hf := h.fair
  have ht := hf.guards t List.mem_cons_self
  have hguards : ∀ u ∈ ts ++ parked, u.phase.Guards := fun u hu =>
    hf.guards u (List.mem_cons_of_mem t hu)
  -- the task has not begun and is the first of those that wait, or it is the owner
  by_cases hw : t.waits = true
  · have howner : owner ⟨world, t :: ts, parked, finished⟩ = ts.filter (fun t => !t.waits) := by
      simp [Pool.owner, hw]
    have hwaiting : waiting ⟨world, t :: ts, parked, finished⟩ = t :: ts.filter Task.waits := by
      simp [Pool.waiting, hw]
    have fair : Fair ⟨world, ts, parked, finished⟩ := by
      refine ⟨⟨hguards, fun u hu => hf.prompt u ?_, hf.claims⟩, ?_⟩
      · rw [hwaiting]
        exact List.mem_cons_of_mem t hu
      · have := hf.owned
        rwa [howner] at this
    unfold line
    rw [howner, hwaiting]
    exact begin_leads ids fair ht hw (hf.prompt t (by rw [hwaiting]; exact List.mem_cons_self))
  · rw [Bool.not_eq_true] at hw
    have howner : owner ⟨world, t :: ts, parked, finished⟩ = t :: ts.filter (fun t => !t.waits) := by
      simp [Pool.owner, hw]
    have hwaiting : waiting ⟨world, t :: ts, parked, finished⟩ = ts.filter Task.waits := by
      simp [Pool.waiting, hw]
    have vacant : Vacant ⟨world, ts, parked, finished⟩ := by
      have howned := hf.owned
      rw [howner] at howned
      rcases howned with ⟨hl, u, hu⟩ | ⟨-, hu, -⟩
      · refine ⟨⟨hguards, fun u hu => hf.prompt u ?_, hf.claims⟩, hl, (List.cons.inj hu).2⟩
        rw [hwaiting]
        exact hu
      · cases hu
    unfold line
    rw [howner, hwaiting, show ts.filter (fun t => !t.waits) = [] from vacant.owner]
    exact resume_leads ids vacant ht hw

theorem run_nil (ids : IdSource) {p : Pool B} (h : p.ready = []) : p.run ids = p := by
  rw [Pool.run.eq_def]
  split
  · rfl
  · rename_i ht
    rw [h] at ht
    cases ht

theorem run_cons (ids : IdSource) {p : Pool B} {t : Task B} {ts : List (Task B)}
    (h : p.ready = t :: ts) : p.run ids = (take ids { p with ready := ts } t).run ids := by
  rw [Pool.run.eq_def]
  split
  · rename_i ht
    rw [h] at ht
    cases ht
  · rename_i ht
    rw [h] at ht
    cases ht
    rfl

/-- Where a pool is after so many turns, or fewer if no task is ready any more. -/
def turns (ids : IdSource) : Nat → Pool B → Pool B
  | 0, p => p
  | n + 1, p =>
    match p.ready with
    | [] => p
    | t :: ts => turns ids n (take ids { p with ready := ts } t)

theorem run_eq_turns (ids : IdSource) (n : Nat) {p : Pool B} (h : (turns ids n p).ready = []) :
    p.run ids = turns ids n p := by
  induction n generalizing p with
  | zero => exact run_nil ids h
  | succ n ih =>
    unfold turns at h ⊢
    split at h <;> rename_i hr
    · exact run_nil ids hr
    · exact (run_cons ids hr).trans (ih h)

/-- A pool that ran to its end is where it led: its lock is free, and its replies are those that
its tasks settle to. -/
theorem run_leads (ids : IdSource) (p : Pool B) {w : World B.toBoundary} {rs : List (Nat × Reply)}
    (h : p.Leads ids w rs) :
    (p.run ids).world.locked = false ∧ (p.run ids).world.Alike w ∧ (p.run ids).replies.Perm rs := by
  induction p using Pool.run.induct ids with
  | case1 p hr =>
    rw [run_nil ids hr]
    have howner : p.owner = [] := by simp [Pool.owner, hr]
    have hwaiting : p.waiting = [] := by simp [Pool.waiting, hr]
    -- no task is ready, so none has the lock, and then none is parked
    rcases h.fair.owned with ⟨-, t, ht⟩ | ⟨hl, -, hparked⟩
    · rw [howner] at ht
      cases ht
    · have hline : p.line = [] := by rw [line, howner, hparked, hwaiting]; rfl
      have hw := h.world
      have hrs := h.replies
      rw [hline] at hw hrs
      exact ⟨hl, hw, by simpa [settleAll] using hrs⟩
  | case2 p t ts hr ih =>
    rw [run_cons ids hr]
    exact ih (take_leads ids h hr)

end Pool

end RecordStore
