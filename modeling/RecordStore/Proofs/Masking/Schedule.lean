/-
Masks. A mask hides data inside calls and replies and changes nothing else: not which calls are made
and in which order, nor what they come back with. Running masked programs is masking what the programs
do, in every layer of the scheduler. So operations that look alike behind a mask go the same way, alone
and among others, and what they leave behind looks alike too.
-/
import RecordStore.Proofs.Schedule.Line

namespace RecordStore

/-- A mask: what it makes of the calls across a boundary, and how the answers of a call and of the
masked call correspond. -/
structure Mask (B : Boundary) where
  call : B.Call → B.Call
  veil : {k : B.Call} → B.Answer k → B.Answer (call k)
  reveal : {k : B.Call} → B.Answer (call k) → B.Answer k
  reveal_veil : ∀ {k : B.Call} (a : B.Answer k), reveal (veil a) = a

/-- The scripted boundary answers masked calls as it answers the calls. -/
structure Mask.Respected {B : Scripted} (m : Mask B.toBoundary) : Prop where
  opening : ∀ k, B.opening (m.call k) = B.opening k
  immediate : ∀ k, B.immediate (m.call k) = B.immediate k
  answer : ∀ k n returned, B.answer (m.call k) n returned = (B.answer k n returned).map m.veil

/-! ## Programs -/

/-- A reply of which only is left whether it is one, and the failure otherwise. -/
def Reply.masked (r : Reply) : Reply := ⟨r.result.map fun _ => .null, r.data.map fun _ => .null⟩

/-- What an operation logs in the end is not masked. -/
def Ending.masked (e : Ending) : Ending := ⟨e.reply.masked, e.afterwards⟩

section Boundary

variable {B : Boundary} {α β γ : Type} (m : Mask B)

def Event.masked : Event B → Event B
  | .called k => .called (m.call k)
  | .answered k r => .answered (m.call k) (r.map m.veil)
  | .replied r => .replied r.masked
  | e => e

theorem Event.map_logged_masked (rs : List LogRecord) :
    (rs.map Event.logged).map (Event.masked m) = rs.map Event.logged := by
  rw [List.map_map]
  rfl

/-- The program with its calls and its result masked. -/
def Program.masked (f : α → β) : Program B α → Program B β
  | .done a => .done (f a)
  | .call k next => .call (m.call k) fun r => (next (r.map m.reveal)).masked f
  | .draw next => .draw fun r => (next r).masked f
  | .log r next => .log r (next.masked f)
  | .connect handle next => .connect handle (next.masked f)
  | .close next => .close (next.masked f)

theorem Mask.map_reveal_veil {k : B.Call} (r : Except Fault (B.Answer k)) :
    (r.map m.veil).map m.reveal = r := by
  cases r with
  | error f => rfl
  | ok a => exact congrArg Except.ok (m.reveal_veil a)

theorem Program.masked_bind (f : β → γ) (g : α → Program B β) : ∀ p : Program B α,
    (p.bind g).masked m f = (p.masked m id).bind fun a => (g a).masked m f
  | .done _ => rfl
  | .call k next => congrArg (Program.call (m.call k))
    (funext fun r => masked_bind f g (next (r.map m.reveal)))
  | .draw next => congrArg Program.draw (funext fun r => masked_bind f g (next r))
  | .log r next => congrArg (Program.log r) (masked_bind f g next)
  | .connect handle next => congrArg (Program.connect handle) (masked_bind f g next)
  | .close next => congrArg Program.close (masked_bind f g next)

theorem Program.masked_andThen {p : Program B (Except Fault α)} {g : α → Program B (Except Fault β)} :
    (p.andThen g).masked m id = (p.masked m id).andThen fun a => (g a).masked m id := by
  unfold andThen
  rw [masked_bind]
  refine congrArg (bind _) (funext fun r => ?_)
  cases r <;> rfl

/-- The operation with its calls and its replies masked. -/
def Operation.masked : Operation B → Operation B
  | .free start => .free fun s => (start s).masked m Reply.masked
  | .guarded refusal body => .guarded refusal.masked fun v => (body v).masked m Ending.masked

def Pending.masked (f : α → β) (call : Pending B α) : Pending B β where
  call := m.call call.call
  result := call.result.map m.veil
  next r := (call.next (r.map m.reveal)).masked m f

theorem Pending.masked_rest (f : α → β) (call : Pending B α) :
    (call.masked m f).rest = call.rest.masked m f := by
  show (call.next ((call.result.map m.veil).map m.reveal)).masked m f = _
  rw [m.map_reveal_veil]
  rfl

/-! ## Tasks -/

def Phase.masked : Phase B → Phase B
  | .start op => .start (op.masked m)
  | .claiming g => .claiming ⟨g.refusal.masked, fun v => (g.body v).masked m Ending.masked⟩
  | .holding call => .holding (call.masked m Ending.masked)
  | .free call => .free (call.masked m Reply.masked)

namespace World

/-- The world with its history masked. -/
def masked (w : World B) : World B := { w with history := w.history.map fun e => (e.1, e.2.masked m) }

variable (w : World B) (i : Nat)

theorem masked_record (e : Event B) : (w.record i e).masked m = (w.masked m).record i (e.masked m) := by
  simp [masked, record]

theorem masked_recordAll (es : List (Event B)) :
    (w.recordAll i es).masked m = (w.masked m).recordAll i (es.map (Event.masked m)) := by
  simp [masked, recordAll]

theorem masked_become (s : Lifecycle) (handle : Option Value) :
    (w.become i s handle).masked m = (w.masked m).become i s handle :=
  masked_record m { w with client := ⟨s, handle⟩ } i (.became s)

theorem masked_draw (r : Except Fault Value) : (w.draw i r).masked m = (w.masked m).draw i r :=
  masked_record m { w with draws := w.draws + 1 } i (.drew r)

end World

end Boundary

variable {B : Scripted} {α β : Type} {m : Mask B.toBoundary}

theorem World.masked_ask (hm : m.Respected) (w : World B.toBoundary) (i : Nat) (k : B.Call) :
    (w.ask i k).masked m = (w.masked m).ask i (m.call k) := by
  unfold World.ask
  rw [World.masked_record, hm.opening]
  rfl

theorem Mask.Respected.nextEntry (hm : m.Respected) (k : B.Call) (script : List (Entry B.Return)) :
    B.nextEntry (m.call k) script = B.nextEntry k script := by
  unfold Scripted.nextEntry
  rw [hm.immediate]

theorem Mask.Respected.result (hm : m.Respected) (e : Entry B.Return) (k : B.Call) (n : Nat) :
    e.result (m.call k) n = (e.result k n).map m.veil := by
  unfold Entry.result
  cases e.outcome with
  | error f => rfl
  | ok returned => exact hm.answer k n returned

def Progress.masked (m : Mask B.toBoundary) (f : α → β) : Progress B α → Progress B β
  | .ended a script => .ended (f a) script
  | .suspended call delay script => .suspended (call.masked m f) delay script

/-- A masked program runs as the program does. -/
theorem advance_masked (hm : m.Respected) (f : α → β) (ids : IdSource) (i : Nat)
    (p : Program B.toBoundary α) (w : World B.toBoundary) (script : List (Entry B.Return)) :
    advance ids i (w.masked m) script (p.masked m f) =
      ((advance ids i w script p).1.masked m, (advance ids i w script p).2.masked m f) := by
  induction p generalizing w script with
  | done a => rfl
  | log r next ih =>
    have h := ih (w.record i (.logged r)) script
    rw [World.masked_record] at h
    exact h
  | draw next ih =>
    have h := ih ((ids (w.draws + 1)).mapError Fault.outside)
      (w.draw i ((ids (w.draws + 1)).mapError Fault.outside)) script
    rw [World.masked_draw] at h
    exact h
  | connect handle next ih =>
    have h := ih (w.become i .connected (some handle)) script
    rw [World.masked_become] at h
    exact h
  | close next ih =>
    have h := ih (w.become i .closed none) script
    rw [World.masked_become] at h
    exact h
  | call k next ih =>
    have hopenings : ((w.masked m).ask i (m.call k)).openings = (w.ask i k).openings := by
      rw [← World.masked_ask hm]
      rfl
    unfold Program.masked advance
    dsimp only
    -- the masked call takes the same entry of the script, so it is suspended as often
    rw [hm.nextEntry, hm.result, hopenings]
    generalize (B.nextEntry k script).1.result k (w.ask i k).openings = r
    cases (B.nextEntry k script).1.ticks with
    | zero =>
      have h := ih r ((w.ask i k).record i (.answered k r)) (B.nextEntry k script).2
      rw [World.masked_record, World.masked_ask hm] at h
      simp only [m.map_reveal_veil]
      exact h
    | succ delay => exact Prod.ext (World.masked_ask hm w i k).symm rfl

/-! ## Pools -/

def Task.masked (m : Mask B.toBoundary) (t : Task B) : Task B := { t with phase := t.phase.masked m }

def Finished.masked (f : Finished B) : Finished B := { f with reply := f.reply.masked }

namespace Pool

def masked (m : Mask B.toBoundary) (p : Pool B) : Pool B where
  world := p.world.masked m
  ready := p.ready.map (Task.masked m)
  parked := p.parked.map (Task.masked m)
  finished := p.finished.map Finished.masked

theorem masked_enqueue (p : Pool B) (t : Task B) :
    (p.enqueue t).masked m = (p.masked m).enqueue (t.masked m) := by
  simp [masked, enqueue]

theorem masked_finish (p : Pool B) (i : Nat) (reply : Reply) (script : List (Entry B.Return)) :
    (p.finish i reply script).masked m = (p.masked m).finish i reply.masked script := by
  simp [masked, finish, World.masked_record, Finished.masked, Event.masked]

theorem masked_release (p : Pool B) : p.release.masked m = (p.masked m).release := by
  obtain ⟨world, ready, parked, finished⟩ := p
  cases parked with
  | nil => rfl
  | cons t ts => simp [masked, release]

theorem masked_logAll (p : Pool B) (i : Nat) (rs : List LogRecord) :
    (p.logAll i rs).masked m = (p.masked m).logAll i rs := by
  simp only [masked, logAll, World.masked_recordAll, Event.map_logged_masked]

theorem goFree_masked (hm : m.Respected) (ids : IdSource) (p : Pool B) (i : Nat)
    (script : List (Entry B.Return)) (program : Program B.toBoundary Reply) :
    goFree ids (p.masked m) i script (program.masked m Reply.masked) =
      (goFree ids p i script program).masked m := by
  have h := advance_masked hm Reply.masked ids i program p.world script
  unfold goFree
  rw [show (p.masked m).world = p.world.masked m from rfl, h]
  rcases advance ids i p.world script program with ⟨w, ⟨reply, script'⟩ | ⟨call, delay, script'⟩⟩
  · exact (masked_finish { p with world := w } i reply script').symm
  · exact (masked_enqueue { p with world := w } ⟨i, .free call, delay, script'⟩).symm

theorem goHolding_masked (hm : m.Respected) (ids : IdSource) (p : Pool B) (i : Nat)
    (script : List (Entry B.Return)) (program : Program B.toBoundary Ending) :
    goHolding ids (p.masked m) i script (program.masked m Ending.masked) =
      (goHolding ids p i script program).masked m := by
  have h := advance_masked hm Ending.masked ids i program p.world script
  unfold goHolding
  -- what the program leaves is matched on, so it is taken apart before the pools are compared
  rw [show (p.masked m).world = p.world.masked m from rfl, h]
  rcases advance ids i p.world script program with ⟨w, ⟨ending, script'⟩ | ⟨call, delay, script'⟩⟩
  · dsimp only [Progress.masked]
    rw [masked_finish, masked_logAll, masked_release]
    rfl
  · exact (masked_enqueue { p with world := w } ⟨i, .holding call, delay, script'⟩).symm

theorem enter_masked (hm : m.Respected) (ids : IdSource) (p : Pool B) (i : Nat)
    (script : List (Entry B.Return)) (g : Guarded B.toBoundary) :
    enter ids (p.masked m) i script ⟨g.refusal.masked, fun v => (g.body v).masked m Ending.masked⟩ =
      (enter ids p i script g).masked m := by
  have hentered : { p.masked m with world := (p.masked m).world.record i (.entered p.world.client.state) } =
      Pool.masked m { p with world := p.world.record i (.entered p.world.client.state) } := by
    unfold masked
    rw [World.masked_record]
    rfl
  unfold enter
  rw [show (p.masked m).world.client = p.world.client from rfl]
  dsimp only
  rw [hentered]
  split
  · exact goHolding_masked hm ids _ i script _
  · rw [masked_finish, masked_release]

theorem take_guarded_masked (hm : m.Respected) (ids : IdSource) (p : Pool B) (i : Nat)
    (script : List (Entry B.Return)) (refusal : Reply) (body : Value → Program B.toBoundary Ending) :
    let t : Task B := { id := i, phase := .start (.guarded refusal body), script }
    take ids (p.masked m) (t.masked m) = (take ids p t).masked m := by
  have hbegan : (p.masked m).world.record i (.began p.world.client.state) =
      World.masked m (p.world.record i (.began p.world.client.state)) :=
    (World.masked_record m p.world i (.began p.world.client.state)).symm
  unfold take
  dsimp only [Task.masked, Phase.masked, Operation.masked]
  rw [show (p.masked m).world.client.state = p.world.client.state from rfl, hbegan]
  by_cases hs : p.world.client.state ≠ .connected
  · rw [if_pos hs, if_pos hs, masked_finish]
    rfl
  · rw [if_neg hs, if_neg hs]
    generalize p.world.record i (.began p.world.client.state) = w
    by_cases hl : w.locked = true
    · rw [if_pos (show (World.masked m w).locked = true from hl), if_pos hl]
      simp [masked, Task.masked, Phase.masked]
    · rw [if_neg (show ¬ (World.masked m w).locked = true from hl), if_neg hl]
      exact enter_masked hm ids { p with world := { w with locked := true } } i script ⟨refusal, body⟩

/-- The turn of a masked task in a masked pool is the turn of the task, masked. -/
theorem take_masked (hm : m.Respected) (ids : IdSource) (p : Pool B) (t : Task B) :
    take ids (p.masked m) (t.masked m) = (take ids p t).masked m := by
  have hrecord (i : Nat) (e : Event B.toBoundary) :
      { p.masked m with world := (p.masked m).world.record i (e.masked m) } =
        Pool.masked m { p with world := p.world.record i e } := by
    unfold masked
    rw [World.masked_record]
  obtain ⟨i, phase, delay, script⟩ := t
  cases delay with
  | succ delay => exact (masked_enqueue p ⟨i, phase, delay, script⟩).symm
  | zero =>
    cases phase with
    | free call =>
      have h := goFree_masked hm ids { p with world := p.world.record i call.event } i script call.rest
      rw [← hrecord, ← Pending.masked_rest] at h
      exact h
    | holding call =>
      have h := goHolding_masked hm ids { p with world := p.world.record i call.event } i script call.rest
      rw [← hrecord, ← Pending.masked_rest] at h
      exact h
    | claiming g => exact enter_masked hm ids p i script g
    | start op =>
      cases op with
      | free start =>
        have h := goFree_masked hm ids { p with world := p.world.record i (.began p.world.client.state) } i
          script (start p.world.client.state)
        rw [← hrecord] at h
        exact h
      | guarded refusal body => exact take_guarded_masked hm ids p i script refusal body

/-- Running a masked pool to its end is running the pool, masked. -/
theorem run_masked (hm : m.Respected) (ids : IdSource) (p : Pool B) :
    (p.masked m).run ids = (p.run ids).masked m := by
  induction p using Pool.run.induct ids with
  | case1 p hr =>
    have hmasked : (p.masked m).ready = [] := congrArg (List.map (Task.masked m)) hr
    rw [run_nil ids hr, run_nil ids hmasked]
  | case2 p t ts hr ih =>
    have hmasked : (p.masked m).ready = t.masked m :: ts.map (Task.masked m) :=
      congrArg (List.map (Task.masked m)) hr
    rw [run_cons ids hr, run_cons ids hmasked, ← ih]
    exact congrArg (Pool.run ids) (take_masked hm ids { p with ready := ts } t)

end Pool

/-! ## Alone -/

theorem complete_masked (hm : m.Respected) (f : α → β) (ids : IdSource) (i : Nat)
    (p : Program B.toBoundary α) (w : World B.toBoundary) (script : List (Entry B.Return)) :
    complete ids i (w.masked m) script (p.masked m f) =
      ((complete ids i w script p).1.masked m, f (complete ids i w script p).2.1,
        (complete ids i w script p).2.2) := by
  induction p generalizing w script with
  | done a => rfl
  | log r next ih =>
    have h := ih (w.record i (.logged r)) script
    rw [World.masked_record] at h
    exact h
  | draw next ih =>
    have h := ih ((ids (w.draws + 1)).mapError Fault.outside)
      (w.draw i ((ids (w.draws + 1)).mapError Fault.outside)) script
    rw [World.masked_draw] at h
    exact h
  | connect handle next ih =>
    have h := ih (w.become i .connected (some handle)) script
    rw [World.masked_become] at h
    exact h
  | close next ih =>
    have h := ih (w.become i .closed none) script
    rw [World.masked_become] at h
    exact h
  | call k next ih =>
    have hopenings : ((w.masked m).ask i (m.call k)).openings = (w.ask i k).openings := by
      rw [← World.masked_ask hm]
      rfl
    unfold Program.masked complete
    dsimp only
    rw [hm.nextEntry, hm.result, hopenings]
    generalize (B.nextEntry k script).1.result k (w.ask i k).openings = r
    have h := ih r ((w.ask i k).record i (.answered k r)) (B.nextEntry k script).2
    rw [World.masked_record, World.masked_ask hm] at h
    simp only [m.map_reveal_veil]
    exact h

/-- Running a masked operation alone is running the operation, masked. -/
theorem Operation.alone_masked (hm : m.Respected) (ids : IdSource) (i : Nat) (w : World B.toBoundary)
    (script : List (Entry B.Return)) (op : Operation B.toBoundary) :
    (op.masked m).alone ids i (w.masked m) script =
      ((op.alone ids i w script).1.masked m, (op.alone ids i w script).2.1.masked,
        (op.alone ids i w script).2.2) := by
  have hbegan : (w.masked m).record i (.began w.client.state) =
      (w.record i (.began w.client.state)).masked m :=
    (World.masked_record m w i (.began w.client.state)).symm
  unfold Operation.alone
  dsimp only
  rw [show (w.masked m).client = w.client from rfl, hbegan]
  generalize w.record i (.began w.client.state) = v
  have hended (v : World B.toBoundary) (reply : Reply) (script : List (Entry B.Return)) :
      ((v.masked m).record i (.replied reply.masked), reply.masked, script) =
        ((v.record i (.replied reply)).masked m, reply.masked, script) := by
    rw [World.masked_record]
    rfl
  cases op with
  | free start =>
    dsimp only [Operation.masked]
    rw [complete_masked hm]
    exact hended _ _ _
  | guarded refusal body =>
    dsimp only [Operation.masked]
    rw [show (v.masked m).client = v.client from rfl]
    split
    · rename_i handle _ _
      have hentered : (v.masked m).record i (.entered w.client.state) =
          (v.record i (.entered w.client.state)).masked m :=
        (World.masked_record m v i (.entered w.client.state)).symm
      rw [hentered, complete_masked hm]
      dsimp only [Ending.masked]
      rw [← hended, World.masked_recordAll, Event.map_logged_masked]
    · exact hended _ _ _

end RecordStore
