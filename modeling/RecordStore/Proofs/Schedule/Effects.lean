/-
The effects of running programs: everything in a history but the beginning, entering and ending of
operations. Running a program to its end is running it to its next suspension, letting the call
come back and running on; what it adds to the effects depends on the client and the counters of the
world alone, not on who holds the lock or what began and ended before.
-/
import RecordStore.Proofs.Client.Program
import RecordStore.Schedule.Session

namespace RecordStore

/-- Whether an event is an effect, and not the beginning, entering or ending of an operation. -/
def Event.isEffect {B : Boundary} : Event B → Bool
  | .began _ => false
  | .entered _ => false
  | .replied _ => false
  | _ => true

namespace World

section Boundary

variable {B : Boundary} {v w : World B}

/-- The effects so far, in order, each with its task. -/
def effects (w : World B) : List (Nat × Event B) := w.history.filter fun e => e.2.isEffect

/-- Two worlds with the same client, the same counters and the same effects. -/
structure Alike (v w : World B) : Prop where
  client : v.client = w.client
  openings : v.openings = w.openings
  draws : v.draws = w.draws
  effects : v.effects = w.effects

theorem Alike.refl (w : World B) : Alike w w := ⟨rfl, rfl, rfl, rfl⟩

theorem Alike.symm (h : Alike v w) : Alike w v :=
  ⟨h.client.symm, h.openings.symm, h.draws.symm, h.effects.symm⟩

theorem Alike.trans {u : World B} (h : Alike u v) (h' : Alike v w) : Alike u w :=
  ⟨h.client.trans h'.client, h.openings.trans h'.openings, h.draws.trans h'.draws,
    h.effects.trans h'.effects⟩

@[simp] theorem record_client (w : World B) (task : Nat) (e : Event B) :
    (w.record task e).client = w.client := rfl

theorem effects_record (w : World B) (task : Nat) (e : Event B) :
    (w.record task e).effects = w.effects ++ if e.isEffect then [(task, e)] else [] := by
  unfold effects record
  rw [List.filter_append]
  cases h : e.isEffect <;> simp [h]

theorem effects_recordAll (w : World B) (task : Nat) (es : List (Event B)) :
    (w.recordAll task es).effects =
      w.effects ++ (es.map fun e => (task, e)).filter fun e => e.2.isEffect := by
  unfold effects recordAll
  rw [List.filter_append]

/-- What is no effect makes no difference. -/
theorem alike_record (w : World B) (task : Nat) {e : Event B} (he : e.isEffect = false) :
    Alike (w.record task e) w :=
  ⟨rfl, rfl, rfl, by rw [effects_record, he]; simp⟩

theorem alike_locked (w : World B) (b : Bool) : Alike { w with locked := b } w :=
  ⟨rfl, rfl, rfl, rfl⟩

theorem Alike.record (h : Alike v w) (task : Nat) (e : Event B) :
    Alike (v.record task e) (w.record task e) :=
  ⟨h.client, h.openings, h.draws, by rw [effects_record, effects_record, h.effects]⟩

theorem Alike.recordAll (h : Alike v w) (task : Nat) (es : List (Event B)) :
    Alike (v.recordAll task es) (w.recordAll task es) :=
  ⟨h.client, h.openings, h.draws, by rw [effects_recordAll, effects_recordAll, h.effects]⟩

theorem Alike.become (h : Alike v w) (task : Nat) (s : Lifecycle) (handle : Option Value) :
    Alike (v.become task s handle) (w.become task s handle) := by
  have hc : Alike { v with client := ⟨s, handle⟩ } { w with client := ⟨s, handle⟩ } :=
    ⟨rfl, h.openings, h.draws, h.effects⟩
  exact hc.record task _

theorem Alike.draw (h : Alike v w) (task : Nat) (r : Except Fault Value) :
    Alike (v.draw task r) (w.draw task r) := by
  have hd : Alike { v with draws := v.draws + 1 } { w with draws := w.draws + 1 } :=
    ⟨h.client, h.openings, congrArg (· + 1) h.draws, h.effects⟩
  exact hd.record task _

end Boundary

theorem Alike.ask {B : Scripted} {v w : World B.toBoundary} (h : Alike v w) (task : Nat)
    (c : B.Call) : Alike (v.ask task c) (w.ask task c) := by
  have ho : Alike { v with openings := v.openings + if B.opening c then 1 else 0 }
      { w with openings := w.openings + if B.opening c then 1 else 0 } :=
    ⟨h.client, congrArg (· + if B.opening c then 1 else 0) h.openings, h.draws, h.effects⟩
  exact ho.record task _

end World

variable {B : Scripted} {α : Type}

/-! ## Running to the end and to the next suspension -/

theorem complete_of_ended (ids : IdSource) (task : Nat) (p : Program B.toBoundary α)
    {w w' : World B.toBoundary} {script script' : List (Entry B.Return)} {a : α}
    (h : advance ids task w script p = (w', .ended a script')) :
    complete ids task w script p = (w', a, script') := by
  induction p generalizing w script with
  | done a => cases h; rfl
  | log r next ih => exact ih h
  | draw next ih => exact ih _ h
  | connect handle next ih => exact ih h
  | close next ih => exact ih h
  | call c next ih =>
    unfold advance at h
    unfold complete
    cases ht : (B.nextEntry c script).1.ticks with
    | zero =>
      simp only [ht] at h
      exact ih _ h
    | succ n => simp [ht] at h

theorem complete_of_suspended (ids : IdSource) (task : Nat) (p : Program B.toBoundary α)
    {w w' : World B.toBoundary} {script script' : List (Entry B.Return)}
    {call : Pending B.toBoundary α} {delay : Nat}
    (h : advance ids task w script p = (w', .suspended call delay script')) :
    complete ids task w script p = complete ids task (w'.record task call.event) script' call.rest := by
  induction p generalizing w script with
  | done a => cases h
  | log r next ih => exact ih h
  | draw next ih => exact ih _ h
  | connect handle next ih => exact ih h
  | close next ih => exact ih h
  | call c next ih =>
    unfold advance at h
    rw [complete]
    cases ht : (B.nextEntry c script).1.ticks with
    | zero =>
      simp only [ht] at h
      exact ih _ h
    | succ n =>
      simp only [ht] at h
      cases h
      rfl

/-- Running a program does not touch the lock. -/
theorem advance_locked (ids : IdSource) (task : Nat) (p : Program B.toBoundary α)
    (w : World B.toBoundary) (script : List (Entry B.Return)) :
    (advance ids task w script p).1.locked = w.locked := by
  induction p generalizing w script with
  | done a => rfl
  | log r next ih => exact ih (w.record task _) script
  | draw next ih => exact ih _ (w.draw task _) script
  | connect handle next ih => exact ih (w.become task _ _) script
  | close next ih => exact ih (w.become task _ _) script
  | call c next ih =>
    unfold advance
    cases ht : (B.nextEntry c script).1.ticks with
    | zero => simp only [ht]; exact ih _ ((w.ask task c).record task _) _
    | succ n => simp only [ht]; rfl

/-- In worlds that are alike, a program runs to the same result and to worlds that are alike. -/
theorem complete_alike (ids : IdSource) (task : Nat) (p : Program B.toBoundary α)
    {v w : World B.toBoundary} (h : v.Alike w) (script : List (Entry B.Return)) :
    (complete ids task v script p).1.Alike (complete ids task w script p).1 ∧
      (complete ids task v script p).2 = (complete ids task w script p).2 := by
  induction p generalizing v w script with
  | done a => exact ⟨h, rfl⟩
  | log r next ih => exact ih (h.record task _) script
  | draw next ih =>
    unfold complete
    rw [h.draws]
    exact ih _ (h.draw task _) script
  | connect handle next ih => exact ih (h.become task _ _) script
  | close next ih => exact ih (h.become task _ _) script
  | call c next ih =>
    unfold complete
    dsimp only
    rw [(h.ask task c).openings]
    exact ih _ ((h.ask task c).record task _) _

/-- A program that never connects leaves a client that is not connected in that state. -/
theorem complete_notConnected (ids : IdSource) (task : Nat) {p : Program B.toBoundary α}
    (hp : p.NeverConnects) {w : World B.toBoundary} (hw : w.client.state ≠ .connected)
    (script : List (Entry B.Return)) :
    (complete ids task w script p).1.client.state ≠ .connected := by
  induction p generalizing w script with
  | done a => exact hw
  | log r next ih => exact ih hp (w := w.record task (.logged r)) hw script
  | draw next ih => exact ih _ (hp _) (w := w.draw task _) hw script
  | connect handle next ih => exact hp.elim
  | close next ih => exact ih hp (w := w.become task .closed none) nofun script
  | call c next ih => exact ih _ (hp _) (w := (w.ask task c).record task _) hw _

/-- A suspended program goes on as a part of the program it was. -/
theorem advance_leaves (ids : IdSource) (task : Nat) {p : Program B.toBoundary α}
    {w w' : World B.toBoundary} {script script' : List (Entry B.Return)}
    {call : Pending B.toBoundary α} {delay : Nat}
    (h : advance ids task w script p = (w', .suspended call delay script')) :
    p.Leaves (.call call.call call.next) := by
  induction p generalizing w script with
  | done a => cases h
  | log r next ih => exact .log (ih h)
  | draw next ih => exact .draw _ (ih _ h)
  | connect handle next ih => exact .connect (ih h)
  | close next ih => exact .close (ih h)
  | call c next ih =>
    unfold advance at h
    cases ht : (B.nextEntry c script).1.ticks with
    | zero =>
      simp only [ht] at h
      exact .call _ (ih _ h)
    | succ n =>
      simp only [ht] at h
      cases h
      exact .refl _

/-- What is left of a program that never connects never connects. -/
theorem neverConnects_of_suspended (ids : IdSource) (task : Nat) {p : Program B.toBoundary α}
    (hp : p.NeverConnects) {w w' : World B.toBoundary} {script script' : List (Entry B.Return)}
    {call : Pending B.toBoundary α} {delay : Nat}
    (h : advance ids task w script p = (w', .suspended call delay script')) :
    ∀ r, (call.next r).NeverConnects :=
  hp.of_leaves (advance_leaves ids task h)

end RecordStore
