/-
What one turn of a task does, said once: the events it adds to the history, all of them the task's
own, what it makes of the client, and where the task stands afterwards. A turn under the lock is
told apart from the others: while it is taken no other task is in a call under the lock. The pool
stays orderly, that is, one task at most has the lock and tasks are parked only while one has it.
-/
import RecordStore.Proofs.Schedule.Run

namespace RecordStore

/-! ## Programs -/

namespace Program

variable {B : Boundary} {α : Type}

/-- `p.Runs c es c' q`: beginning with the client `c`, the program goes through the events `es`; then
`q` is left of it, and the client is `c'`. -/
inductive Runs : Client → Program B α → List (Event B) → Client → Program B α → Prop where
  | here (c : Client) (p : Program B α) : Runs c p [] c p
  | call {c c' : Client} {k : B.Call} {next : Except Fault (B.Answer k) → Program B α}
    {es : List (Event B)} {q : Program B α} (r : Except Fault (B.Answer k)) :
    Runs c (next r) es c' q → Runs c (.call k next) (.called k :: .answered k r :: es) c' q
  | draw {c c' : Client} {next : Except Fault Value → Program B α} {es : List (Event B)}
    {q : Program B α} (r : Except Fault Value) :
    Runs c (next r) es c' q → Runs c (.draw next) (.drew r :: es) c' q
  | log {c c' : Client} {r : LogRecord} {next q : Program B α} {es : List (Event B)} :
    Runs c next es c' q → Runs c (.log r next) (.logged r :: es) c' q
  | connect {c c' : Client} {handle : Value} {next q : Program B α} {es : List (Event B)} :
    Runs ⟨.connected, some handle⟩ next es c' q →
      Runs c (.connect handle next) (.became .connected :: es) c' q
  | close {c c' : Client} {next q : Program B α} {es : List (Event B)} :
    Runs ⟨.closed, none⟩ next es c' q → Runs c (.close next) (.became .closed :: es) c' q

theorem Runs.leaves {c c' : Client} {p q : Program B α} {es : List (Event B)}
    (h : p.Runs c es c' q) : p.Leaves q := by
  induction h with
  | here c p => exact .refl p
  | call r _ ih => exact .call r ih
  | draw r _ ih => exact .draw r ih
  | log _ ih => exact .log ih
  | connect _ ih => exact .connect ih
  | close _ ih => exact .close ih

/-- One turn of a program: it comes to its end, which adds the events `last` to its own, or it is
left in a call. -/
inductive Turn (last : α → List (Event B)) (wait : Pending B α → Phase B) (c : Client)
    (p : Program B α) : List (Event B) → Client → Option (Phase B) → Prop where
  | ends {es : List (Event B)} {c' : Client} {a : α} : p.Runs c es c' (.done a) →
    Turn last wait c p (es ++ last a) c' none
  | waits {es : List (Event B)} {c' : Client} (call : Pending B α) :
    p.Runs c es c' (.call call.call call.next) →
    Turn last wait c p (es ++ [.called call.call]) c' (some (wait call))

namespace Turn

variable {last : α → List (Event B)} {wait : Pending B α → Phase B} {c c' : Client}
  {es : List (Event B)} {after : Option (Phase B)} {next : Program B α}

theorem of_done {a : α} (h : (done a).Turn last wait c es c' after) :
    es = last a ∧ c' = c ∧ after = none := by
  cases h with
  | ends hruns => cases hruns; exact ⟨rfl, rfl, rfl⟩
  | waits call hruns => cases hruns

/-- A call is left pending, or it comes back in the same turn. -/
theorem of_call {k : B.Call} {next : Except Fault (B.Answer k) → Program B α}
    (h : (call k next).Turn last wait c es c' after) :
    (es = [.called k] ∧ c' = c ∧ ∃ result, after = some (wait ⟨k, result, next⟩)) ∨
      ∃ r es', es = .called k :: .answered k r :: es' ∧ (next r).Turn last wait c es' c' after := by
  cases h with
  | ends hruns =>
    cases hruns with
    | call r hruns => exact .inr ⟨r, _, rfl, .ends hruns⟩
  | waits pending hruns =>
    obtain ⟨k', result, next'⟩ := pending
    cases hruns with
    | here => exact .inl ⟨rfl, rfl, result, rfl⟩
    | call r hruns => exact .inr ⟨r, _, rfl, .waits ⟨k', result, next'⟩ hruns⟩

theorem of_log {r : LogRecord} (h : (log r next).Turn last wait c es c' after) :
    ∃ es', es = .logged r :: es' ∧ next.Turn last wait c es' c' after := by
  cases h with
  | ends hruns => cases hruns with | log hruns => exact ⟨_, rfl, .ends hruns⟩
  | waits call hruns => cases hruns with | log hruns => exact ⟨_, rfl, .waits call hruns⟩

theorem of_connect {handle : Value} (h : (connect handle next).Turn last wait c es c' after) :
    ∃ es', es = .became .connected :: es' ∧
      next.Turn last wait ⟨.connected, some handle⟩ es' c' after := by
  cases h with
  | ends hruns => cases hruns with | connect hruns => exact ⟨_, rfl, .ends hruns⟩
  | waits call hruns => cases hruns with | connect hruns => exact ⟨_, rfl, .waits call hruns⟩

theorem of_close (h : (close next).Turn last wait c es c' after) :
    ∃ es', es = .became .closed :: es' ∧ next.Turn last wait ⟨.closed, none⟩ es' c' after := by
  cases h with
  | ends hruns => cases hruns with | close hruns => exact ⟨_, rfl, .ends hruns⟩
  | waits call hruns => cases hruns with | close hruns => exact ⟨_, rfl, .waits call hruns⟩

end Turn

end Program

/-- What is left of a program that got this far. -/
def Progress.rest {B : Scripted} {α : Type} : Progress B α → Program B.toBoundary α
  | .ended a _ => .done a
  | .suspended call _ _ => .call call.call call.next

/-- The call that a program which got this far is left in. -/
def Progress.asked {B : Scripted} {α : Type} : Progress B α → List (Event B.toBoundary)
  | .ended _ _ => []
  | .suspended call _ _ => [.called call.call]

/-- What a turn of a program adds to the history: the events it runs through, and the call it is left
in. -/
theorem advance_runs {B : Scripted} {α : Type} (ids : IdSource) (id : Nat)
    (p : Program B.toBoundary α) (w : World B.toBoundary) (script : List (Entry B.Return)) :
    ∃ es, p.Runs w.client es (advance ids id w script p).1.client (advance ids id w script p).2.rest ∧
      (advance ids id w script p).1.history =
        w.history ++ (es ++ (advance ids id w script p).2.asked).map fun e => (id, e) := by
  -- one more event in front of those that the rest of the program adds
  have grows {h h' : List (Nat × Event B.toBoundary)} {e : Event B.toBoundary}
      {es : List (Event B.toBoundary)} (hh : h' = h ++ [(id, e)] ++ es.map fun e => (id, e)) :
      h' = h ++ (e :: es).map fun e => (id, e) := by
    rw [hh, List.append_assoc]
    rfl
  induction p generalizing w script with
  | done a => exact ⟨[], .here _ _, (List.append_nil _).symm⟩
  | log r next ih =>
    obtain ⟨es, hruns, hh⟩ := ih (w.record id (.logged r)) script
    exact ⟨_, .log hruns, grows hh⟩
  | draw next ih =>
    obtain ⟨es, hruns, hh⟩ := ih _ (w.draw id ((ids (w.draws + 1)).mapError Fault.outside)) script
    exact ⟨_, .draw _ hruns, grows hh⟩
  | connect handle next ih =>
    obtain ⟨es, hruns, hh⟩ := ih (w.become id .connected (some handle)) script
    exact ⟨_, .connect hruns, grows hh⟩
  | close next ih =>
    obtain ⟨es, hruns, hh⟩ := ih (w.become id .closed none) script
    exact ⟨_, .close hruns, grows hh⟩
  | call c next ih =>
    unfold advance
    cases ht : (B.nextEntry c script).1.ticks with
    | zero =>
      simp only [ht]
      obtain ⟨es, hruns, hh⟩ := ih _ ((w.ask id c).record id (.answered c _)) _
      exact ⟨_, .call _ hruns, grows (grows hh)⟩
    | succ n =>
      simp only [ht]
      exact ⟨[], .here _ _, rfl⟩

namespace Program

variable {B : Scripted} {α : Type}

theorem Turn.of_ended (last : α → List (Event B.toBoundary))
    (wait : Pending B.toBoundary α → Phase B.toBoundary) {ids : IdSource} {id : Nat}
    {p : Program B.toBoundary α} {w w' : World B.toBoundary} {script script' : List (Entry B.Return)} {a : α}
    (h : advance ids id w script p = (w', .ended a script')) :
    ∃ es, p.Turn last wait w.client (es ++ last a) w'.client none ∧
      w'.history = w.history ++ es.map fun e => (id, e) := by
  obtain ⟨es, hruns, hh⟩ := advance_runs ids id p w script
  rw [h] at hruns hh
  exact ⟨es, .ends hruns, by simpa only [Progress.asked, List.append_nil] using hh⟩

theorem Turn.of_suspended (last : α → List (Event B.toBoundary))
    (wait : Pending B.toBoundary α → Phase B.toBoundary) {ids : IdSource} {id : Nat}
    {p : Program B.toBoundary α} {w w' : World B.toBoundary} {script script' : List (Entry B.Return)}
    {call : Pending B.toBoundary α} {delay : Nat}
    (h : advance ids id w script p = (w', .suspended call delay script')) :
    ∃ es, p.Turn last wait w.client es w'.client (some (wait call)) ∧
      w'.history = w.history ++ es.map fun e => (id, e) := by
  obtain ⟨es, hruns, hh⟩ := advance_runs ids id p w script
  rw [h] at hruns hh
  exact ⟨_, .waits call hruns, hh⟩

end Program

/-! ## Tasks -/

/-- The last events of a guarded operation: what it logs once the lock is given back, and its
reply. -/
def Ending.events {B : Boundary} (e : Ending) : List (Event B) :=
  e.afterwards.map .logged ++ [.replied e.reply]

/-- What is true of every logging and of every reply is true of the last events of an operation. -/
theorem Ending.events_all {B : Boundary} {P : Event B → Prop} (hlogged : ∀ r, P (.logged r))
    (hreplied : ∀ r, P (.replied r)) (a : Ending) : ∀ e ∈ a.events, P e := by
  refine List.forall_mem_append.2 ⟨fun e he => ?_, List.forall_mem_singleton.2 (hreplied _)⟩
  obtain ⟨r, -, rfl⟩ := List.mem_map.1 he
  exact hlogged r

/-- One turn of a task, by the client at its beginning: whether it is taken under the lock, what it
adds to the history, the client after it, and where the task stands then, unless it has ended. -/
inductive Phase.Turn {B : Boundary} (c : Client) :
    (under : Bool) → Phase B → List (Event B) → Client → Option (Phase B) → Prop where
  /-- It lets the turn pass. -/
  | passes (ph : Phase B) : Turn c false ph [] c (some ph)
  /-- An operation without the lock begins. -/
  | begins {start : Lifecycle → Program B Reply} {es : List (Event B)} {c' : Client}
    {after : Option (Phase B)} :
    (start c.state).Turn (fun r => [.replied r]) .free c es c' after →
      Turn c false (.start (.free start)) (.began c.state :: es) c' after
  /-- A call without the lock comes back. -/
  | roams {call : Pending B Reply} {es : List (Event B)} {c' : Client} {after : Option (Phase B)} :
    call.rest.Turn (fun r => [.replied r]) .free c es c' after →
      Turn c false (.free call) (call.event :: es) c' after
  /-- A guarded operation begins on a client that is not connected. -/
  | refused {refusal : Reply} {body : Value → Program B Ending} : c.state ≠ .connected →
    Turn c false (.start (.guarded refusal body)) [.began c.state, .replied refusal] c none
  /-- A guarded operation begins while the lock is taken. -/
  | parks {refusal : Reply} {body : Value → Program B Ending} : c.state = .connected →
    Turn c false (.start (.guarded refusal body)) [.began c.state] c
      (some (.claiming ⟨refusal, body⟩))
  /-- A guarded operation begins and gets the lock in the same turn. -/
  | atOnce {refusal : Reply} {body : Value → Program B Ending} {es : List (Event B)} {c' : Client}
    {after : Option (Phase B)} : c.state = .connected →
    Turn c true (.claiming ⟨refusal, body⟩) es c' after →
      Turn c true (.start (.guarded refusal body)) (.began c.state :: es) c' after
  /-- A guarded operation enters with the lock and the handle it finds. -/
  | enters {g : Guarded B} {handle : Value} {es : List (Event B)} {c' : Client}
    {after : Option (Phase B)} : c = ⟨.connected, some handle⟩ →
    (g.body handle).Turn Ending.events .holding c es c' after →
      Turn c true (.claiming g) (.entered c.state :: es) c' after
  /-- A guarded operation gets the lock, but the client is not connected any more. -/
  | turnedAway {g : Guarded B} : (∀ handle, c ≠ ⟨.connected, some handle⟩) →
    Turn c true (.claiming g) [.entered c.state, .replied g.refusal] c none
  /-- A call under the lock comes back. -/
  | resumes {call : Pending B Ending} {es : List (Event B)} {c' : Client}
    {after : Option (Phase B)} :
    call.rest.Turn Ending.events .holding c es c' after →
      Turn c true (.holding call) (call.event :: es) c' after

/-- The task waits for the lock or has it. -/
def Phase.claims {B : Boundary} : Phase B → Bool
  | .claiming _ => true
  | .holding _ => true
  | _ => false

/-- The task is in a call under the lock. -/
def Phase.Inside {B : Boundary} : Phase B → Prop
  | .holding _ => True
  | _ => False

/-! ## Pools -/

namespace Pool

variable {B : Scripted}

def holders (p : Pool B) : List (Task B) := p.ready.filter fun t => t.phase.claims

/-- The tasks of a pool that have not ended, each with where it stands. -/
def standing (p : Pool B) : List (Nat × Phase B.toBoundary) := p.tasks.map fun t => (t.id, t.phase)

/-- The tasks that have ended. -/
def gone (p : Pool B) : List Nat := p.finished.map Finished.id

/-- One ready task has the lock, or none has it; tasks are parked only while one has it, and those
wait for it. -/
structure Orderly (p : Pool B) : Prop where
  waiting : ∀ t ∈ p.parked, ∃ g, t.phase = .claiming g
  owned : (p.world.locked = true ∧ ∃ t, p.holders = [t]) ∨
    p.world.locked = false ∧ p.holders = [] ∧ p.parked = []

/-- The pool during the turn of the task that has the lock, without that task. -/
structure Lent (p : Pool B) : Prop where
  waiting : ∀ t ∈ p.parked, ∃ g, t.phase = .claiming g
  locked : p.world.locked = true
  holders : p.holders = []

/-- What the turn of a task makes of a pool: it adds these events to the history, and the task stands
there or has ended. -/
structure Grows (p : Pool B) (id : Nat) (es : List (Event B.toBoundary))
    (after : Option (Phase B.toBoundary)) (q : Pool B) : Prop where
  history : q.world.history = p.world.history ++ es.map fun e => (id, e)
  standing : q.standing.Perm (p.standing ++ (after.map fun ph => (id, ph)).toList)
  gone : q.gone = p.gone ++ if after.isSome then [] else [id]

variable {p q : Pool B} {id : Nat} {es : List (Event B.toBoundary)}
  {after : Option (Phase B.toBoundary)}

theorem Lent.setWorld (h : p.Lent) {w : World B.toBoundary} (hl : w.locked = true) :
    Lent { p with world := w } :=
  ⟨h.waiting, hl, h.holders⟩

theorem standing_enqueue (p : Pool B) (t : Task B) :
    (p.enqueue t).standing.Perm (p.standing ++ [(t.id, t.phase)]) := by
  simp only [standing, tasks, enqueue, List.map_append, List.append_assoc, List.map_cons, List.map_nil]
  exact List.perm_append_comm.append_left _

theorem standing_release (p : Pool B) : p.release.standing = p.standing := by
  unfold standing
  rw [tasks_release]

theorem gone_release (p : Pool B) : p.release.gone = p.gone := by
  obtain ⟨world, ready, parked, finished⟩ := p
  cases parked <;> rfl

theorem history_release (p : Pool B) : p.release.world.history = p.world.history := by
  obtain ⟨world, ready, parked, finished⟩ := p
  cases parked <;> rfl

theorem client_release (p : Pool B) : p.release.world.client = p.world.client := by
  obtain ⟨world, ready, parked, finished⟩ := p
  cases parked <;> rfl

/-- A turn that records an event first adds it in front. -/
theorem Grows.record {e : Event B.toBoundary} {b : Bool}
    (h : Grows { p with world := { p.world.record id e with locked := b } } id es after q) :
    p.Grows id (e :: es) after q := by
  refine ⟨?_, h.standing, h.gone⟩
  rw [h.history]
  exact List.append_assoc ..

theorem Grows.enqueue (t : Task B) {w : World B.toBoundary}
    (hh : w.history = p.world.history ++ es.map fun e => (t.id, e)) :
    p.Grows t.id es (some t.phase) (Pool.enqueue { p with world := w } t) :=
  ⟨hh, standing_enqueue _ _, (List.append_nil _).symm⟩

/-- Giving the lock back hands it to the first parked task, or frees it. -/
theorem Lent.release (h : p.Lent) : p.release.Orderly := by
  obtain ⟨world, ready, parked, finished⟩ := p
  have hnone : ready.filter (fun t => t.phase.claims) = [] := h.holders
  cases parked with
  | nil => exact ⟨h.waiting, .inr ⟨rfl, hnone, rfl⟩⟩
  | cons t ts =>
    obtain ⟨g, hg⟩ := h.waiting t List.mem_cons_self
    have hclaims : t.phase.claims = true := by rw [hg]; rfl
    refine ⟨fun u hu => h.waiting u (List.mem_cons_of_mem t hu), .inl ⟨h.locked, t, ?_⟩⟩
    simp [Pool.release, Pool.holders, List.filter_append, hnone, hclaims]

theorem Lent.enqueue (h : p.Lent) {t : Task B} (ht : t.phase.claims = true) :
    (p.enqueue t).Orderly := by
  have hnone : p.ready.filter (fun t => t.phase.claims) = [] := h.holders
  refine ⟨h.waiting, .inl ⟨h.locked, t, ?_⟩⟩
  simp [Pool.holders, Pool.enqueue, List.filter_append, hnone, ht]

theorem Orderly.enqueue (h : p.Orderly) {t : Task B} (ht : t.phase.claims = false) :
    (p.enqueue t).Orderly := by
  have hsame : (p.enqueue t).holders = p.holders := by
    simp [Pool.holders, Pool.enqueue, List.filter_append, ht]
  exact ⟨h.waiting, by rw [hsame]; exact h.owned⟩

theorem Orderly.finish (h : p.Orderly) (reply : Reply) (script : List (Entry B.Return)) :
    (p.finish id reply script).Orderly := ⟨h.waiting, h.owned⟩

theorem Orderly.setWorld (h : p.Orderly) {w : World B.toBoundary} (hl : w.locked = p.world.locked) :
    Orderly { p with world := w } :=
  ⟨h.waiting, by rw [show (w.locked = _) from hl]; exact h.owned⟩

theorem Grows.ended (hh : q.world.history = p.world.history ++ es.map fun e => (id, e))
    (hs : q.standing = p.standing) (hg : q.gone = p.gone ++ [id]) : p.Grows id es none q := by
  refine ⟨hh, ?_, hg⟩
  rw [hs]
  exact (List.append_nil _).symm ▸ .refl _

theorem gone_finish (p : Pool B) (reply : Reply) (script : List (Entry B.Return)) :
    (p.finish id reply script).gone = p.gone ++ [id] := List.map_append ..

theorem goFree_turn (ids : IdSource) (id : Nat) (hp : p.Orderly) (script : List (Entry B.Return))
    (program : Program B.toBoundary Reply) :
    ∃ es after, program.Turn (fun r => [.replied r]) .free p.world.client es
        (goFree ids p id script program).world.client after ∧
      p.Grows id es after (goFree ids p id script program) ∧
      (goFree ids p id script program).Orderly := by
  have hl := advance_locked ids id program p.world script
  unfold goFree
  split <;> rename_i h <;> rw [h] at hl
  · obtain ⟨es, hturn, hh⟩ := Program.Turn.of_ended (fun r => [.replied r]) .free h
    refine ⟨_, _, hturn, .ended ?_ rfl (gone_finish _ _ _), (hp.setWorld hl).finish _ _⟩
    simp [Pool.finish, World.record, hh]
  · obtain ⟨es, hturn, hh⟩ := Program.Turn.of_suspended (fun r => [.replied r]) .free h
    exact ⟨_, _, hturn, .enqueue ⟨id, _, _, _⟩ hh, (hp.setWorld hl).enqueue rfl⟩

theorem goHolding_turn (ids : IdSource) (id : Nat) (hp : p.Lent) (script : List (Entry B.Return))
    (program : Program B.toBoundary Ending) :
    ∃ es after, program.Turn Ending.events .holding p.world.client es
        (goHolding ids p id script program).world.client after ∧
      p.Grows id es after (goHolding ids p id script program) ∧
      (goHolding ids p id script program).Orderly := by
  have hl := (advance_locked ids id program p.world script).trans hp.locked
  unfold goHolding
  split <;> rename_i h <;> rw [h] at hl
  · rename_i w ending script'
    obtain ⟨es, hturn, hh⟩ := Program.Turn.of_ended Ending.events .holding h
    have hlent : Lent { p with world := w } := hp.setWorld hl
    have hclient := client_release { p with world := w }
    have hhistory := (history_release { p with world := w }).trans hh
    refine ⟨es ++ ending.events, none, hclient ▸ hturn, .ended ?_ ?_ ?_, ?_⟩
    · simp [Pool.finish, Pool.logAll, World.record, World.recordAll, Ending.events, hhistory]
    · exact standing_release { p with world := w }
    · rw [gone_finish]
      exact congrArg (· ++ [id]) (gone_release { p with world := w })
    · exact ⟨hlent.release.waiting, hlent.release.owned⟩
  · obtain ⟨es, hturn, hh⟩ := Program.Turn.of_suspended Ending.events .holding h
    exact ⟨_, _, hturn, .enqueue ⟨id, _, _, _⟩ hh, (hp.setWorld hl).enqueue rfl⟩

/-- A task enters with the lock just obtained. -/
theorem enter_turn (ids : IdSource) (id : Nat) (hp : p.Lent) (script : List (Entry B.Return))
    (g : Guarded B.toBoundary) :
    ∃ es after, (Phase.claiming g).Turn p.world.client true es
        (enter ids p id script g).world.client after ∧
      p.Grows id es after (enter ids p id script g) ∧ (enter ids p id script g).Orderly := by
  have hlent : Lent { p with world := p.world.record id (.entered p.world.client.state) } :=
    hp.setWorld hp.locked
  unfold enter
  dsimp only
  split
  · rename_i handle hs hh
    have hclient : p.world.client = ⟨.connected, some handle⟩ := by rw [← hs, ← hh]
    obtain ⟨es, after, hturn, hgrows, hq⟩ := goHolding_turn ids id hlent script (g.body handle)
    exact ⟨_, _, .enters hclient hturn, .record (b := p.world.locked) hgrows, hq⟩
  · rename_i hnot
    have hclient : ∀ handle, p.world.client ≠ ⟨.connected, some handle⟩ := by
      intro handle hc
      exact hnot handle (by rw [hc]) (by rw [hc])
    generalize hentered : p.world.record id (.entered p.world.client.state) = w at hlent
    have hkept : (release { p with world := w }).world.client = p.world.client :=
      (client_release _).trans (by rw [← hentered]; rfl)
    have hhistory : (release { p with world := w }).world.history =
        p.world.history ++ [(id, .entered p.world.client.state)] :=
      (history_release _).trans (by rw [← hentered]; rfl)
    refine ⟨[.entered p.world.client.state, .replied g.refusal], none, ?_, .ended ?_ ?_ ?_,
      hlent.release.finish _ _⟩
    · rw [show (Pool.finish (release { p with world := w }) id g.refusal script).world.client = _ from hkept]
      exact .turnedAway hclient
    · show (release { p with world := w }).world.history ++ [_] = _
      rw [hhistory]
      exact List.append_assoc ..
    · exact standing_release { p with world := w }
    · rw [gone_finish]
      exact congrArg (· ++ [id]) (gone_release { p with world := w })

theorem Lent.not_inside (h : p.Lent) : ∀ s ∈ p.standing, ¬ s.2.Inside := by
  intro s hs
  obtain ⟨t, ht, rfl⟩ := List.mem_map.1 hs
  rcases List.mem_append.1 ht with ht | ht
  · have hclaims := List.filter_eq_nil_iff.1 h.holders t ht
    cases hphase : t.phase with
    | holding call => exact absurd (by rw [hphase]; rfl) hclaims
    | _ => exact id
  · obtain ⟨g, hg⟩ := h.waiting t ht
    rw [hg]
    exact id

theorem Orderly.lend (hp : p.Orderly) {t : Task B} {l r : List (Task B)} (hr : p.ready = l ++ t :: r)
    (ht : t.phase.claims = true) : Lent { p with ready := l ++ r } := by
  have hholders : p.holders = l.filter (fun t => t.phase.claims) ++
      t :: r.filter (fun t => t.phase.claims) := by
    simp [holders, hr, List.filter_append, ht]
  rcases hp.owned with ⟨hl, u, hu⟩ | ⟨-, hu, -⟩
  · rw [hholders] at hu
    obtain ⟨hleft, hright⟩ : l.filter (fun t => t.phase.claims) = [] ∧
        r.filter (fun t => t.phase.claims) = [] := by
      cases hl : l.filter (fun t => t.phase.claims) with
      | nil => exact ⟨rfl, by rw [hl] at hu; exact (List.cons.inj hu).2⟩
      | cons v vs => simp [hl] at hu
    exact ⟨hp.waiting, hl, by simp [holders, List.filter_append, hleft, hright]⟩
  · simp [hholders] at hu

theorem Orderly.without (hp : p.Orderly) {t : Task B} {l r : List (Task B)}
    (hr : p.ready = l ++ t :: r) (ht : t.phase.claims = false) :
    Orderly { p with ready := l ++ r } := by
  have hholders : p.holders = holders { p with ready := l ++ r } := by
    simp [holders, hr, List.filter_append, ht]
  exact ⟨hp.waiting, by rw [← hholders]; exact hp.owned⟩

/-- A guarded operation begins; `p` is the pool without its task. -/
theorem start_turn (ids : IdSource) (hp : p.Orderly) (script : List (Entry B.Return)) (refusal : Reply)
    (body : Value → Program B.toBoundary Ending) :
    let t : Task B := { id, phase := .start (.guarded refusal body), script }
    ∃ under es after, t.phase.Turn p.world.client under es (take ids p t).world.client after ∧
      p.Grows id es after (take ids p t) ∧ (take ids p t).Orderly ∧
      (under = true → ∀ s ∈ p.standing, ¬ s.2.Inside) := by
  intro t
  have horderly := hp.setWorld (w := p.world.record id (.began p.world.client.state)) rfl
  simp only [t, take]
  split
  · rename_i hs
    refine ⟨false, _, none, .refused hs, .ended ?_ rfl (gone_finish _ _ _), horderly.finish _ _,
      fun hu => Bool.noConfusion hu⟩
    exact List.append_assoc ..
  · rename_i hs
    have hs : p.world.client.state = .connected := Decidable.not_not.1 hs
    split
    · rename_i hl
      refine ⟨false, _, _, .parks hs, ⟨rfl, ?_, (List.append_nil _).symm⟩, ⟨?_, ?_⟩,
        fun hu => Bool.noConfusion hu⟩
      · simp only [standing, tasks, List.map_append, List.append_assoc]
        exact .refl _
      · intro u hu
        rcases List.mem_append.1 hu with hu | hu
        · exact hp.waiting u hu
        · exact ⟨_, by rw [List.mem_singleton.1 hu]⟩
      · rcases horderly.owned with howned | ⟨hn, -⟩
        · exact .inl howned
        · exact Bool.noConfusion (hl.symm.trans hn)
    · rename_i hl
      rcases horderly.owned with ⟨hn, -⟩ | ⟨-, hholders, -⟩
      · exact absurd hn hl
      · have hlent : Lent { p with
            world := { p.world.record id (.began p.world.client.state) with locked := true } } :=
          ⟨hp.waiting, rfl, hholders⟩
        obtain ⟨es, after, hturn, hgrows, hq⟩ :=
          enter_turn ids id hlent script ⟨refusal, body⟩
        exact ⟨true, _, _, .atOnce hs hturn, .record hgrows, hq, fun _ => hlent.not_inside⟩

/-- What the turn of a ready task does to an orderly pool. -/
theorem take_turn (ids : IdSource) (hp : p.Orderly) {t : Task B} {l r : List (Task B)}
    (hr : p.ready = l ++ t :: r) :
    ∃ under es after, t.phase.Turn p.world.client under es
        (take ids { p with ready := l ++ r } t).world.client after ∧
      Grows { p with ready := l ++ r } t.id es after (take ids { p with ready := l ++ r } t) ∧
      (take ids { p with ready := l ++ r } t).Orderly ∧
      (under = true → ∀ s ∈ standing { p with ready := l ++ r }, ¬ s.2.Inside) := by
  obtain ⟨id, phase, delay, script⟩ := t
  cases delay with
  | succ delay =>
    refine ⟨false, [], some phase, .passes phase, .enqueue ⟨id, phase, delay, script⟩ ?_, ?_, nofun⟩
    · exact (List.append_nil _).symm
    · cases hc : phase.claims with
      | true => exact (hp.lend hr hc).enqueue hc
      | false => exact (hp.without hr hc).enqueue hc
  | zero =>
    cases phase with
    | free call =>
      have horderly := (hp.without hr rfl).setWorld
        (w := p.world.record id call.event) rfl
      obtain ⟨es, after, hturn, hgrows, hq⟩ := goFree_turn ids id horderly script call.rest
      exact ⟨false, _, _, .roams hturn, .record (b := p.world.locked) hgrows, hq, nofun⟩
    | holding call =>
      have hlent := hp.lend hr rfl
      obtain ⟨es, after, hturn, hgrows, hq⟩ := goHolding_turn ids id
        (hlent.setWorld (w := p.world.record id call.event) hlent.locked) script call.rest
      exact ⟨true, _, _, .resumes hturn, .record (b := p.world.locked) hgrows, hq,
        fun _ => hlent.not_inside⟩
    | claiming g =>
      have hlent := hp.lend hr rfl
      obtain ⟨es, after, hturn, hgrows, hq⟩ := enter_turn ids id hlent script g
      exact ⟨true, _, _, hturn, hgrows, hq, fun _ => hlent.not_inside⟩
    | start op =>
      cases op with
      | free program =>
        have horderly := (hp.without hr rfl).setWorld
          (w := p.world.record id (.began p.world.client.state)) rfl
        obtain ⟨es, after, hturn, hgrows, hq⟩ :=
          goFree_turn ids id horderly script (program p.world.client.state)
        exact ⟨false, _, _, .begins hturn, .record (b := p.world.locked) hgrows, hq, nofun⟩
      | guarded refusal body => exact start_turn ids (hp.without hr rfl) script refusal body

end Pool

/-- A program that its turn leaves in a call goes on as a part of what it was. -/
theorem Program.Turn.leaves {B : Boundary} {α : Type} {last : α → List (Event B)}
    {wait : Pending B α → Phase B} {c c' : Client} {p : Program B α} {es : List (Event B)}
    {ph : Phase B} (h : p.Turn last wait c es c' (some ph)) :
    ∃ call : Pending B α, ph = wait call ∧ p.Leaves (.call call.call call.next) := by
  cases h with
  | waits call hruns => exact ⟨call, rfl, hruns.leaves⟩

/-- What is left of a task after its turn still serves the operation. -/
theorem Phase.Turn.of {B : Boundary} {op : Operation B} {c c' : Client} {under : Bool}
    {ph ph' : Phase B} {es : List (Event B)} (h : ph.Turn c under es c' (some ph')) (hop : ph.Of op) :
    ph'.Of op := by
  generalize hafter : some ph' = after at h
  induction h with
  | passes ph => exact Option.some.inj hafter ▸ hop
  | parks => exact Option.some.inj hafter ▸ hop.symm
  | atOnce _ _ ih => exact ih hop.symm hafter
  | refused => cases hafter
  | turnedAway => cases hafter
  | begins hturn =>
    obtain ⟨call, rfl, hcall⟩ := (hafter ▸ hturn).leaves
    exact ⟨_, _, hop.symm, hcall⟩
  | roams hturn =>
    obtain ⟨call, rfl, hcall⟩ := (hafter ▸ hturn).leaves
    obtain ⟨start, state, hop, hpart⟩ := hop
    exact ⟨start, state, hop, (Pending.leaves_rest hpart).trans hcall⟩
  | enters _ hturn =>
    obtain ⟨call, rfl, hcall⟩ := (hafter ▸ hturn).leaves
    exact ⟨_, _, _, hop, hcall⟩
  | resumes hturn =>
    obtain ⟨call, rfl, hcall⟩ := (hafter ▸ hturn).leaves
    obtain ⟨refusal, body, handle, hop, hpart⟩ := hop
    exact ⟨refusal, body, handle, hop, (Pending.leaves_rest hpart).trans hcall⟩

end RecordStore
