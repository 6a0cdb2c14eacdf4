/-
Settling tasks one after the other: each goes on to its end while nothing else happens. In worlds
that are alike, tasks settle to worlds that are alike and to the same replies. Settling the task of
an operation that has not begun is serving the operation alone.
-/
import RecordStore.Proofs.Schedule.Effects

namespace RecordStore

variable {B : Scripted}

/-- The handle of a connected client. -/
def Client.live? (c : Client) : Option Value :=
  match c.state with
  | .connected => c.handle
  | _ => none

/-! ## Settling tasks one after the other -/

/-- What the end of a body leaves: the world with the records written afterwards, and the reply. -/
def Ending.settle (task : Nat) (r : World B.toBoundary × Ending × List (Entry B.Return)) :
    World B.toBoundary × Reply :=
  (r.1.recordAll task (r.2.1.afterwards.map .logged), r.2.1.reply)

/-- Serves a guarded operation that has the lock. -/
def Guarded.settle (ids : IdSource) (task : Nat) (w : World B.toBoundary)
    (script : List (Entry B.Return)) (g : Guarded B.toBoundary) : World B.toBoundary × Reply :=
  match w.client.live? with
  | some handle => Ending.settle task (complete ids task w script (g.body handle))
  | none => (w, g.refusal)

/-- Lets a task go on to its end while nothing else happens. -/
def Task.settle (ids : IdSource) (w : World B.toBoundary) (t : Task B) :
    World B.toBoundary × Reply :=
  match t.phase with
  | .start (.free program) =>
    let r := complete ids t.id w t.script (program w.client.state)
    (r.1, r.2.1)
  | .start (.guarded refusal body) => Guarded.settle ids t.id w t.script ⟨refusal, body⟩
  | .claiming g => g.settle ids t.id w t.script
  | .holding call =>
    Ending.settle t.id (complete ids t.id (w.record t.id call.event) t.script call.rest)
  | .free call =>
    let r := complete ids t.id (w.record t.id call.event) t.script call.rest
    (r.1, r.2.1)

/-- Lets tasks go on to their ends, one after the other; each reply comes with its task. -/
def settleAll (ids : IdSource) (w : World B.toBoundary) :
    List (Task B) → World B.toBoundary × List (Nat × Reply)
  | [] => (w, [])
  | t :: ts =>
    let s := t.settle ids w
    let rest := settleAll ids s.1 ts
    (rest.1, (t.id, s.2) :: rest.2)

/-- What is left of a task is under the lock or needs it, and never connects. -/
def Phase.Guards {B : Boundary} : Phase B → Prop
  | .start op => op.Guards
  | .claiming g => ∀ h, (g.body h).NeverConnects
  | .holding call => ∀ r, (call.next r).NeverConnects
  | .free _ => False

theorem Ending.settle_alike (task : Nat) {r s : World B.toBoundary × Ending × List (Entry B.Return)}
    (h : r.1.Alike s.1) (he : r.2 = s.2) :
    (Ending.settle task r).1.Alike (Ending.settle task s).1 ∧
      (Ending.settle task r).2 = (Ending.settle task s).2 := by
  unfold Ending.settle
  rw [he]
  exact ⟨h.recordAll task _, rfl⟩

theorem Guarded.settle_alike (ids : IdSource) (task : Nat) {v w : World B.toBoundary}
    (h : v.Alike w) (script : List (Entry B.Return)) (g : Guarded B.toBoundary) :
    (g.settle ids task v script).1.Alike (g.settle ids task w script).1 ∧
      (g.settle ids task v script).2 = (g.settle ids task w script).2 := by
  unfold Guarded.settle
  rw [h.client]
  split
  · obtain ⟨hw, hr⟩ := complete_alike ids task (g.body _) h script
    exact Ending.settle_alike task hw hr
  · exact ⟨h, rfl⟩

theorem Task.settle_alike (ids : IdSource) {v w : World B.toBoundary} (h : v.Alike w) (t : Task B) :
    (t.settle ids v).1.Alike (t.settle ids w).1 ∧ (t.settle ids v).2 = (t.settle ids w).2 := by
  obtain ⟨id, phase, delay, script⟩ := t
  cases phase with
  | start op =>
    cases op with
    | free program =>
      simp only [Task.settle, h.client]
      obtain ⟨hw, hr⟩ := complete_alike ids id (program w.client.state) h script
      exact ⟨hw, by rw [hr]⟩
    | guarded refusal body => exact Guarded.settle_alike ids id h script _
  | claiming g => exact Guarded.settle_alike ids id h script g
  | holding call =>
    obtain ⟨hw, hr⟩ := complete_alike ids id call.rest (h.record id call.event) script
    exact Ending.settle_alike id hw hr
  | free call =>
    obtain ⟨hw, hr⟩ := complete_alike ids id call.rest (h.record id call.event) script
    exact ⟨hw, by simp only [Task.settle, hr]⟩

theorem settleAll_alike (ids : IdSource) {v w : World B.toBoundary} (h : v.Alike w)
    (ts : List (Task B)) :
    (settleAll ids v ts).1.Alike (settleAll ids w ts).1 ∧
      (settleAll ids v ts).2 = (settleAll ids w ts).2 := by
  induction ts generalizing v w with
  | nil => exact ⟨h, rfl⟩
  | cons t ts ih =>
    obtain ⟨hw, hr⟩ := t.settle_alike ids h
    obtain ⟨hw', hr'⟩ := ih hw
    exact ⟨hw', by simp only [settleAll, hr, hr']⟩

theorem settleAll_append (ids : IdSource) (w : World B.toBoundary) (ts us : List (Task B)) :
    settleAll ids w (ts ++ us) =
      ((settleAll ids (settleAll ids w ts).1 us).1,
        (settleAll ids w ts).2 ++ (settleAll ids (settleAll ids w ts).1 us).2) := by
  induction ts generalizing w with
  | nil => rfl
  | cons t ts ih => simp only [List.cons_append, settleAll, ih]

theorem Client.live?_of_ne {c : Client} (h : c.state ≠ .connected) : c.live? = none := by
  unfold Client.live?
  split
  · rename_i hc
    exact absurd hc h
  · rfl

theorem Guarded.settle_refused (ids : IdSource) (task : Nat) {w : World B.toBoundary}
    (hw : w.client.state ≠ .connected) (script : List (Entry B.Return)) (g : Guarded B.toBoundary) :
    g.settle ids task w script = (w, g.refusal) := by
  unfold Guarded.settle
  rw [Client.live?_of_ne hw]

theorem Task.settle_notConnected (ids : IdSource) {t : Task B} (ht : t.phase.Guards)
    {w : World B.toBoundary} (hw : w.client.state ≠ .connected) :
    (t.settle ids w).1.client.state ≠ .connected := by
  obtain ⟨id, phase, delay, script⟩ := t
  have refused (g : Guarded B.toBoundary) :
      (g.settle ids id w script).1.client.state ≠ .connected := by
    rw [g.settle_refused ids id hw script]
    exact hw
  cases phase with
  | start op =>
    cases op with
    | free program => exact ht.elim
    | guarded refusal body => exact refused _
  | claiming g => exact refused g
  | holding call => exact complete_notConnected ids id (ht _) (w := w.record id call.event) hw script
  | free call => exact ht.elim

theorem settleAll_notConnected (ids : IdSource) {ts : List (Task B)}
    (ht : ∀ t ∈ ts, t.phase.Guards) {w : World B.toBoundary} (hw : w.client.state ≠ .connected) :
    (settleAll ids w ts).1.client.state ≠ .connected := by
  induction ts generalizing w with
  | nil => exact hw
  | cons t ts ih =>
    exact ih (fun u hu => ht u (List.mem_cons_of_mem t hu))
      (t.settle_notConnected ids (ht t List.mem_cons_self) hw)

/-- Served alone, a guarded operation does what settling its task does. -/
theorem Operation.alone_alike (ids : IdSource) (task : Nat) (w : World B.toBoundary)
    (script : List (Entry B.Return)) (refusal : Reply) (body : Value → Program B.toBoundary Ending) :
    ((Operation.guarded refusal body).alone ids task w script).1.Alike
        (Guarded.settle ids task w script ⟨refusal, body⟩).1 ∧
      ((Operation.guarded refusal body).alone ids task w script).2.1 =
        (Guarded.settle ids task w script ⟨refusal, body⟩).2 := by
  have began := World.alike_record w task (e := .began w.client.state) rfl
  match hc : w.client with
  | ⟨.connected, some handle⟩ =>
    have entered := (World.alike_record _ task (e := .entered .connected) rfl).trans began
    obtain ⟨hw, hr⟩ := complete_alike ids task (body handle) entered script
    obtain ⟨hw, hr⟩ := Ending.settle_alike task hw hr
    simp only [Operation.alone, Guarded.settle, Client.live?, World.record_client, hc] at hw hr ⊢
    exact ⟨(World.alike_record _ task rfl).trans hw, hr⟩
  | ⟨.connected, none⟩ | ⟨.unconnected, _⟩ | ⟨.closed, _⟩ =>
    simp only [Operation.alone, Guarded.settle, Client.live?, World.record_client, hc, and_true]
      at began ⊢
    exact (World.alike_record _ task rfl).trans began

end RecordStore
