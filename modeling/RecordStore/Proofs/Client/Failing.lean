/-
Failed calls. An operation ends at once when a call of it fails, and what it reports then is the fault,
wrapped or as it is. The data operations wrap faults of the engine and nothing else; connecting wraps
faults of the operating system as well.
-/
import RecordStore.Proofs.Schedule.Course

namespace RecordStore

/-! ## Programs -/

section Boundary

variable {B : Boundary} {α : Type} {report : B.Call → Fault → α → Prop} {es xs ys : List (Event B)} {a : α}

/-- A call that fails ends the program at once; `report` says with what. -/
def Program.StopsWith (report : B.Call → Fault → α → Prop) : Program B α → Prop
  | .done _ => True
  | .call k next => (∀ f, ∃ a, next (.error f) = .done a ∧ report k f a) ∧
    ∀ x, (next (.ok x)).StopsWith report
  | .draw next => ∀ r, (next r).StopsWith report
  | .log _ next => next.StopsWith report
  | .connect _ next => next.StopsWith report
  | .close next => next.StopsWith report

/-- Nothing happens behind a call that fails. -/
theorem Program.Ends.stops {p : Program B α} (h : p.Ends es a) (hp : p.StopsWith report) {k : B.Call}
    {f : Fault} (hes : es = xs ++ .answered k (.error f) :: ys) : ys = [] ∧ report k f a := by
  induction p generalizing es xs with
  | done b =>
    rw [h.1] at hes
    cases xs <;> cases hes
  | draw next ih =>
    obtain ⟨r, fs, rfl, h⟩ := h
    rcases xs with _ | ⟨_, xs⟩
    · cases hes
    · exact ih r h (hp r) (List.cons.inj hes).2
  | log _ next ih | connect _ next ih | close next ih =>
    obtain ⟨fs, rfl, h⟩ := h
    rcases xs with _ | ⟨_, xs⟩
    · cases hes
    · exact ih h hp (List.cons.inj hes).2
  | call k' next ih =>
    obtain ⟨hfails, hgoes⟩ := hp
    obtain ⟨r, fs, rfl, h⟩ := h
    -- an answer to this call, or to a later one
    rcases xs with _ | ⟨_, _ | ⟨_, xs⟩⟩
    · cases hes
    · obtain ⟨he, hfs⟩ := List.cons.inj (List.cons.inj hes).2
      cases he
      obtain ⟨b, hb, hreport⟩ := hfails f
      rw [hb] at h
      obtain ⟨rfl, rfl⟩ := h
      exact ⟨hfs.symm, hreport⟩
    · have hfs := (List.cons.inj (List.cons.inj hes).2).2
      cases r with
      | ok x => exact ih _ h (hgoes x) hfs
      | error f' =>
        obtain ⟨b, hb, -⟩ := hfails f'
        rw [hb] at h
        rw [h.1] at hfs
        cases xs <;> cases hfs

/-- A call that fails ends the operation at once, with the failure that `report` gives. -/
def Operation.StopsWith (report : B.Call → Fault → Failure) : Operation B → Prop
  | .free start => ∀ s, (start s).StopsWith fun k f a => a.result = .error (report k f)
  | .guarded _ body => ∀ v, (body v).StopsWith fun k f a =>
    a.reply.result = .error (report k f) ∧ a.afterwards = []

/-- Behind a call that fails the operation only replies. -/
theorem Operation.Course.stops {op : Operation B} {report : B.Call → Fault → Failure} {v : Option Value}
    {at? : Option (Phase B)} {k : B.Call} {f : Fault}
    (hcourse : op.Course (xs ++ .answered k (.error f) :: ys) v at?) (hop : op.StopsWith report) :
    ∃ reply, ys = [.replied reply] ∧ reply.result = .error (report k f) := by
  obtain ⟨rest, hwhole⟩ := hcourse.completes
  rw [List.append_assoc, List.cons_append] at hwhole
  -- the whole course: what is behind the answer is the reply
  have hreply : ∃ reply, ys ++ rest = [.replied reply] ∧ reply.result = .error (report k f) := by
    generalize hall : xs ++ .answered k (.error f) :: (ys ++ rest) = all at hwhole
    cases hwhole with
    | refused => rcases xs with _ | ⟨_, _ | ⟨_, xs⟩⟩ <;> simp at hall
    | turnedAway => rcases xs with _ | ⟨_, _ | ⟨_, _ | ⟨_, xs⟩⟩⟩ <;> simp at hall
    | @ended start s gs a hends =>
      rcases xs with _ | ⟨_, xs⟩
      · simp at hall
      · obtain ⟨zs, hgs, hys⟩ := split_before (List.cons.inj hall).2.symm (by simp)
        obtain ⟨rfl, hreport⟩ := hends.stops (hop s) hgs
        exact ⟨a, hys, hreport⟩
    | @served refusal body w gs a hends =>
      rcases xs with _ | ⟨_, _ | ⟨_, xs⟩⟩
      · simp at hall
      · simp at hall
      · obtain ⟨zs, hgs, hys⟩ := split_before (List.cons.inj (List.cons.inj hall).2).2.symm
          (by simp [Ending.events])
        obtain ⟨rfl, hreport, hafterwards⟩ := hends.stops (hop w) hgs
        refine ⟨a.reply, ?_, hreport⟩
        rw [hys, Ending.events, hafterwards]
        rfl
  obtain ⟨reply, hys, hreport⟩ := hreply
  rcases List.append_eq_singleton_iff.1 hys with ⟨rfl, rfl⟩ | ⟨rfl, rfl⟩
  · -- it cannot be still to come
    cases at? with
    | some ph => exact (hcourse.not_answered).elim
    | none =>
      obtain ⟨fs, b, hfs, -⟩ := hcourse.replies
      exact absurd (List.append_inj' hfs rfl).2 (by simp)
  · exact ⟨reply, rfl, hreport⟩

end Boundary

/-! ## Operations -/

/-- The failure that a request reports when a call of it fails. -/
def Request.reported (r : Request) (k : StorageCall) (f : Fault) : Failure :=
  match r, k with
  | .connect, _ => Operation.notOpened f
  | .close, _ => .passed f
  | .createTable _ _, _ => Operation.failing .createTable f
  | .find _ _ _, _ => Operation.failing .findMany f
  | .findOne _ _ _, _ => Operation.failing .findOne f
  | .create _ _, .execute _ _ => Operation.failing .create f
  | .create _ _, _ => Operation.failing .findOne f
  | .update _ _ _, _ => Operation.failing .update f
  | .delete _ _, _ => Operation.failing .delete f

namespace Operation

theorem insert_stops (handle table data : Value) (record : Entries) :
    (insert handle table record).StopsWith fun k f a =>
      a.reply.result = .error ((Request.create table data).reported k f) ∧ a.afterwards = [] := by
  unfold insert
  dsimp only
  split
  · trivial
  · refine ⟨fun f => ⟨_, rfl, rfl, rfl⟩, fun n => ?_⟩
    dsimp only
    split
    · trivial
    · exact ⟨fun f => ⟨_, rfl, rfl, rfl⟩, fun found => trivial⟩

theorem create_stops (table data : Value) :
    (create table data).StopsWith (Request.create table data).reported := by
  intro handle
  dsimp only
  split
  · trivial
  · split
    · intro r
      cases r with
      | error f => trivial
      | ok id => exact insert_stops handle table data _
    · exact insert_stops handle table data _

end Operation

/-- Each request ends when a call of it fails. -/
theorem Request.operation_stops (path : String) (r : Request) :
    (r.operation path).StopsWith r.reported := by
  cases r with
  | connect =>
    intro s
    cases s with
    | unconnected => exact ⟨fun f => ⟨_, rfl, rfl⟩, fun handle => trivial⟩
    | connected | closed => trivial
  | close => exact fun handle => ⟨fun f => ⟨_, rfl, rfl, rfl⟩, fun n => trivial⟩
  | create table data => exact Operation.create_stops table data
  | delete table condition =>
    intro handle
    dsimp only
    split
    · trivial
    · split
      · trivial
      · exact ⟨fun f => ⟨_, rfl, rfl, rfl⟩, fun n => trivial⟩
  | createTable | find | findOne | update =>
    intro handle
    dsimp only
    split
    · trivial
    · exact ⟨fun f => ⟨_, rfl, rfl, rfl⟩, fun n => trivial⟩

/-! ## What is reported -/

/-- The failure wraps the fault: it has it as its cause and shows its message behind a colon. -/
def Failure.Wraps (e : Failure) (f : Fault) : Prop :=
  e.cause? = some f ∧ ∃ head, e.message = head ++ ": " ++ f.message

theorem Failure.storage_wraps (purpose : Purpose) (f : Fault) : (storage purpose f).Wraps f :=
  ⟨rfl, "Failed to " ++ purpose.text, rfl⟩

theorem Failure.cannotOpen_wraps (f : Fault) : (cannotOpen f).Wraps f :=
  ⟨rfl, "Failed to connect to database", rfl⟩

/-- A data operation wraps faults of the engine and passes others on. -/
theorem Request.reported_data {r : Request} (hr : r.IsData) (k : StorageCall) (f : Fault) :
    if f.isEngine then (∃ purpose, r.reported k f = .storage purpose f) ∧ (r.reported k f).Wraps f
    else r.reported k f = .passed f := by
  have hfailing : ∃ purpose, r.reported k f = Operation.failing purpose f := by
    cases r with
    | connect => exact absurd rfl hr.1
    | close => exact absurd rfl hr.2
    | create table data => cases k <;> exact ⟨_, rfl⟩
    | _ => exact ⟨_, rfl⟩
  obtain ⟨purpose, h⟩ := hfailing
  rw [h]
  unfold Operation.failing
  cases f.isEngine with
  | true => exact ⟨⟨purpose, rfl⟩, Failure.storage_wraps purpose f⟩
  | false => exact rfl

/-- Connecting wraps faults of the engine and of the operating system, and passes others on. -/
theorem Request.reported_connect (k : StorageCall) (f : Fault) :
    if f.isEngine || f.isSystem then
      Request.connect.reported k f = .cannotOpen f ∧ (Request.connect.reported k f).Wraps f
    else Request.connect.reported k f = .passed f := by
  have h : Request.connect.reported k f = Operation.notOpened f := rfl
  rw [h]
  unfold Operation.notOpened
  cases f.isEngine || f.isSystem with
  | true => exact ⟨rfl, Failure.cannotOpen_wraps f⟩
  | false => exact rfl

end RecordStore
