/-
What the SQLite driver does to open a connection, and what connecting does with it. The connection is
prepared before the client has it, so a connecting operation makes calls on its own connection only, and
none once the client is a connected one.
-/
import RecordStore.Proofs.Lifecycle.Runs
import RecordStore.Proofs.Query.Writing
import RecordStore.Proofs.Schedule.Followed

namespace RecordStore

/-! ## The driver -/

/-- The connections that calls come back with. -/
def ConnectionCall.came : (k : ConnectionCall) → k.Answer → Option Value
  | .connect _ _, v => some v
  | _, _ => none

/-- The call prepares or closes the connection, and writes nothing. -/
def ConnectionCall.Prepares (v : Value) : ConnectionCall → Prop
  | .nameColumns w => w = v
  | .execute w sql _ => w = v ∧ writes sql = false
  | .commit w => w = v
  | .close w => w = v
  | _ => False

theorem ConnectionCall.Prepares.came_none {v : Value} {k : ConnectionCall} (hk : k.Prepares v) (x : k.Answer) :
    k.came x = none := by
  cases k with
  | connect => exact hk.elim
  | _ => rfl

/-- The event belongs to a call that prepares or closes the connection, or is a log record. -/
def Event.Prepares (v : Value) : Event Connection → Prop
  | .called k => k.Prepares v
  | .answered k _ => k.Prepares v
  | .logged _ => True
  | _ => False

namespace Sqlite

variable {o : Options} {path v : Value} {es : List (Event Connection)}

theorem request_ends {k : ConnectionCall} {r : Except Fault k.Answer} (h : (request k).Ends es r) :
    es = [.called k, .answered k r] := by
  obtain ⟨_, _, rfl, rfl, rfl⟩ := h
  rfl

theorem request_prepares {k : ConnectionCall} {r : Except Fault k.Answer} (h : (request k).Ends es r)
    (hk : k.Prepares v) : ∀ e ∈ es, e.Prepares v := by
  rw [request_ends h]
  exact List.forall_mem_cons.2 ⟨hk, List.forall_mem_singleton.2 hk⟩

theorem prepare_prepares {r : Except Fault Unit} (h : (prepare o v).Ends es r) : ∀ e ∈ es, e.Prepares v := by
  have hpragma : writes foreignKeysOn = false := by decide
  rcases h.of_andThen with ⟨f, hname, -⟩ | ⟨_, _, _, rfl, hname, h⟩
  · exact request_prepares hname rfl
  refine List.forall_mem_append.2 ⟨request_prepares hname rfl, ?_⟩
  split at h
  · rcases h.of_andThen with ⟨f, hrun, -⟩ | ⟨_, _, _, rfl, hrun, hcommit⟩
    · exact request_prepares hrun ⟨rfl, hpragma⟩
    · exact List.forall_mem_append.2 ⟨request_prepares hrun ⟨rfl, hpragma⟩, request_prepares hcommit rfl⟩
  · rw [h.1]
    exact List.forall_mem_nil _

/-- Opening asks for a connection, prepares it and ends with it, or fails. -/
theorem openConnection_ends {r : Except Fault Value} (h : (openConnection o path).Ends es r) :
    (∃ f, es = [.called (.connect path o.timeout), .answered (.connect path o.timeout) (.error f)] ∧
        r = .error f) ∨
      ∃ v ps, es = .called (.connect path o.timeout) :: .answered (.connect path o.timeout) (.ok v) :: ps ∧
        (∀ e ∈ ps, e.Prepares v) ∧ ∀ w, r = .ok w → w = v := by
  rcases h.of_andThen with ⟨f, hconnect, rfl⟩ | ⟨_, v, ps, rfl, hconnect, h⟩
  · exact .inl ⟨f, request_ends hconnect, rfl⟩
  refine .inr ⟨v, ps, by rw [request_ends hconnect]; rfl, ?_⟩
  obtain ⟨xs, x, ys, rfl, hprepare, h⟩ := h.of_bind
  have hprepares := prepare_prepares hprepare
  cases x with
  | ok _ =>
    obtain ⟨_, rfl, rfl, rfl⟩ := h
    refine ⟨List.forall_mem_append.2 ⟨hprepares, List.forall_mem_singleton.2 trivial⟩, ?_⟩
    rintro w ⟨⟩
    rfl
  | error f =>
    dsimp only at h
    split at h
    · rcases h.of_andThen with ⟨f, hclose, rfl⟩ | ⟨_, _, _, rfl, hclose, rfl, rfl⟩
      · exact ⟨List.forall_mem_append.2 ⟨hprepares, request_prepares hclose rfl⟩, nofun⟩
      · rw [List.append_nil]
        exact ⟨List.forall_mem_append.2 ⟨hprepares, request_prepares hclose rfl⟩, nofun⟩
    · obtain ⟨rfl, rfl⟩ := h
      rw [List.append_nil]
      exact ⟨hprepares, nofun⟩

end Sqlite

/-! ## Connecting -/

namespace Operation

variable {path : String} {o : Sqlite.Options} {es xs ys : List (Event Connection)} {v : Option Value}
  {at? : Option (Phase Connection)} {w : Value}

/-- Connecting asks for no connection, or for one that it does not get, or for one that it prepares before
the client is a connected one. -/
theorem connect_goes (hcourse : ((connect path).through (Sqlite.driver o)).Course es v at?) :
    ∃ s gs a rest, es ++ rest = .began s :: (gs ++ [.replied a]) ∧ (gs = [] ∨
      (∃ f, gs = [.called (.connect (.text path) o.timeout), .answered (.connect (.text path) o.timeout) (.error f)]) ∨
      ∃ v ps gone, gs = .called (.connect (.text path) o.timeout) ::
          .answered (.connect (.text path) o.timeout) (.ok v) :: (ps ++ gone) ∧ (∀ e ∈ ps, e.Prepares v) ∧
        (gone = [] ∨ gone = [.became .connected, .logged (.connected path)])) := by
  obtain ⟨rest, hwhole⟩ := hcourse.completes
  rw [connect_eq] at hwhole
  generalize hall : es ++ rest = all at hwhole
  cases hwhole with
  | @ended start s gs a hends =>
    refine ⟨s, gs, a, rest, hall, ?_⟩
    cases s with
    | connected | closed => exact .inl hends.1
    | unconnected =>
      obtain ⟨xs, x, ys, rfl, hopen, hends⟩ := hends.of_bind
      rcases Sqlite.openConnection_ends hopen with ⟨f, rfl, rfl⟩ | ⟨v, ps, rfl, hps, hv⟩
      · obtain ⟨rfl, -⟩ := hends
        exact .inr (.inl ⟨f, rfl⟩)
      · refine .inr (.inr ⟨v, ps, ys, rfl, hps, ?_⟩)
        cases x with
        | error f => exact .inl hends.1
        | ok w =>
          obtain ⟨_, rfl, _, rfl, rfl, -⟩ := hends
          exact .inr rfl

/-- What connecting does on a connection, it does on the one that came back to it. -/
theorem connect_prepares (hcourse : ((connect path).through (Sqlite.driver o)).Course es v at?)
    {k : ConnectionCall} {x : Except Fault k.Answer} (hmem : .answered k x ∈ es)
    (hk : ∀ p t, k ≠ .connect p t) :
    ∃ w, k.Prepares w ∧ .answered (.connect (.text path) o.timeout) (.ok w) ∈ es := by
  obtain ⟨s, gs, a, rest, heq, hgs⟩ := connect_goes hcourse
  have hwhole : .answered k x ∈ .began s :: (gs ++ [.replied a]) := heq ▸ List.mem_append_left rest hmem
  rcases hgs with rfl | ⟨f, rfl⟩ | ⟨w, ps, gone, rfl, hps, hgone⟩
  · simp at hwhole
  · simp [hk] at hwhole
  · have hbefore : .answered k x ∉
        [Event.began (B := Connection) s, .called (.connect (.text path) o.timeout)] := by simp
    refine ⟨w, ?_, mem_of_not_before _ heq hmem hbefore⟩
    simp [hk] at hwhole
    rcases hwhole with h | h
    · exact hps _ h
    · rcases hgone with rfl | rfl <;> simp at h

/-- Once the client is a connected one, connecting makes no calls any more. -/
theorem connect_over (hcourse : ((connect path).through (Sqlite.driver o)).Course es v at?) {s : Lifecycle}
    (hes : es = xs ++ .became s :: ys) {k : ConnectionCall} (x : Except Fault k.Answer) :
    .answered k x ∉ ys := by
  obtain ⟨s', gs, a, rest, heq, hgs⟩ := connect_goes hcourse
  rw [hes, List.append_assoc, List.cons_append] at heq
  have hwhole : .became s ∈ .began s' :: (gs ++ [.replied a]) := by
    rw [← heq]
    simp
  rcases hgs with rfl | ⟨f, rfl⟩ | ⟨w, ps, gone, rfl, hps, rfl | rfl⟩
  · simp at hwhole
  · simp at hwhole
  · have hno : .became s ∉ ps := fun h => hps _ h
    simp [hno] at hwhole
  · have hno : .became s ∉ ps := fun h => hps _ h
    have heq : [Event.began (B := Connection) s', .called (.connect (.text path) o.timeout),
        .answered (.connect (.text path) o.timeout) (.ok w)] ++ ps ++
          .became .connected :: [.logged (.connected path), .replied a] = xs ++ .became s :: (ys ++ rest) := by
      rw [heq]
      simp
    obtain ⟨-, -, hys⟩ := (List.append_cons_inj_of_notMem (by simpa using hno) (by simp)).1 heq
    intro h
    have hmem : .answered k x ∈ ys ++ rest := List.mem_append_left rest h
    rw [← hys] at hmem
    simp at hmem

end Operation

namespace Setup

/-- A client on an SQLite database. -/
def sqlite (path : String) (o : Sqlite.Options) (ids : IdSource) : Setup ScriptedConnection :=
  { path, driver := Sqlite.driver o, ids }

/-- Every operation makes the client a connected one on the connection that was opened for it. -/
theorem sqlite_tells (path : String) (o : Sqlite.Options) (ids : IdSource) (r : Request) :
    ((Setup.sqlite path o ids).operation r).Tells ConnectionCall.came none := by
  by_cases hr : r = .connect
  · subst hr
    show ((Operation.connect path).through (Sqlite.driver o)).Tells _ _
    rw [Operation.connect_eq]
    intro s
    cases s with
    | connected | closed => trivial
    | unconnected =>
      refine (Sqlite.driver_passive o (.open (.text path))).tells_bind fun es a hends => ?_
      cases a with
      | error f => trivial
      | ok v =>
        rcases Sqlite.openConnection_ends hends with ⟨f, -, hf⟩ | ⟨w, ps, rfl, hps, hv⟩
        · cases hf
        · obtain rfl := hv v rfl
          -- what prepares the connection brings no other one in
          have hnone : ps.filterMap (Event.came? ConnectionCall.came) = [] := by
            refine List.filterMap_eq_nil_iff.2 fun e he => ?_
            have hprepares := hps e he
            cases e with
            | answered k x =>
              cases x with
              | error f => rfl
              | ok y => exact hprepares.came_none y
            | _ => rfl
          have hcame : Event.came? (B := Connection) ConnectionCall.came
              (.answered (.connect (.text path) o.timeout) (.ok v)) = some v := rfl
          refine ⟨?_, trivial⟩
          rw [List.filterMap_cons_none rfl, List.filterMap_cons_some hcame, hnone]
          rfl
  · have hguards := (Request.operation_guards path hr).through (Sqlite.driver_passive o)
    show ((r.operation path).through (Sqlite.driver o)).Tells _ _
    revert hguards
    cases (r.operation path).through (Sqlite.driver o) with
    | free start => exact False.elim
    | guarded refusal body => exact fun hbody v => (hbody v).tells

end Setup

end RecordStore
