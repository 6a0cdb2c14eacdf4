/-
Where wrong arguments are found. An operation that blames its arguments in the end has made no call, with
one exception: a creation looks at the condition it reads its record back by only after the insertion, so
an identifier that is no proper condition is found too late. Faults that a storage signals in the guise of
such an error are told apart.
-/
import RecordStore.Proofs.Condition.Outcome
import RecordStore.Proofs.Lifecycle.Failures
import RecordStore.Proofs.Query.Parameters

namespace RecordStore

/-- The failure blames an argument: an operator that does not exist, rejected options, or a missing
condition. It may be found by the store or signalled by someone else. -/
def Failure.BlamesArguments : Failure → Prop
  | .unknownOperator _ => True
  | .missingCondition => True
  | .invalidOptions _ => True
  | .passed f => f.kind = .own .unknownOperator ∨ f.kind = .own .missingCondition ∨
    f.kind = .own .invalidOptions
  | _ => False

/-! ## Conditions -/

namespace Condition

/-- A condition on one column is refused exactly if it asks for an operator that does not exist. -/
theorem compile_single_fails_iff (column v : Value) :
    (∃ e, compile (.map [(column, v)]) = .error e) ↔
      ∃ ops, v = .map ops ∧ ∃ o ∈ ops, Operator.ofKey? o.1 = none := by
  rw [compile_fails_iff, ← Option.isSome_iff_exists, firstUnknown?, List.flatMap_singleton, List.find?_isSome]
  cases v with
  | map ops => simp [Value.operatorKeys, Operator.unknown]
  | _ => simp [Value.operatorKeys]

end Condition

/-! ## Operations -/

/-- The request is a creation whose identifier asks for an operator that does not exist; `drawn` are the
identifiers that were drawn for it. -/
def Request.Unreadable (r : Request) (drawn : List Value) : Prop :=
  ∃ table record ops, r = .create table record ∧
    Operation.identifier (Operation.createdRecord record drawn) = .map ops ∧
    ∃ o ∈ ops, Operator.ofKey? o.1 = none

/-- What the calls of a program that blames its arguments come from. -/
def Request.Blamed (r : Request) (es : List (Event Storage)) : Prop :=
  (∃ k, .called k ∈ es) ↔ (∃ k f, .answered k (.error f) ∈ es) ∨ r.Unreadable (es.filterMap Event.drawn?)

namespace Request.Blamed

variable {r : Request}

theorem uncalled {es : List (Event Storage)} (hcalled : ∀ k, .called k ∉ es)
    (hanswered : ∀ k x, .answered k x ∉ es) (hr : ¬ r.Unreadable (es.filterMap Event.drawn?)) :
    r.Blamed es := by
  constructor
  · rintro ⟨k, hk⟩
    exact absurd hk (hcalled k)
  · rintro (⟨k, f, hf⟩ | h)
    · exact absurd hf (hanswered k _)
    · exact absurd h hr

theorem failed {es : List (Event Storage)} {k : StorageCall} {f : Fault} (hcalled : .called k ∈ es)
    (hanswered : .answered k (.error f) ∈ es) : r.Blamed es :=
  ⟨fun _ => .inl ⟨k, f, hanswered⟩, fun _ => ⟨k, hcalled⟩⟩

theorem late {es : List (Event Storage)} {k : StorageCall} (hcalled : .called k ∈ es)
    (hr : r.Unreadable (es.filterMap Event.drawn?)) : r.Blamed es :=
  ⟨fun _ => .inr hr, fun _ => ⟨k, hcalled⟩⟩

end Request.Blamed

namespace Operation

theorem ends_blamed {r : Request} (hr : ∀ table record, r ≠ .create table record)
    {result : Except Failure Value} {es : List (Event Storage)} {a : Ending}
    (hends : (ends result).Ends es a) : r.Blamed es := by
  obtain ⟨rfl, -⟩ := hends
  exact .uncalled (by simp) (by simp) fun ⟨table, record, _, heq, _⟩ => hr table record heq

/-- A program that answers with what its one call comes back with. -/
theorem call_blamed {r : Request} {k : StorageCall} {give : Except Fault Value → Except Failure Value}
    {es : List (Event Storage)} {a : Ending}
    (hends : (Program.call (B := Storage) k fun x => ends (give x)).Ends es a) {e : Failure}
    (hfailed : a.reply.result = .error e) (hgive : ∀ x e, give (.ok x) ≠ .error e) : r.Blamed es := by
  obtain ⟨x, _, rfl, rfl, rfl⟩ := hends
  cases x with
  | ok v => exact absurd hfailed (hgive v e)
  | error f => exact .failed (k := k) (f := f) (by simp) (by simp)

/-- How an insertion ends: what it asked of the storage, and its result. -/
inductive Inserts (handle table : Value) (record : Entries) : List (Event Storage) → Except Failure Value → Prop where
  | unnamed (place : Nat) (k : Kind) : Inserts handle table record [] (.error (.itemNotText place k))
  | refused (names : List String) (f : Fault) : Inserts handle table record
    [.called (.execute handle (.insert table names (record.map Prod.snd))),
      .answered (.execute handle (.insert table names (record.map Prod.snd))) (.error f)]
    (.error (failing .create f))
  /-- The condition for reading the record back does not compile. -/
  | unreadable (names : List String) (n : Value) {e : Failure} :
    Condition.compile (.map [(idKey, identifier record)]) = .error e → Inserts handle table record
      [.called (.execute handle (.insert table names (record.map Prod.snd))),
        .answered (.execute handle (.insert table names (record.map Prod.snd))) (.ok n)]
      (.error e)
  | read (names : List String) (n : Value) (c : Clause) (r : Except Fault Value) : Inserts handle table record
    [.called (.execute handle (.insert table names (record.map Prod.snd))),
      .answered (.execute handle (.insert table names (record.map Prod.snd))) (.ok n),
      .called (.queryOne handle (.select table c { limit := some 1 })),
      .answered (.queryOne handle (.select table c { limit := some 1 })) r]
    (match r with
      | .error f => .error (failing .findOne f)
      | .ok found => if found.isNull then .error .notInserted else .ok (identifier record))

theorem insert_inserts {handle table : Value} {record : Entries} {es : List (Event Storage)} {a : Ending}
    (h : (insert handle table record).Ends es a) : Inserts handle table record es a.reply.result := by
  unfold insert at h
  dsimp only at h
  cases hnames : columnNames record with
  | error e =>
    rw [hnames] at h
    obtain ⟨rfl, rfl⟩ := h
    obtain ⟨place, k, rfl⟩ := textsToJoin_error hnames
    exact .unnamed place k
  | ok names =>
    rw [hnames] at h
    obtain ⟨inserted, es, rfl, h⟩ := h
    cases inserted with
    | error f =>
      obtain ⟨rfl, rfl⟩ := h
      exact .refused names f
    | ok n =>
      dsimp only at h
      cases hcompile : Condition.compile (.map [(idKey, identifier record)]) with
      | error e =>
        rw [hcompile] at h
        obtain ⟨rfl, rfl⟩ := h
        exact .unreadable names n hcompile
      | ok c =>
        rw [hcompile] at h
        obtain ⟨r, es, rfl, h⟩ := h
        cases r with
        | error f =>
          obtain ⟨rfl, rfl⟩ := h
          exact .read names n c (.error f)
        | ok found =>
          obtain ⟨rfl, rfl⟩ := h
          exact .read names n c (.ok found)

/-- An insertion, and what its task drew before it. -/
theorem insert_blamed {handle table record : Value} {fs : List (Event Storage)} (gs : List (Event Storage))
    {a : Ending}
    (hends : (insert handle table (createdRecord record (gs.filterMap Event.drawn?))).Ends fs a)
    {e : Failure} (hfailed : a.reply.result = .error e) (hblames : e.BlamesArguments) :
    (Request.create table record).Blamed (gs ++ fs) := by
  have hinserts := insert_inserts hends
  rw [hfailed] at hinserts
  generalize hresult : Except.error e = result at hinserts
  cases hinserts with
  | unnamed place k =>
    cases hresult
    exact hblames.elim
  | refused names f =>
    exact .failed (k := .execute handle (.insert table names _)) (f := f) (by simp)
      (List.mem_append_right _ (List.mem_cons_of_mem _ List.mem_cons_self))
  | unreadable names n hcompile =>
    obtain ⟨ops, hops, hkey⟩ := (Condition.compile_single_fails_iff _ _).1 ⟨_, hcompile⟩
    refine .late (List.mem_append_right _ List.mem_cons_self) ⟨table, record, ops, rfl, ?_, hkey⟩
    rw [List.filterMap_append, List.filterMap_cons_none rfl, List.filterMap_cons_none rfl, List.filterMap_nil,
      List.append_nil, hops]
  | read names n c r =>
    cases r with
    | error f =>
      exact .failed (k := .queryOne handle (.select table c { limit := some 1 })) (f := f) (by simp) (by simp)
    | ok found =>
      -- what is read back is the record, or not there
      dsimp only at hresult
      split at hresult
      · cases hresult
        exact hblames.elim
      · cases hresult

theorem create_blamed (table record : Value) :
    (create table record).BodyEnds fun _ es a => ∀ e, a.reply.result = .error e → e.BlamesArguments →
      (Request.create table record).Blamed es := by
  intro handle es a hends e hfailed hblames
  dsimp only at hends
  cases hentries : record.entries? with
  | none =>
    rw [hentries] at hends
    obtain ⟨rfl, rfl⟩ := hends
    cases hfailed
    exact hblames.elim
  | some entries =>
    rw [hentries] at hends
    dsimp only at hends
    split at hends
    · rename_i hnull
      obtain ⟨r, fs, rfl, hends⟩ := hends
      cases r with
      | error f =>
        -- no identifier was drawn
        obtain ⟨rfl, -⟩ := hends
        refine .uncalled (by simp) (by simp) ?_
        rintro ⟨_, _, ops, heq, hops, -⟩
        cases heq
        have hops : identifier (createdRecord record []) = .map ops := hops
        rw [createdRecord_nil hentries] at hops
        rw [hops] at hnull
        cases hnull
      | ok id =>
        dsimp only at hends
        rw [← createdRecord_drawn hentries hnull id] at hends
        exact insert_blamed [.drew (.ok id)] hends hfailed hblames
    · rw [← createdRecord_nil hentries] at hends
      exact insert_blamed [] hends hfailed hblames

end Operation

/-- A data operation that blames its arguments has made calls exactly if one of them failed or its
identifier was found wrong too late. -/
theorem Request.operation_blamed (path : String) {r : Request} (hr : r.IsData) :
    (r.operation path).BodyEnds fun _ es a => ∀ e, a.reply.result = .error e → e.BlamesArguments →
      r.Blamed es := by
  cases r with
  | connect => exact absurd rfl hr.1
  | close => exact absurd rfl hr.2
  | create table record => exact Operation.create_blamed table record
  | delete table condition =>
    intro handle es a hends e hfailed _
    dsimp only at hends
    split at hends
    · exact Operation.ends_blamed (by simp) hends
    · split at hends
      · exact Operation.ends_blamed (by simp) hends
      · exact Operation.call_blamed hends hfailed fun _ _ h => nomatch h
  | createTable | find | findOne | update =>
    intro handle es a hends e hfailed _
    dsimp only at hends
    split at hends
    · exact Operation.ends_blamed (by simp) hends
    · exact Operation.call_blamed hends hfailed fun _ _ h => nomatch h

/-! ## Runs -/

theorem drawnBy_eq (i : Nat) (h : History) : drawnBy i h = (eventsOf i h).filterMap Event.drawn? := by
  rw [drawnBy, eventsOf, List.filterMap_filterMap]
  congr 1
  funext e
  by_cases he : e.1 = i <;> simp [he]

namespace Setup

variable {path : String} {ids : IdSource} {ms : List (Move Value)} {i : Nat} {job : Job Value}

/-- In every run, a data operation that blames its arguments in the end has made no call exactly if no
call of it failed and it is no creation with an identifier that asks for an operator that does not
exist. -/
theorem play_blames_early_iff {reply : Reply} {e : Failure}
    (hjob : ((Setup.direct path ids).play ms).jobs[i]? = some job) (hdata : job.request.IsData)
    (replied : (i, .replied reply) ∈ ((Setup.direct path ids).play ms).history)
    (failed : reply.result = .error e) (blames : e.BlamesArguments) :
    let r := (Setup.direct path ids).play ms
    (∀ k, (i, .called k) ∉ r.history) ↔
      (∀ k f, (i, .answered k (.error f)) ∉ r.history) ∧
        ¬ job.request.Unreadable (drawnBy i r.history) := by
  intro r
  obtain ⟨v, hcourse, -⟩ := play_replied (direct_tells path ids) hjob replied
  rw [direct_operation] at hcourse
  have huses := Request.operation_usesHandle path hdata
  have hblamed := Request.operation_blamed path hdata
  generalize job.request.operation path = op at hcourse huses hblamed
  cases op with
  | free start => exact huses.elim
  | guarded refusal body =>
    rcases hcourse.replied_cases (mem_eventsOf.2 replied) with ⟨rfl, -⟩ | ⟨w, gs, a, -, hends, rfl, heq⟩
    · -- a refusal blames no argument
      rw [huses.1] at failed
      cases failed
      exact blames.elim
    · have hblamed := hblamed w gs a hends e failed blames
      have heq : eventsOf i r.history = .began .connected :: .entered .connected :: (gs ++ a.events) := heq
      have hdrawn : drawnBy i r.history = gs.filterMap Event.drawn? := by
        have hlast : (a.events (B := Storage)).filterMap Event.drawn? = [] :=
          List.filterMap_eq_nil_iff.2 fun e he => (a.events_silent e he).1
        rw [drawnBy_eq, heq, List.filterMap_cons_none rfl, List.filterMap_cons_none rfl,
          List.filterMap_append, hlast, List.append_nil]
      have hcalled (k : StorageCall) : (i, .called k) ∈ r.history ↔ .called k ∈ gs := by
        rw [← mem_eventsOf, heq]
        simp [Ending.events]
      have hanswered (k : StorageCall) (f : Fault) :
          (i, .answered k (.error f)) ∈ r.history ↔ .answered k (.error f) ∈ gs := by
        rw [← mem_eventsOf, heq]
        simp [Ending.events]
      simp only [hcalled, hanswered, hdrawn]
      simpa only [not_exists, not_or] using not_congr hblamed

/-- A deletion without a condition makes no call. -/
theorem play_blames_early_deleting :
    let r := (Setup.direct "a.db" fun n => .ok (.int n)).play
      [.start ⟨.connect, []⟩, .turn 0, .start ⟨.delete (.text "t") .null, []⟩, .turn 0]
    (1, .replied ⟨.error .missingCondition, none⟩) ∈ r.history ∧ ∀ k, (1, .called k) ∉ r.history := by
  intro r
  have last : r.history[8]? = some (1, .replied ⟨.error .missingCondition, none⟩) := rfl
  have hjob : r.jobs[1]? = some ⟨.delete (.text "t") .null, []⟩ := rfl
  have own : eventsOf 1 r.history =
    [.began .connected, .entered .connected, .replied ⟨.error .missingCondition, none⟩] := rfl
  have replied := List.mem_of_getElem? last
  refine ⟨replied, (play_blames_early_iff hjob ⟨nofun, nofun⟩ replied rfl trivial).2 ⟨fun k f => ?_, ?_⟩⟩
  · rw [← mem_eventsOf, own]
    simp
  · rintro ⟨_, _, _, heq, -⟩
    cases heq

/-- An identifier that asks for an operator that does not exist is found wrong after the insertion. -/
theorem not_blames_early_creating :
    let r := (Setup.direct "a.db" fun n => .ok (.int n)).play
      [.start ⟨.connect, []⟩, .turn 0,
        .start ⟨.create (.text "t") (.map [(.text "id", .map [(.text "bogus", .int 1)])]), []⟩, .turn 0]
    ∃ job reply e, r.jobs[1]? = some job ∧ job.request.IsData ∧ (1, .replied reply) ∈ r.history ∧
      reply.result = .error e ∧ e.BlamesArguments ∧ ∃ k, (1, .called k) ∈ r.history := by
  intro r
  have called : r.history[8]? = some (1, .called (.execute (.text "h1")
    ⟨"INSERT INTO t (id) VALUES (?)", [.map [(.text "bogus", .int 1)]]⟩)) := by with_unfolding_all rfl
  have replied : r.history[10]? = some (1, .replied ⟨.error (.unknownOperator (.text "bogus")),
    some (.map [(.text "id", .map [(.text "bogus", .int 1)])])⟩) := by with_unfolding_all rfl
  exact ⟨_, _, _, rfl, ⟨nofun, nofun⟩, List.mem_of_getElem? replied, rfl, trivial, _, List.mem_of_getElem? called⟩

end Setup

end RecordStore
