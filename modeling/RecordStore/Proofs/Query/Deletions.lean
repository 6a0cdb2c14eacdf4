/-
Deletions. A client deletes only what a condition selects: each deletion that it hands to its storage has
at least one term of the condition it was asked for. A condition without any term is found before a call is
made, and these are the conditions that count as false and the mappings of empty mappings.
-/
import RecordStore.Proofs.Condition.Outcome
import RecordStore.Proofs.Lifecycle.Failures
import RecordStore.Proofs.Schedule.Handing
import RecordStore.Proofs.Query.Parameters
import RecordStore.Proofs.Query.Writing

namespace RecordStore

/-! ## Statements -/

/-- The statement deletes records. -/
def Statement.Deletes (s : Statement) : Prop := "DELETE".toList <+: s.sql.toList

/-- The statement is the deletion that the request asks for, and it is bound to at least one term of the
condition. -/
def Request.DeletesWhere (r : Request) (s : Statement) : Prop :=
  ∃ table condition ts, r = .delete table condition ∧ Condition.parse condition = .ok ts ∧ ts ≠ [] ∧
    s.sql = "DELETE FROM " ++ table.display ++ " WHERE " ++ joinWith " AND " (ts.map Term.fragment) ∧
    s.params = ts.flatMap Term.values

namespace Statement

/-- A text that begins with another word than a deletion. -/
theorem not_deletes {word : String} {s : Statement} (h : word.toList <+: s.sql.toList)
    (hword : ¬ word.toList <+: "DELETE".toList ∧ ¬ "DELETE".toList <+: word.toList) : ¬ s.Deletes := by
  intro hdeletes
  rcases List.prefix_or_prefix_of_prefix h hdeletes with hp | hp
  · exact hword.1 hp
  · exact hword.2 hp

theorem not_deletes_select (table : Value) (c : Clause) (o : QueryOptions) : ¬ (select table c o).Deletes := by
  intro hdeletes
  have hwrites := writes_of_prefix (w := "DELETE") (by decide) hdeletes
  rw [select_not_writes] at hwrites
  cases hwrites

theorem deletesWhere_delete {table condition : Value} {ts : List Term} (hparse : Condition.parse condition = .ok ts)
    (hts : ts ≠ []) : (Request.delete table condition).DeletesWhere (delete table (Clause.ofTerms ts)) := by
  refine ⟨table, condition, ts, rfl, hparse, hts, ?_, rfl⟩
  have hempty : (Clause.ofTerms ts).isEmpty = false := by simpa [Clause.isEmpty, Clause.ofTerms] using hts
  have hblank : " " ++ "WHERE " = " WHERE " := rfl
  show "DELETE FROM " ++ table.display ++ " " ++ (Clause.ofTerms ts).sql =
    "DELETE FROM " ++ table.display ++ " WHERE " ++ (Clause.ofTerms ts).text
  rw [Clause.sql, hempty, if_neg Bool.false_ne_true, ← hblank]
  simp only [String.append_assoc]

end Statement

/-! ## Operations -/

/-- A deletion in the call is the one that the request asks for. -/
def Request.DeletesBy (r : Request) (k : StorageCall) : Prop := ∀ s ∈ k.statement?, s.Deletes → r.DeletesWhere s

namespace Operation

theorem deletesBy_of_not {r : Request} {k : StorageCall} {s : Statement} (hk : k.statement? = some s)
    (hs : ¬ s.Deletes) : r.DeletesBy k := by
  intro s' hs' hdeletes
  rw [hk] at hs'
  cases hs'
  exact absurd hdeletes hs

theorem insert_deletes {r : Request} (handle table : Value) (record : Entries) (drawn : List Value) :
    (insert handle table record).Hands (fun _ k => r.DeletesBy k) drawn := by
  unfold insert
  dsimp only
  split
  · trivial
  · refine ⟨deletesBy_of_not rfl (Statement.not_deletes (Statement.insert_begins ..) (by decide)), fun inserted => ?_⟩
    cases inserted with
    | error f => trivial
    | ok n =>
      dsimp only
      split
      · trivial
      · refine ⟨deletesBy_of_not rfl (Statement.not_deletes_select _ _ _), fun read => ?_⟩
        cases read <;> trivial

/-- A query that was accepted does not delete. -/
theorem query_not_deletes {table condition : Value} {raw : RawOptions} {s : Statement}
    (h : query table condition raw = .ok s) : ¬ s.Deletes := by
  obtain ⟨o, c, -, -, -, rfl⟩ := query_ok h
  exact Statement.not_deletes_select table c o

theorem updateStatement_not_deletes {table condition changes : Value} {s : Statement}
    (h : updateStatement table condition changes = .ok s) : ¬ s.Deletes := by
  obtain ⟨es, c, -, -, rfl⟩ := updateStatement_ok h
  exact Statement.not_deletes (Statement.update_begins ..) (by decide)

/-- A deletion whose condition is vacuous has no statement, and any other one that is made has a term of its
condition. -/
theorem deletesBy_delete (table condition handle : Value) {c : Clause} (hc : Condition.compile condition = .ok c)
    (hempty : c.isEmpty = false) :
    (Request.delete table condition).DeletesBy (.execute handle (.delete table c)) := by
  rintro s hs -
  cases hs
  rcases Condition.compile_cases condition with hvacuous | ⟨e, heq, -⟩ | ⟨ts, hparse, hts, heq⟩
  · rw [Condition.compile_vacuous hvacuous] at hc
    cases hc
    cases hempty
  · rw [heq] at hc
    cases hc
  · rw [heq] at hc
    cases hc
    exact Statement.deletesWhere_delete hparse hts

end Operation

/-- No operation but a deletion deletes, and a deletion deletes what its condition selects. -/
theorem Request.operation_deletes (path : String) (r : Request) :
    (r.operation path).Hands (fun _ k => r.DeletesBy k) [] := by
  cases r with
  | connect =>
    intro s
    cases s with
    | unconnected => exact ⟨(fun s hs => nomatch hs), fun r => by cases r <;> trivial⟩
    | connected | closed => trivial
  | close => exact fun handle => ⟨(fun s hs => nomatch hs), fun r => by cases r <;> trivial⟩
  | createTable table columns =>
    intro handle
    dsimp only
    split
    · trivial
    · exact ⟨Operation.deletesBy_of_not rfl (Statement.not_deletes (Statement.createTable_begins ..) (by decide)),
        fun _ => trivial⟩
  | find table condition options | findOne table condition orderBy =>
    intro handle
    dsimp only
    split
    · trivial
    · rename_i hq
      exact ⟨Operation.deletesBy_of_not rfl (Operation.query_not_deletes hq), fun _ => trivial⟩
  | create table record =>
    intro handle
    dsimp only
    split
    · trivial
    · split
      · intro r
        cases r with
        | error f => trivial
        | ok id => exact Operation.insert_deletes handle table _ _
      · exact Operation.insert_deletes handle table _ _
  | update table condition changes =>
    intro handle
    dsimp only
    split
    · trivial
    · rename_i hs
      exact ⟨Operation.deletesBy_of_not rfl (Operation.updateStatement_not_deletes hs), fun _ => trivial⟩
  | delete table condition =>
    intro handle
    dsimp only
    split
    · trivial
    · rename_i hc
      split
      · trivial
      · rename_i hempty
        exact ⟨Operation.deletesBy_delete table condition handle hc (Bool.eq_false_iff.2 hempty), fun _ => trivial⟩

/-! ## Runs -/

/-- The failure tells that a condition is missing. It may be found by the store or signalled by someone
else. -/
def Failure.MissesCondition : Failure → Prop
  | .missingCondition => True
  | .passed f => f.kind = .own .missingCondition
  | _ => False

namespace Setup

variable {path : String} {ids : IdSource} {ms : List (Move Value)} {i : Nat} {job : Job Value} {table condition : Value}

/-- A deletion that has entered on a connected client fails without a call if its condition does not compile or is
empty. -/
theorem play_deletion_fails (hjob : ((Setup.direct path ids).play ms).jobs[i]? = some job)
    (hdelete : job.request = .delete table condition)
    (entered : (i, .entered .connected) ∈ ((Setup.direct path ids).play ms).history) {e : Failure}
    (hfails : (Condition.compile condition = .ok {} ∧ e = .missingCondition) ∨ Condition.compile condition = .error e) :
    (∀ reply, (i, .replied reply) ∈ ((Setup.direct path ids).play ms).history ↔ reply = ⟨.error e, none⟩) ∧
      ∀ k, (i, .called k) ∉ ((Setup.direct path ids).play ms).history := by
  obtain ⟨v, at?, hcourse, -⟩ := play_course (direct_tells path ids) hjob
  rw [direct_operation, hdelete] at hcourse
  have own : eventsOf i ((Setup.direct path ids).play ms).history =
      [.began .connected, .entered .connected, .replied ⟨.error e, none⟩] := by
    refine Operation.Course.entered_done (a := ⟨⟨.error e, none⟩, []⟩) hcourse (mem_eventsOf.2 entered) fun w => ?_
    rcases hfails with ⟨heq, rfl⟩ | heq
    · rw [heq]
      rfl
    · rw [heq]
      rfl
  constructor
  · intro reply
    rw [← mem_eventsOf, own]
    simp
  · intro k
    rw [← mem_eventsOf, own]
    simp

/-- A deletion that has entered on a connected client makes a call if its condition has a term. -/
theorem play_deletion_calls (hjob : ((Setup.direct path ids).play ms).jobs[i]? = some job)
    (hdelete : job.request = .delete table condition)
    (entered : (i, .entered .connected) ∈ ((Setup.direct path ids).play ms).history) {ts : List Term}
    (hts : ts ≠ []) (hcompile : Condition.compile condition = .ok (Clause.ofTerms ts)) :
    ∃ k, (i, .called k) ∈ ((Setup.direct path ids).play ms).history := by
  obtain ⟨v, at?, hcourse, -⟩ := play_course (direct_tells path ids) hjob
  rw [direct_operation, hdelete] at hcourse
  have hempty : (Clause.ofTerms ts).isEmpty = false := by simpa [Clause.isEmpty, Clause.ofTerms] using hts
  obtain ⟨w, -, hcalled⟩ := Operation.Course.entered_call
    (fun w => StorageCall.execute w (.delete table (Clause.ofTerms ts)))
    (fun _ r => Operation.ends (Operation.answered .delete r)) hcourse (mem_eventsOf.2 entered) fun w => by
      dsimp only
      rw [hcompile]
      dsimp only
      rw [hempty, if_neg Bool.false_ne_true]
  exact ⟨_, mem_eventsOf.1 hcalled⟩

/-- In every run, each deletion that reaches the storage is asked for by a job and bound to at least one term
of its condition. A deletion that finds the client connected is refused without a call for want of a condition
exactly if its condition has no term, and for its first unknown operator if it has one. -/
theorem play_deletes (path : String) (ids : IdSource) (ms : List (Move Value)) :
    let r := (Setup.direct path ids).play ms
    (∀ i k s, (i, .called k) ∈ r.history → k.statement? = some s → s.Deletes →
      ∃ job, r.jobs[i]? = some job ∧ job.request.DeletesWhere s) ∧
    ∀ i job table condition, r.jobs[i]? = some job → job.request = .delete table condition →
      (i, .entered .connected) ∈ r.history →
      ((∃ reply e, (i, .replied reply) ∈ r.history ∧ reply.result = .error e ∧ e.MissesCondition ∧
        ∀ k, (i, .called k) ∉ r.history) ↔ condition.Vacuous) ∧
      ∀ es key, condition = .map es → Condition.firstUnknown? es = some key →
        (i, .replied ⟨.error (.unknownOperator key), none⟩) ∈ r.history ∧ ∀ k, (i, .called k) ∉ r.history := by
  intro r
  refine ⟨fun i k s called handed hdeletes => ?_, fun i job table condition hjob hdelete entered => ⟨?_, ?_⟩⟩
  · obtain ⟨n, hn⟩ := List.mem_iff_getElem?.1 called
    have hhanded := (Setup.direct path ids).play_handed
      (fun i _ k => ∃ job, r.jobs[i]? = some job ∧ job.request.DeletesBy k) ms fun n job hjob => by
        rw [direct_operation]
        exact (job.request.operation_deletes path).mono fun _ _ h => ⟨job, hjob, h⟩
    obtain ⟨job, hjob, hby⟩ := hhanded n i k hn
    exact ⟨job, hjob, hby s handed hdeletes⟩
  · constructor
    · rintro ⟨reply, e, replied, hresult, hmisses, uncalled⟩
      rcases Condition.compile_cases condition with hvacuous | ⟨e', heq, hkind⟩ | ⟨ts, -, hts, heq⟩
      · exact hvacuous
      · -- what does not compile fails for another reason
        obtain ⟨hreplied, -⟩ := play_deletion_fails hjob hdelete entered (.inr heq)
        rw [(hreplied reply).1 replied, Except.error.injEq] at hresult
        subst hresult
        rcases hkind with ⟨key, rfl⟩ | ⟨k, view, rfl⟩
        · exact hmisses.elim
        · exact hmisses.elim
      · obtain ⟨k, hk⟩ := play_deletion_calls hjob hdelete entered hts heq
        exact absurd hk (uncalled k)
    · intro hvacuous
      obtain ⟨hreplied, uncalled⟩ := play_deletion_fails hjob hdelete entered
        (.inl ⟨Condition.compile_vacuous hvacuous, rfl⟩)
      exact ⟨_, .missingCondition, (hreplied _).2 rfl, rfl, trivial, uncalled⟩
  · rintro es key rfl hfirst
    obtain ⟨hreplied, uncalled⟩ := play_deletion_fails hjob hdelete entered
      (.inr (Condition.compile_unknown hfirst))
    exact ⟨(hreplied _).2 rfl, uncalled⟩

/-- Deletions with empty mappings alone, with an operator that does not exist, and with a membership of nothing
next to an empty mapping. -/
theorem play_deletes_emptiness :
    let vacuous : Value := .map [(.text "a", .map []), (.text "b", .map [])]
    let odd : Entries := [(.text "a", .map [(.text "gt", .int 1), (.text "near", .int 2)])]
    let proper : Value := .map [(.text "a", .map []), (.text "b", .list []), (.text "c", .map [(.text "gt", .int 1)])]
    let r (condition : Value) := (Setup.direct "a.db" fun n => .ok (.int n)).play
      [.start ⟨.connect, []⟩, .turn 0, .start ⟨.delete (.text "t") condition, []⟩, .turn 0]
    let s : Statement := ⟨"DELETE FROM t WHERE b IN () AND c > ?", [.int 1]⟩
    vacuous.Vacuous ∧
      (∃ reply e, (1, .replied reply) ∈ (r vacuous).history ∧ reply.result = .error e ∧ e.MissesCondition ∧
        ∀ k, (1, .called k) ∉ (r vacuous).history) ∧
      Condition.firstUnknown? odd = some (.text "near") ∧
      ((1, .replied ⟨.error (.unknownOperator (.text "near")), none⟩) ∈ (r (.map odd)).history ∧
        ∀ k, (1, .called k) ∉ (r (.map odd)).history) ∧
      (1, .called (.execute (.text "h1") s)) ∈ (r proper).history ∧ s.Deletes ∧
      ∃ job, (r proper).jobs[1]? = some job ∧ job.request.DeletesWhere s := by
  intro vacuous odd proper r s
  have entered : (r vacuous).history[7]? = some (1, .entered .connected) := rfl
  have entered' : (r (.map odd)).history[7]? = some (1, .entered .connected) := by with_unfolding_all rfl
  have call : (r proper).history[8]? = some (1, .called (.execute (.text "h1") s)) := by with_unfolding_all rfl
  have hdeletes : s.Deletes := by
    show "DELETE".toList <+: "DELETE FROM t WHERE b IN () AND c > ?".toList
    decide
  have hvacuous : vacuous.Vacuous := .inr ⟨_, rfl, by simp⟩
  have hunknown : Condition.firstUnknown? odd = some (.text "near") := by
    simp [odd, Condition.firstUnknown?, Value.operatorKeys, Operator.unknown, Operator.ofKey?, Operator.all,
      Operator.key]
  have deletes (condition : Value) := play_deletes "a.db" (fun n => .ok (.int n))
    [.start ⟨.connect, []⟩, .turn 0, .start ⟨.delete (.text "t") condition, []⟩, .turn 0]
  exact ⟨hvacuous, ((deletes vacuous).2 1 _ _ vacuous rfl rfl (List.mem_of_getElem? entered)).1.2 hvacuous,
    hunknown, ((deletes (.map odd)).2 1 _ _ (.map odd) rfl rfl (List.mem_of_getElem? entered')).2 odd _ rfl hunknown,
    List.mem_of_getElem? call, hdeletes, (deletes proper).1 1 _ s (List.mem_of_getElem? call) rfl hdeletes⟩

end Setup

end RecordStore
