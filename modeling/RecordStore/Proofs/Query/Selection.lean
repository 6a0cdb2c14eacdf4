/-
One condition in all operations that select records. Searches put the clause of a condition behind the table,
a deletion too, and an update behind its assignments and before the blanks at the end of the text are dropped.
No assignment and no term of a clause ends in a blank, so the only blank that is ever dropped is the one in
front of an empty clause, and the same condition selects by the same text in every operation. What differs is
the empty clause, which a deletion refuses.
-/
import RecordStore.Proofs.Query.Deletions
import RecordStore.Proofs.Query.Options

namespace RecordStore

/-! ## The end of a text -/

/-- The text ends in a character that is no blank. -/
def Firm (s : String) : Prop := ∃ cs c, s.toList = cs ++ [c] ∧ isBlank c = false

theorem Firm.append {t : String} (ht : Firm t) (s : String) : Firm (s ++ t) := by
  obtain ⟨cs, c, hcs, hc⟩ := ht
  exact ⟨s.toList ++ cs, c, by rw [String.toList_append, hcs, List.append_assoc], hc⟩

/-- Texts of which none ends in a blank do not end in one when they are joined. -/
theorem Firm.joinWith (sep : String) : ∀ {ss : List String}, ss ≠ [] → (∀ s ∈ ss, Firm s) →
    Firm (joinWith sep ss)
  | [s], _, h => h s List.mem_cons_self
  | s :: t :: rest, _, h =>
    (Firm.joinWith sep (List.cons_ne_nil t rest) fun u hu => h u (List.mem_cons_of_mem s hu)).append (s ++ sep)

theorem dropLastWhile_concat {α : Type} (p : α → Bool) (x : α) : ∀ xs : List α,
    dropLastWhile p (xs ++ [x]) = if p x then dropLastWhile p xs else xs ++ [x]
  | [] => by cases h : p x <;> simp [dropLastWhile, h]
  | y :: ys => by
    have ih := dropLastWhile_concat p x ys
    rw [List.cons_append, dropLastWhile, ih]
    cases p x with
    | true => rfl
    | false => cases ys <;> rfl

theorem Firm.trimmedEnd_eq {s : String} (hs : Firm s) : trimmedEnd s = s := by
  obtain ⟨cs, c, hcs, hc⟩ := hs
  rw [trimmedEnd, hcs, dropLastWhile_concat, hc, if_neg Bool.false_ne_true, ← hcs, String.ofList_toList]

/-- A blank behind such a text is dropped, and nothing else. -/
theorem Firm.trimmedEnd_blank {s : String} (hs : Firm s) : trimmedEnd (s ++ " ") = s := by
  have hblank : (s ++ " ").toList = s.toList ++ [' '] := String.toList_append
  rw [trimmedEnd, hblank, dropLastWhile_concat, if_pos (by decide)]
  exact hs.trimmedEnd_eq

/-! ## Statements -/

theorem Term.fragment_firm (t : Term) : Firm t.fragment := by
  cases t with
  | equals c v => exact Firm.append ⟨[' ', '='].concat ' ', '?', rfl, rfl⟩ _
  | compare c op v => exact Firm.append ⟨[' '], '?', rfl, rfl⟩ _
  | member c vs => exact Firm.append ⟨[], ')', rfl, rfl⟩ _

/-- A clause has terms, or it is the empty one. -/
theorem Condition.compile_ok {condition : Value} {c : Clause} (h : compile condition = .ok c) :
    condition.Vacuous ∧ c = {} ∨
      ∃ ts, parse condition = .ok ts ∧ ts ≠ [] ∧ c = Clause.ofTerms ts := by
  rcases compile_cases condition with hvacuous | ⟨e, heq, -⟩ | ⟨ts, hparse, hts, heq⟩
  · rw [compile_vacuous hvacuous] at h
    cases h
    exact .inl ⟨hvacuous, rfl⟩
  · rw [heq] at h
    cases h
  · rw [heq] at h
    cases h
    exact .inr ⟨ts, hparse, hts, rfl⟩

namespace Clause

theorem isEmpty_ofTerms {ts : List Term} (hts : ts ≠ []) : (ofTerms ts).isEmpty = false := by
  simpa [isEmpty, ofTerms] using hts

theorem sql_ofTerms_eq {ts : List Term} (hts : ts ≠ []) :
    (ofTerms ts).sql = "WHERE " ++ joinWith " AND " (ts.map Term.fragment) := by
  rw [sql, isEmpty_ofTerms hts, if_neg Bool.false_ne_true]
  rfl

theorem sql_firm {ts : List Term} (hts : ts ≠ []) : Firm (ofTerms ts).sql := by
  rw [sql_ofTerms_eq hts]
  exact (Firm.joinWith " AND " (by simpa using hts)
    (List.forall_mem_map.2 fun t _ => t.fragment_firm)).append "WHERE "

end Clause

namespace Statement

/-- The text of an update in front of its clause. -/
def assigning (table : Value) (changes : Entries) : String :=
  "UPDATE " ++ table.display ++ " SET " ++ joinWith ", " (changes.map fun e => e.1.display ++ " = ?")

theorem assigning_firm (table : Value) {changes : Entries} (h : changes ≠ []) : Firm (assigning table changes) := by
  refine Firm.append (Firm.joinWith ", " (by simpa using h) (List.forall_mem_map.2 fun e _ => ?_)) _
  exact Firm.append ⟨[' ', '='].concat ' ', '?', rfl, rfl⟩ _

theorem updateText_assigning (table : Value) (changes : Entries) (c : Clause) :
    updateText table (changes.map Prod.fst) c = trimmedEnd (assigning table changes ++ " " ++ c.sql) := by
  rw [updateText, List.map_map]
  rfl

theorem filter_ofTerms {ts : List Term} (hts : ts ≠ []) :
    filter (Clause.ofTerms ts) = " " ++ ("WHERE " ++ joinWith " AND " (ts.map Term.fragment)) := by
  rw [filter, Clause.isEmpty_ofTerms hts, if_neg Bool.false_ne_true, Clause.sql_ofTerms_eq hts]

/-- An update puts its clause behind its assignments as a query puts it behind its table. -/
theorem updateText_filter (table : Value) {condition : Value} {changes : Entries} (h : changes ≠ []) {c : Clause}
    (hc : Condition.compile condition = .ok c) :
    updateText table (changes.map Prod.fst) c = assigning table changes ++ filter c := by
  rw [updateText_assigning]
  rcases Condition.compile_ok hc with ⟨-, rfl⟩ | ⟨ts, -, hts, rfl⟩
  · show trimmedEnd (assigning table changes ++ " " ++ "") = assigning table changes ++ ""
    rw [String.append_empty, String.append_empty, (assigning_firm table h).trimmedEnd_blank]
  · rw [((Clause.sql_firm hts).append _).trimmedEnd_eq, filter, Clause.isEmpty_ofTerms hts,
      if_neg Bool.false_ne_true, String.append_assoc]

/-- The text of an update is trimmed by the blank in front of an empty clause, and by nothing else. -/
theorem updateText_trimmed (table : Value) {condition : Value} {changes : Entries} (h : changes ≠ []) {c : Clause}
    (hc : Condition.compile condition = .ok c) :
    assigning table changes ++ " " ++ c.sql =
      updateText table (changes.map Prod.fst) c ++ (if c.isEmpty then " " else "") := by
  rw [updateText_filter table h hc]
  rcases Condition.compile_ok hc with ⟨-, rfl⟩ | ⟨ts, -, hts, rfl⟩
  · show assigning table changes ++ " " ++ "" = assigning table changes ++ "" ++ " "
    rw [String.append_empty, String.append_empty]
  · rw [filter, Clause.isEmpty_ofTerms hts, if_neg Bool.false_ne_true, if_neg Bool.false_ne_true,
      String.append_empty, String.append_assoc]

theorem select_filter (table : Value) (c : Clause) (o : QueryOptions) : select table c o =
    ⟨"SELECT * FROM " ++ table.display ++ filter c ++ (ordering o.orderBy ++ paging o.limit o.offset),
      [] ++ c.params⟩ := by
  rw [← String.append_assoc]
  rfl

theorem delete_filter (table : Value) {c : Clause} (hc : c.isEmpty = false) :
    delete table c = ⟨"DELETE FROM " ++ table.display ++ filter c ++ "", [] ++ c.params⟩ := by
  rw [filter, hc, if_neg Bool.false_ne_true, String.append_empty, ← String.append_assoc]
  rfl

end Statement

/-! ## Operations -/

/-- The request selects records by a condition. Its statement goes to the storage in a call of this kind, and the
clause stands between these texts, its parameters behind these values. -/
inductive Request.Selects (condition : Value) :
    Request → (call : Value → Statement → StorageCall) → (head tail : String) → (own : List Value) → Prop where
  | find {table : Value} {raw : RawOptions} {o : QueryOptions} (accepted : raw.check = .ok o) :
    Selects condition (.find table condition raw) .queryAll ("SELECT * FROM " ++ table.display)
      (Statement.ordering o.orderBy ++ Statement.paging o.limit o.offset) []
  | findOne {table orderBy : Value} {o : QueryOptions}
      (accepted : RawOptions.check ⟨orderBy, .int 1, .null⟩ = .ok o) :
    Selects condition (.findOne table condition orderBy) .queryOne ("SELECT * FROM " ++ table.display)
      (Statement.ordering o.orderBy ++ Statement.paging o.limit o.offset) []
  | update {table : Value} {changes : Entries} (changed : changes ≠ []) :
    Selects condition (.update table condition (.map changes)) .execute (Statement.assigning table changes) ""
      (changes.map Prod.snd)
  | delete {table : Value} :
    Selects condition (.delete table condition) .execute ("DELETE FROM " ++ table.display) "" []

/-- The numbers by which the request asks for a page can be written. -/
def Request.Writable : Request → Prop
  | .find _ _ raw => ∀ o, raw.check = .ok o → o.writable = true
  | _ => True

namespace Request.Selects

variable {condition : Value} {request : Request} {call : Value → Statement → StorageCall} {head tail : String}
  {own : List Value}

/-- What does not compile is refused by every operation. -/
theorem fails (h : request.Selects condition call head tail own) {e : Failure}
    (he : Condition.compile condition = .error e) (path : String) :
    ∃ body, request.operation path = .data body ∧ ∀ w, body w = Operation.ends (.error e) := by
  cases h with
  | find accepted | findOne accepted =>
    refine ⟨_, rfl, fun w => ?_⟩
    simp only [Operation.query, accepted, he]
  | update changed =>
    refine ⟨_, rfl, fun w => ?_⟩
    simp only [Operation.updateStatement, he]
  | delete =>
    refine ⟨_, rfl, fun w => ?_⟩
    simp only [he]

/-- A condition that compiles is of no use behind a number with too many digits. -/
theorem exceeds (h : request.Selects condition call head tail own) (hwritable : ¬request.Writable) {c : Clause}
    (hc : Condition.compile condition = .ok c) (path : String) :
    ∃ body, request.operation path = .data body ∧ ∀ w, body w = Operation.ends (.error .tooManyDigits) := by
  cases h with
  | @find table raw o accepted =>
    have ho : ¬o.writable = true := fun ho => hwritable fun o' accepted' => by
      rw [accepted, Except.ok.injEq] at accepted'
      exact accepted' ▸ ho
    refine ⟨_, rfl, fun w => ?_⟩
    simp only [Operation.query, accepted, hc, ho]
    rfl
  | findOne | update | delete => exact absurd trivial hwritable

/-- An operation whose condition compiles hands the clause to the storage, in its place of the statement. -/
theorem calls (h : request.Selects condition call head tail own) (hwritable : request.Writable) {c : Clause}
    (hc : Condition.compile condition = .ok c)
    (hempty : c.isEmpty = true → ∀ table, request ≠ .delete table condition) (path : String) :
    ∃ body purpose, request.operation path = .data body ∧
      ∀ w, body w = .call (call w ⟨head ++ Statement.filter c ++ tail, own ++ c.params⟩) fun r =>
        Operation.ends (Operation.answered purpose r) := by
  cases h with
  | find accepted =>
    refine ⟨_, .findMany, rfl, fun w => ?_⟩
    rw [← Statement.select_filter]
    simp only [Operation.query, accepted, hc, hwritable _ accepted]
    rfl
  | findOne accepted =>
    refine ⟨_, .findOne, rfl, fun w => ?_⟩
    rw [← Statement.select_filter]
    simp only [Operation.query, accepted, hc, RawOptions.writable_one accepted]
    rfl
  | @update table changes changed =>
    refine ⟨_, .update, rfl, fun w => ?_⟩
    rw [String.append_empty, ← Statement.updateText_filter table changed hc]
    simp only [Operation.updateStatement, hc]
    rfl
  | @delete table =>
    refine ⟨_, .delete, rfl, fun w => ?_⟩
    have hclause : c.isEmpty = false := Bool.eq_false_iff.2 fun h => hempty h table rfl
    rw [← Statement.delete_filter table hclause]
    simp only [hc, hclause, Bool.false_eq_true, if_false]

end Request.Selects

/-- An operation whose body is one call makes no other call, and has made it when it has entered on a connected
client. -/
theorem Operation.Course.calls {refusal : Reply} {body : Value → Program Storage Ending}
    {es : List (Event Storage)} {v : Option Value} {at? : Option (Phase Storage)} (k : Value → StorageCall)
    (result : Except Fault Value → Except Failure Value)
    (hcourse : (Operation.guarded refusal body).Course es v at?) (entered : .entered .connected ∈ es)
    (hbody : ∀ w, body w = .call (k w) fun r => Operation.ends (result r)) :
    ∃ w, ∀ c, .called c ∈ es ↔ c = k w := by
  obtain ⟨w, hw, hcalled⟩ := hcourse.entered_call k (fun _ r => Operation.ends (result r)) entered hbody
  refine ⟨w, fun c => ⟨fun hc => ?_, fun hc => hc ▸ hcalled⟩⟩
  obtain ⟨w', gs, a, hw', hends, hgs⟩ := hcourse.happens hc trivial fun r h => nomatch h
  rw [hw, Option.some.injEq] at hw'
  subst hw'
  rw [hbody w] at hends
  obtain ⟨r, fs, rfl, rfl, -⟩ := hends
  simpa using hgs

/-! ## Runs -/

/-- The state that the client has when an operation obtains the lock. -/
def Event.entered? {B : Boundary} : Event B → Option Lifecycle
  | .entered s => some s
  | _ => none

namespace Run

variable (r : Run ScriptedStorage) (i : Nat)

/-- Job `i` makes this request and has found the client connected. -/
def Admits (request : Request) : Prop :=
  (∃ job, r.jobs[i]? = some job ∧ job.request = request) ∧ (i, .entered .connected) ∈ r.history

/-- Job `i` has failed so, without a call. -/
def Refuses (e : Failure) : Prop :=
  (∀ reply, (i, .replied reply) ∈ r.history ↔ reply = ⟨.error e, none⟩) ∧ ∀ k, (i, .called k) ∉ r.history

/-- Job `i` has handed this statement to the storage, in a call of this kind, and makes no other call. -/
def Sends (call : Value → Statement → StorageCall) (s : Statement) : Prop :=
  ∃ v, ∀ k, (i, .called k) ∈ r.history ↔ k = call v s

/-- Job `i` sends this statement, unless it asks for a page by a number with too many digits. -/
def Submits (request : Request) (call : Value → Statement → StorageCall) (s : Statement) : Prop :=
  (request.Writable → r.Sends i call s) ∧ (¬request.Writable → r.Refuses i .tooManyDigits)

variable {r i}

theorem mem_entered {s : Lifecycle} (h : s ∈ (eventsOf i r.history).filterMap Event.entered?) :
    (i, .entered s) ∈ r.history := by
  obtain ⟨e, he, hs⟩ := List.mem_filterMap.1 h
  cases e with
  | entered s' =>
    cases hs
    exact mem_eventsOf.1 he
  | _ => cases hs

theorem Refuses.not_sends {e : Failure} (h : r.Refuses i e) {call : Value → Statement → StorageCall} {s : Statement} :
    ¬r.Sends i call s :=
  fun ⟨v, hv⟩ => h.2 _ ((hv (call v s)).2 rfl)

end Run

namespace Setup

variable {path : String} {ids : IdSource} {ms : List (Move Value)} {i : Nat} {condition : Value}
  {request : Request} {call : Value → Statement → StorageCall} {head tail : String} {own : List Value}

theorem play_refuses (admits : ((Setup.direct path ids).play ms).Admits i request)
    {body : Value → Program Storage Ending} (hbody : request.operation path = .data body) {e : Failure}
    (hends : ∀ w, body w = Operation.ends (.error e)) : ((Setup.direct path ids).play ms).Refuses i e := by
  obtain ⟨⟨job, hjob, rfl⟩, entered⟩ := admits
  obtain ⟨v, at?, hcourse, -⟩ := play_course (direct_tells path ids) hjob
  rw [direct_operation, hbody] at hcourse
  have own : eventsOf i ((Setup.direct path ids).play ms).history =
      [.began .connected, .entered .connected, .replied ⟨.error e, none⟩] :=
    Operation.Course.entered_done (a := ⟨⟨.error e, none⟩, []⟩) hcourse (mem_eventsOf.2 entered) hends
  constructor
  · intro reply
    rw [← mem_eventsOf, own]
    simp
  · intro k
    rw [← mem_eventsOf, own]
    simp

theorem play_sends (admits : ((Setup.direct path ids).play ms).Admits i request)
    (h : request.Selects condition call head tail own) (hwritable : request.Writable) {c : Clause}
    (hc : Condition.compile condition = .ok c)
    (hempty : c.isEmpty = true → ∀ table, request ≠ .delete table condition) :
    ((Setup.direct path ids).play ms).Sends i call ⟨head ++ Statement.filter c ++ tail, own ++ c.params⟩ := by
  obtain ⟨⟨job, hjob, rfl⟩, entered⟩ := admits
  obtain ⟨v, at?, hcourse, -⟩ := play_course (direct_tells path ids) hjob
  obtain ⟨body, purpose, hbody, hcall⟩ := h.calls hwritable hc hempty path
  rw [direct_operation, hbody] at hcourse
  obtain ⟨w, hw⟩ := Operation.Course.calls (fun w => call w _) (Operation.answered purpose) hcourse
    (mem_eventsOf.2 entered) hcall
  exact ⟨w, fun k => mem_eventsOf.symm.trans (hw k)⟩

theorem play_submits (admits : ((Setup.direct path ids).play ms).Admits i request)
    (h : request.Selects condition call head tail own) {c : Clause} (hc : Condition.compile condition = .ok c)
    (hempty : c.isEmpty = true → ∀ table, request ≠ .delete table condition) :
    ((Setup.direct path ids).play ms).Submits i request call
      ⟨head ++ Statement.filter c ++ tail, own ++ c.params⟩ := by
  refine ⟨fun hwritable => play_sends admits h hwritable hc hempty, fun hwritable => ?_⟩
  obtain ⟨body, hbody, hends⟩ := h.exceeds hwritable hc path
  exact play_refuses admits hbody hends

/-- In every run, one condition selects the same records in all operations: its first unknown operator is
reported by each of them, or its terms are put as one text, with one list of parameters, into the statements of
each of them. A condition without terms leaves nothing behind in searches and updates, and a deletion refuses
it. An update is trimmed by the blank in front of an empty clause and by nothing else. A search for a page that
no statement can ask for, because its limit or its offset has too many digits, is refused instead, but only if
its condition compiles. -/
theorem play_selects (hcondition : condition = .null ∨ ∃ es, condition = .map es) (path : String) (ids : IdSource)
    (ms : List (Move Value)) :
    let r := (Setup.direct path ids).play ms
    ((∃ es key, condition = .map es ∧ Condition.firstUnknown? es = some key ∧
        ∀ i request call head tail own, r.Admits i request → request.Selects condition call head tail own →
          r.Refuses i (.unknownOperator key)) ∨
      (∃ ts, Condition.parse condition = .ok ts ∧ ts ≠ [] ∧
        ∀ i request call head tail own, r.Admits i request → request.Selects condition call head tail own →
          r.Submits i request call
            ⟨head ++ (" " ++ ("WHERE " ++ joinWith " AND " (ts.map Term.fragment))) ++ tail,
              own ++ ts.flatMap Term.values⟩) ∨
      (condition.Vacuous ∧
        (∀ i table, r.Admits i (.delete table condition) → r.Refuses i .missingCondition) ∧
        ∀ i request call head tail own, r.Admits i request → request.Selects condition call head tail own →
          (∀ table, request ≠ .delete table condition) → r.Submits i request call ⟨head ++ tail, own⟩)) ∧
    ∀ table changes c, changes ≠ [] → Condition.compile condition = .ok c →
      let whole := Statement.assigning table changes ++ " " ++ c.sql
      Statement.updateText table (changes.map Prod.fst) c = trimmedEnd whole ∧
        whole = Statement.updateText table (changes.map Prod.fst) c ++ (if c.isEmpty then " " else "") := by
  intro r
  refine ⟨?_, fun table changes c hchanges hc =>
    ⟨Statement.updateText_assigning table changes c, Statement.updateText_trimmed table hchanges hc⟩⟩
  rcases Condition.compile_cases condition with hvacuous | ⟨e, he, -⟩ | ⟨ts, hparse, hts, hc⟩
  · have hc := Condition.compile_vacuous hvacuous
    refine .inr (.inr ⟨hvacuous, fun i table admits => ?_, fun i request call head tail own admits h hdelete => ?_⟩)
    · refine play_refuses admits rfl fun w => ?_
      simp only [hc]
      rfl
    · have hsubmits := play_submits admits h hc fun _ => hdelete
      rwa [show Statement.filter {} = "" from rfl, String.append_empty, List.append_nil] at hsubmits
  · left
    rcases hcondition with rfl | ⟨es, rfl⟩
    · cases he
    · obtain ⟨key, hfirst⟩ := (Condition.compile_fails_iff es).1 ⟨e, he⟩
      refine ⟨es, key, rfl, hfirst, fun i request call head tail own admits h => ?_⟩
      obtain ⟨body, hbody, hends⟩ := h.fails (Condition.compile_unknown hfirst) path
      exact play_refuses admits hbody hends
  · refine .inr (.inl ⟨ts, hparse, hts, fun i request call head tail own admits h => ?_⟩)
    rw [← Statement.filter_ofTerms hts]
    exact play_submits admits h hc fun hempty => by rw [Clause.isEmpty_ofTerms hts] at hempty; cases hempty

/-- All four operations with a condition of two terms. The table and a column of the update end in blanks. -/
theorem play_selects_blanks :
    let condition : Value :=
      .map [(.text "a", .map []), (.text "b", .list []), (.text "c", .map [(.text "gt", .int 1)])]
    let r (request : Request) := (Setup.direct "a.db" fun n => .ok (.int n)).play
      [.start ⟨.connect, []⟩, .turn 0, .start ⟨request, []⟩, .turn 0]
    (r (.find (.text "t") condition { orderBy := .text "d" })).Sends 1 .queryAll
        ⟨"SELECT * FROM t WHERE b IN () AND c > ? ORDER BY d", [.int 1]⟩ ∧
      (r (.findOne (.text "t") condition .null)).Sends 1 .queryOne
        ⟨"SELECT * FROM t WHERE b IN () AND c > ? LIMIT 1", [.int 1]⟩ ∧
      (r (.update (.text "t ") condition (.map [(.text "e ", .int 5)]))).Sends 1 .execute
        ⟨"UPDATE t  SET e  = ? WHERE b IN () AND c > ?", [.int 5, .int 1]⟩ ∧
      (r (.delete (.text "t") condition)).Sends 1 .execute ⟨"DELETE FROM t WHERE b IN () AND c > ?", [.int 1]⟩ := by
  intro condition r
  have hparse : Condition.parse condition = .ok [.member (.text "b") [], .compare (.text "c") .gt (.int 1)] := rfl
  have hknown : ∀ es, condition = .map es → Condition.firstUnknown? es = none := by
    intro es hes
    obtain rfl := Value.map.inj hes
    simp [Condition.firstUnknown?, Value.operatorKeys, Operator.unknown, Operator.ofKey?, Operator.all, Operator.key]
  have sends (request : Request) {call : Value → Statement → StorageCall} {head tail : String} {own : List Value}
      (entered : (r request).history[7]? = some (1, .entered .connected))
      (h : request.Selects condition call head tail own) (hwritable : request.Writable) :
      (r request).Sends 1 call ⟨head ++ (" " ++ ("WHERE " ++ "b IN () AND c > ?")) ++ tail, own ++ [.int 1]⟩ := by
    obtain ⟨hunknown | ⟨ts, hts, -, hsends⟩ | ⟨hvacuous, -⟩, -⟩ := play_selects
      (.inr ⟨_, rfl⟩ : condition = .null ∨ ∃ es, condition = .map es) "a.db" (fun n => .ok (.int n))
      [.start ⟨.connect, []⟩, .turn 0, .start ⟨request, []⟩, .turn 0]
    · obtain ⟨es, key, hes, hfirst, -⟩ := hunknown
      rw [hknown es hes] at hfirst
      cases hfirst
    · rw [hparse] at hts
      cases hts
      exact (hsends 1 _ _ _ _ _ ⟨⟨_, rfl, rfl⟩, List.mem_of_getElem? entered⟩ h).1 hwritable
    · rcases hvacuous with hfalse | ⟨es, hes, hempty⟩
      · cases hfalse
      · obtain rfl := Value.map.inj hes
        simp at hempty
  refine ⟨?_, ?_, ?_, ?_⟩
  · exact sends (.find (.text "t") condition { orderBy := .text "d" }) rfl (.find rfl) fun o ho => by cases ho; rfl
  · exact sends (.findOne (.text "t") condition .null) rfl (.findOne rfl) trivial
  · exact sends (.update (.text "t ") condition (.map [(.text "e ", .int 5)])) rfl (.update (List.cons_ne_nil _ _))
      trivial
  · exact sends (.delete (.text "t") condition) rfl .delete trivial

end Setup

end RecordStore
