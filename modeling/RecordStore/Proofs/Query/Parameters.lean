/-
What the statements of a client bind. Each statement that an operation hands to the storage has as
many placeholders as parameters, and its parameters are those that the request asks for, in order:
the values of the data first, then the values of the condition. This holds of every statement of
every run, whatever other operations go on meanwhile.
-/
import RecordStore.Proofs.Lifecycle.Runs
import RecordStore.Proofs.Query.Marks
import RecordStore.Proofs.Schedule.Handing

namespace RecordStore

/-! ## What a request asks for -/

def StorageCall.statement? : StorageCall → Option Statement
  | .execute _ s => some s
  | .queryAll _ s => some s
  | .queryOne _ s => some s
  | _ => none

/-- The record that a creation inserts: the data, with the identifier that was drawn if they have
none. -/
def Operation.createdRecord (record : Value) (drawn : List Value) : Entries :=
  let es := record.entries?.getD []
  match drawn with
  | id :: _ => if (identifier es).isNull then Value.put idKey id es else es
  | [] => es

/-- The parameters that a request asks for in a call, `drawn` being the identifiers that were drawn
before. A creation inserts the values of its record and reads it back by its identifier. -/
def Request.parameters (r : Request) (drawn : List Value) (k : StorageCall) : List Value :=
  match r with
  | .find _ condition _ => Condition.bound condition
  | .findOne _ condition _ => Condition.bound condition
  | .create _ record =>
    match k with
    | .execute _ _ => (Operation.createdRecord record drawn).map Prod.snd
    | _ => (Operation.identifier (Operation.createdRecord record drawn)).bound
  | .update _ condition changes => (changes.entries?.getD []).map Prod.snd ++ Condition.bound condition
  | .delete _ condition => Condition.bound condition
  | _ => []

def Value.PlainOrder (v : Value) : Prop := ∀ s, v.asText = .ok s → marks s = 0

/-- The texts that a request writes into its statements bring no placeholders: its table, its columns
and their types, and its ordering. -/
def Request.Plain : Request → Prop
  | .createTable table columns => marks table.display = 0 ∧
    ∀ e ∈ columns.entries?.getD [], marks e.1.display = 0 ∧ marks e.2.display = 0
  | .find table condition options =>
    marks table.display = 0 ∧ condition.PlainKeys ∧ options.orderBy.PlainOrder
  | .findOne table condition orderBy =>
    marks table.display = 0 ∧ condition.PlainKeys ∧ orderBy.PlainOrder
  | .create table record => marks table.display = 0 ∧ record.PlainKeys
  | .update table condition changes =>
    marks table.display = 0 ∧ condition.PlainKeys ∧ changes.PlainKeys
  | .delete table condition => marks table.display = 0 ∧ condition.PlainKeys
  | _ => True

/-- The statement of the call binds what the request asks for, and has a placeholder for each of its
parameters. -/
def Request.Fits (r : Request) (drawn : List Value) (k : StorageCall) : Prop :=
  ∀ s ∈ k.statement?, s.params = r.parameters drawn k ∧ (r.Plain → s.Balanced)

theorem Request.Fits.of_some {r : Request} {drawn : List Value} {k : StorageCall} {s : Statement}
    (hk : k.statement? = some s) (h : s.params = r.parameters drawn k ∧ (r.Plain → s.Balanced)) :
    r.Fits drawn k :=
  fun _ hs => Option.some.inj (hk.symm.trans hs) ▸ h

/-! ## Operations -/

theorem Value.of_optional {α : Type} {convert : Value → Except Problem α} {v : Value} {o : Option α} {a : α}
    (h : Value.optional convert v = .ok o) (ha : a ∈ o) : convert v = .ok a := by
  have hmap (hm : (convert v).map some = .ok o) : convert v = .ok a := by
    cases hc : convert v with
    | error p => simp [hc, Except.map] at hm
    | ok b =>
      simp only [hc, Except.map, Except.ok.injEq] at hm
      subst hm
      cases ha
      rfl
  cases v with
  | null =>
    cases h
    cases ha
  | _ => exact hmap h

namespace RawOptions

theorem asOrder_text {v : Value} {s : String} (h : asOrder v = .ok s) : v.asText = .ok s := by
  unfold asOrder at h
  cases hs : v.asText with
  | error p => simp [hs, bind, Except.bind] at h
  | ok t =>
    simp only [hs, bind, Except.bind] at h
    split at h
    · cases h
    · exact h

/-- An ordering that passed the check is the one that was asked for. -/
theorem check_orderBy {raw : RawOptions} {o : QueryOptions} (h : raw.check = .ok o) {s : String}
    (hs : s ∈ o.orderBy) : raw.orderBy.asText = .ok s := by
  unfold check at h
  dsimp only at h
  split at h
  · rename_i horder _ _
    cases h
    exact asOrder_text (Value.of_optional horder hs)
  · cases h

end RawOptions

namespace Operation

/-- A query is made of options that were accepted and can be written, and a condition that compiles. -/
theorem query_ok {table condition : Value} {raw : RawOptions} {s : Statement} (h : query table condition raw = .ok s) :
    ∃ o c, raw.check = .ok o ∧ o.writable = true ∧ Condition.compile condition = .ok c ∧ s = .select table c o := by
  unfold query at h
  cases ho : raw.check with
  | error cs => simp [ho] at h
  | ok o =>
    cases hc : Condition.compile condition with
    | error e => simp [ho, hc] at h
    | ok c =>
      simp only [ho, hc] at h
      split at h
      · rename_i hw
        exact ⟨o, c, rfl, hw, rfl, (Except.ok.inj h).symm⟩
      · cases h

/-- A search is refused for its options, or else for its condition, or else for a number that has too many digits. -/
theorem query_fails {table condition : Value} {raw : RawOptions} {e : Failure}
    (h : query table condition raw = .error e) :
    (∃ cs, raw.check = .error cs ∧ e = .invalidOptions cs) ∨
      (∃ o, raw.check = .ok o) ∧ Condition.compile condition = .error e ∨
        (∃ o, raw.check = .ok o ∧ ¬o.writable = true) ∧ e = .tooManyDigits := by
  unfold query at h
  cases ho : raw.check with
  | error cs =>
    simp only [ho, Except.error.injEq] at h
    exact .inl ⟨cs, rfl, h.symm⟩
  | ok o =>
    cases hc : Condition.compile condition with
    | error e' =>
      simp only [ho, hc, Except.error.injEq] at h
      exact .inr (.inl ⟨⟨o, rfl⟩, h ▸ rfl⟩)
    | ok c =>
      simp only [ho, hc] at h
      split at h
      · cases h
      · rename_i hw
        exact .inr (.inr ⟨⟨o, rfl, hw⟩, (Except.error.inj h).symm⟩)

/-- An update is made of changes that are a mapping and a condition that compiles. -/
theorem updateStatement_ok {table condition changes : Value} {s : Statement}
    (h : updateStatement table condition changes = .ok s) :
    ∃ es c, changes = .map es ∧ Condition.compile condition = .ok c ∧
      s = ⟨Statement.updateText table (es.map Prod.fst) c, es.map Prod.snd ++ c.params⟩ := by
  unfold updateStatement at h
  cases hc : Condition.compile condition with
  | error e => simp [hc] at h
  | ok c =>
    -- only what is a mapping has both columns and values
    cases changes with
    | map es =>
      simp only [hc, Value.elements?, Value.entries?, Except.ok.injEq] at h
      exact ⟨es, c, rfl, rfl, h.symm⟩
    | _ => simp [hc, Value.elements?, Value.entries?] at h

/-- A checked query binds the values of its condition. -/
theorem query_bound {table condition : Value} {raw : RawOptions} {s : Statement}
    (h : query table condition raw = .ok s) : s.params = Condition.bound condition ∧
      (marks table.display = 0 ∧ condition.PlainKeys ∧ raw.orderBy.PlainOrder → s.Balanced) := by
  obtain ⟨o, c, ho, -, hc, rfl⟩ := query_ok h
  obtain ⟨hparams, hbalanced⟩ := Condition.compile_bound hc
  refine ⟨hparams, fun ⟨ht, hkeys, horder⟩ => Statement.balanced_select ht (hbalanced hkeys) ?_⟩
  exact fun t hord => horder t (RawOptions.check_orderBy ho hord)

/-- The names of columns are texts, as they stand in the record. -/
theorem marks_columnNames {record : Entries} {names : List String} (h : columnNames record = .ok names)
    (hkeys : ∀ e ∈ record, marks e.1.display = 0) : allMarks names = 0 := by
  have hdisplay : names = (record.map Prod.fst).map Value.display := by
    rw [textsToJoin_ok h, List.map_map]
    exact (List.map_id names).symm
  rw [hdisplay]
  refine allMarks_eq_zero fun v hv => ?_
  obtain ⟨e, he, rfl⟩ := List.mem_map.1 hv
  exact hkeys e he

theorem mem_put {k v : Value} {es : Entries} {e : Value × Value} (he : e ∈ Value.put k v es) :
    e.1 = k ∨ ∃ e' ∈ es, e.1 = e'.1 := by
  induction es with
  | nil =>
    obtain rfl := List.mem_singleton.1 he
    exact .inl rfl
  | cons e' es ih =>
    unfold Value.put at he
    split at he
    · rcases List.mem_cons.1 he with rfl | he
      · exact .inr ⟨e', List.mem_cons_self, rfl⟩
      · exact .inr ⟨e, List.mem_cons_of_mem _ he, rfl⟩
    · rcases List.mem_cons.1 he with rfl | he
      · exact .inr ⟨_, List.mem_cons_self, rfl⟩
      · rcases ih he with hk | ⟨e'', he'', heq⟩
        · exact .inl hk
        · exact .inr ⟨e'', List.mem_cons_of_mem _ he'', heq⟩

theorem createdRecord_nil {record : Value} {es : Entries} (h : record.entries? = some es) :
    createdRecord record [] = es := by
  unfold createdRecord
  rw [h]
  rfl

theorem createdRecord_drawn {record : Value} {es : Entries} (h : record.entries? = some es)
    (hnull : (identifier es).isNull = true) (id : Value) : createdRecord record [id] = Value.put idKey id es := by
  unfold createdRecord
  rw [h]
  exact if_pos hnull

/-- The columns of the inserted record are those of the data and that of the identifier. -/
theorem createdRecord_plain {record : Value} (h : record.PlainKeys) (drawn : List Value) :
    ∀ e ∈ createdRecord record drawn, marks e.1.display = 0 := by
  intro e he
  have hid : marks idKey.display = 0 := by decide
  unfold createdRecord at he
  dsimp only at he
  split at he
  · split at he
    · rcases mem_put he with hk | ⟨e', he', heq⟩
      · rw [hk, hid]
      · rw [heq]
        exact h e' he'
    · exact h e he
  · exact h e he

/-- An insertion binds the values of the record, and the reading back its identifier. -/
theorem insert_hands {table record : Value} {drawn : List Value} {es : Entries}
    (hes : es = createdRecord record drawn) (handle : Value) :
    (insert handle table es).Hands (Request.create table record).Fits drawn := by
  have hkeys (hplain : (Request.create table record).Plain) : ∀ e ∈ es, marks e.1.display = 0 :=
    hes ▸ createdRecord_plain hplain.2 drawn
  unfold insert
  dsimp only
  cases hnames : columnNames es with
  | error e => trivial
  | ok names =>
    refine ⟨.of_some rfl ⟨congrArg (List.map Prod.snd) hes, fun hplain => ?_⟩, fun r => ?_⟩
    · exact Statement.balanced_insert hplain.1 (marks_columnNames hnames (hkeys hplain))
    · cases r with
      | error f => trivial
      | ok n =>
        dsimp only
        cases hc : Condition.compile (.map [(idKey, identifier es)]) with
        | error e => trivial
        | ok c =>
          obtain ⟨hparams, hbalanced⟩ := Condition.compile_bound hc
          refine ⟨.of_some rfl ⟨?_, fun hplain => ?_⟩, fun r => by cases r <;> trivial⟩
          · show c.params = (identifier (createdRecord record drawn)).bound
            rw [← hes, hparams]
            exact List.append_nil _
          · have hid : marks idKey.display = 0 := by decide
            exact Statement.balanced_select hplain.1 (hbalanced (List.forall_mem_singleton.2 hid))
              fun _ ho => nomatch ho

end Operation

namespace Operation

theorem create_hands (table record : Value) :
    (create table record).Hands (Request.create table record).Fits [] := by
  intro handle
  dsimp only
  cases hes : record.entries? with
  | none => trivial
  | some es =>
    dsimp only
    split
    · rename_i hnull
      intro r
      cases r with
      | error f => trivial
      | ok id => exact insert_hands (createdRecord_drawn hes hnull id).symm handle
    · exact insert_hands (createdRecord_nil hes).symm handle

theorem updateStatement_fits {table condition changes : Value} {s : Statement}
    (h : updateStatement table condition changes = .ok s) :
    s.params = (changes.entries?.getD []).map Prod.snd ++ Condition.bound condition ∧
      ((Request.update table condition changes).Plain → s.Balanced) := by
  obtain ⟨es, c, rfl, hc, rfl⟩ := updateStatement_ok h
  obtain ⟨hparams, hbalanced⟩ := Condition.compile_bound hc
  refine ⟨congrArg (es.map Prod.snd ++ ·) hparams, fun hplain => ?_⟩
  obtain ⟨ht, hkeys, hchanges⟩ := hplain
  show marks (Statement.updateText table (es.map Prod.fst) c) = _
  rw [Statement.marks_updateText ht fun column hcolumn => ?_, hbalanced hkeys]
  · simp
  · obtain ⟨e, he, rfl⟩ := List.mem_map.1 hcolumn
    exact hchanges e he

end Operation

/-- Every statement of an operation fits its request. -/
theorem Request.operation_hands (path : String) (r : Request) : (r.operation path).Hands r.Fits [] := by
  cases r with
  | connect =>
    intro s
    cases s with
    | unconnected => exact ⟨(fun s hs => nomatch hs), fun r => by cases r <;> trivial⟩
    | connected => trivial
    | closed => trivial
  | close => exact fun handle => ⟨(fun s hs => nomatch hs), fun r => by cases r <;> trivial⟩
  | createTable table columns =>
    intro handle
    dsimp only
    cases hes : columns.entries? with
    | none => trivial
    | some es =>
      refine ⟨.of_some rfl ⟨rfl, fun ⟨ht, hcolumns⟩ => ?_⟩, fun _ => trivial⟩
      rw [hes] at hcolumns
      exact Statement.balanced_createTable ht hcolumns
  | find table condition options =>
    intro handle
    dsimp only
    cases hq : Operation.query table condition options with
    | error e => trivial
    | ok s => exact ⟨.of_some rfl (Operation.query_bound hq), fun _ => trivial⟩
  | findOne table condition orderBy =>
    intro handle
    dsimp only
    cases hq : Operation.query table condition ⟨orderBy, .int 1, .null⟩ with
    | error e => trivial
    | ok s => exact ⟨.of_some rfl (Operation.query_bound hq), fun _ => trivial⟩
  | create table record => exact Operation.create_hands table record
  | update table condition changes =>
    intro handle
    dsimp only
    cases hs : Operation.updateStatement table condition changes with
    | error e => trivial
    | ok s => exact ⟨.of_some rfl (Operation.updateStatement_fits hs), fun _ => trivial⟩
  | delete table condition =>
    intro handle
    dsimp only
    cases hc : Condition.compile condition with
    | error e => trivial
    | ok c =>
      obtain ⟨hparams, hbalanced⟩ := Condition.compile_bound hc
      dsimp only
      split
      · trivial
      · refine ⟨.of_some rfl ⟨hparams, fun ⟨ht, hkeys⟩ => ?_⟩, fun _ => trivial⟩
        exact Statement.balanced_delete ht (hbalanced hkeys)

/-! ## Runs -/

namespace Setup

/-- In every run, each statement that a task hands to the storage binds, in order, what its request asks
for, and it has as many placeholders as parameters if the texts of the request bring none. -/
theorem play_parameters (path : String) (ids : IdSource) (ms : List (Move Value)) (n i : Nat)
    (k : StorageCall) (s : Statement)
    (called : ((Setup.direct path ids).play ms).history[n]? = some (i, .called k))
    (handed : k.statement? = some s) :
    let r := (Setup.direct path ids).play ms
    ∃ job, r.jobs[i]? = some job ∧
      s.params = job.request.parameters (drawnBy i (r.history.take n)) k ∧
      (job.request.Plain → marks s.sql = s.params.length) := by
  intro r
  have hhanded := (Setup.direct path ids).play_handed
    (fun i drawn k => ∃ job, r.jobs[i]? = some job ∧ job.request.Fits drawn k) ms fun n job hjob => by
      rw [direct_operation]
      exact (job.request.operation_hands path).mono fun _ _ hfits => ⟨job, hjob, hfits⟩
  obtain ⟨job, hjob, hfits⟩ := hhanded n i k called
  exact ⟨job, hjob, hfits s handed⟩

/-- An update with a condition of every form. -/
theorem play_parameters_update :
    let condition : Value := .map [(.text "c", .null),
      (.text "d", .map [(.text "gt", .int 3), (.text "ne", .text "?")]),
      (.text "e", .tuple [.int 5, .int 6]), (.text "f", .map []), (.text "g", .list [])]
    let changes : Value := .map [(.text "a", .int 1), (.text "b", .list [])]
    let r := (Setup.direct "a.db" fun n => .ok (.int n)).play
      [.start ⟨.connect, []⟩, .turn 0, .start ⟨.update (.text "t") condition changes, []⟩, .turn 0]
    let s : Statement :=
      ⟨"UPDATE t SET a = ?, b = ? WHERE c = ? AND d > ? AND d != ? AND e IN (?, ?) AND g IN ()",
        [.int 1, .list [], .null, .int 3, .text "?", .int 5, .int 6]⟩
    r.history[8]? = some (1, .called (.execute (.text "h1") s)) ∧ marks s.sql = 7 ∧
      ∃ job, r.jobs[1]? = some job ∧ job.request.Plain ∧
        s.params = job.request.parameters [] (.execute (.text "h1") s) ∧ marks s.sql = s.params.length := by
  intro condition changes r s
  have called : r.history[8]? = some (1, .called (.execute (.text "h1") s)) := rfl
  obtain ⟨job, hjob, hparams, hmarks⟩ := play_parameters _ _ _ 8 1 _ s called rfl
  cases hjob
  have hplain : Request.Plain (.update (.text "t") condition changes) := by
    simp [Request.Plain, Value.PlainKeys, condition, changes, Value.entries?]
    decide
  exact ⟨called, by decide, _, rfl, hplain, hparams, hmarks hplain⟩

end Setup

end RecordStore
