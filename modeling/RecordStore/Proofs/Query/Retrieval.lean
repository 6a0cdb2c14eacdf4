/-
Three ways to read records. A search for one record is a search for all records with the limit one, sent in
another call, and it is refused for the same reasons. A creation reads its record back by a query that it puts
together itself, but for an identifier that is no mapping, list or tuple it is the query of a search for one
record by that identifier.
-/
import RecordStore.Proofs.Lifecycle.Arguments
import RecordStore.Proofs.Lifecycle.Conversation
import RecordStore.Proofs.Query.Selection

namespace RecordStore

/-! ## Identifiers -/

/-- The value is no mapping, list or tuple: a condition asks a column for it as it is. -/
def Value.Single : Value → Prop
  | .map _ => False
  | .list _ => False
  | .tuple _ => False
  | _ => True

theorem Condition.compile_single {v : Value} (hv : v.Single) (column : Value) :
    compile (.map [(column, v)]) = .ok (Clause.ofTerms [.equals column v]) := by
  cases v with
  | map es => exact hv.elim
  | list vs => exact hv.elim
  | tuple vs => exact hv.elim
  | _ => rfl

/-- The query that finds the record with an identifier. -/
def Statement.byIdentifier (table id : Value) : Statement :=
  ⟨"SELECT * FROM " ++ table.display ++ " WHERE id = ? LIMIT 1", [id]⟩

theorem Statement.select_byIdentifier (table id : Value) :
    select table (Clause.ofTerms [.equals Operation.idKey id]) { limit := some 1 } = byIdentifier table id := by
  have hfilter : filter (Clause.ofTerms [.equals Operation.idKey id]) = " WHERE id = ?" := rfl
  have hend : " WHERE id = ? LIMIT 1" = " WHERE id = ?" ++ (ordering none ++ paging (some 1) none) := rfl
  rw [select_filter, hfilter, String.append_assoc, ← hend]
  rfl

/-! ## Insertions -/

/-- What a creation has asked of the storage that reads its record back by this query. -/
structure Rereads (v : Value) (s : Statement) (es : List (Event Storage)) : Prop where
  /-- It inserts once and then reads back once, on one handle, and does not ask for more. -/
  calls : ∃ inserting, es.filterMap Event.called? <+: [.execute v inserting, .queryOne v s]
  /-- It reads back as soon as the insertion has returned, and only then. -/
  follows : .called (.queryOne v s) ∈ es ↔ ∃ inserting n, .answered (.execute v inserting) (.ok n) ∈ es
  /-- It succeeds if the insertion has returned and something was read back, and only then. -/
  succeeds : ∀ reply, .replied reply ∈ es → ((∃ x, reply.result = .ok x) ↔
    (∃ inserting n, .answered (.execute v inserting) (.ok n) ∈ es) ∧
      ∃ found, .answered (.queryOne v s) (.ok found) ∈ es ∧ found ≠ .null)

namespace Operation

/-- How far an insertion has got, and its result if it has ended. -/
inductive Rereading (v : Value) (s : Statement) (id : Value) :
    List (Event Storage) → Option (Except Failure Value) → Prop where
  | unsent (e : Failure) : Rereading v s id [] (some (.error e))
  | inserting (i : Statement) : Rereading v s id [.called (.execute v i)] none
  | refused (i : Statement) (f : Fault) (e : Failure) : Rereading v s id
    [.called (.execute v i), .answered (.execute v i) (.error f)] (some (.error e))
  | rereading (i : Statement) (n : Value) : Rereading v s id
    [.called (.execute v i), .answered (.execute v i) (.ok n), .called (.queryOne v s)] none
  | unread (i : Statement) (n : Value) (f : Fault) (e : Failure) : Rereading v s id
    [.called (.execute v i), .answered (.execute v i) (.ok n), .called (.queryOne v s),
      .answered (.queryOne v s) (.error f)] (some (.error e))
  | read (i : Statement) (n found : Value) : Rereading v s id
    [.called (.execute v i), .answered (.execute v i) (.ok n), .called (.queryOne v s),
      .answered (.queryOne v s) (.ok found)]
    (some (if found.isNull then .error .notInserted else .ok id))

variable {v table : Value} {es : List (Event Storage)} {a? : Option Ending}

theorem insert_rereading {record : Entries} (hid : (identifier record).Single)
    (h : (insert v table record).Reaches es a?) :
    Rereading v (.byIdentifier table (identifier record)) (identifier record) es
      (a?.map fun a => a.reply.result) := by
  have hselect := Statement.select_byIdentifier table (identifier record)
  unfold insert at h
  dsimp only at h
  cases hnames : columnNames record with
  | error e =>
    rw [hnames] at h
    obtain ⟨rfl, rfl⟩ := h.of_done
    exact .unsent e
  | ok names =>
    rw [hnames] at h
    rcases h.of_call with ⟨rfl, rfl⟩ | ⟨inserted, fs, rfl, hinserted⟩
    · exact .inserting _
    · cases inserted with
      | error f =>
        obtain ⟨rfl, rfl⟩ := hinserted.of_done
        exact .refused _ f _
      | ok n =>
        dsimp only at hinserted
        rw [Condition.compile_single hid] at hinserted
        dsimp only at hinserted
        rw [hselect] at hinserted
        rcases hinserted.of_call with ⟨rfl, rfl⟩ | ⟨r, gs, rfl, hread⟩
        · exact .rereading _ n
        · cases r with
          | error f =>
            obtain ⟨rfl, rfl⟩ := hread.of_done
            exact .unread _ n f _
          | ok found =>
            obtain ⟨rfl, rfl⟩ := hread.of_done
            exact .read _ n found

/-- An identifier that is there is not replaced. -/
theorem createdRecord_supplied {record : Value} {entries : Entries} (h : record.entries? = some entries)
    (hsupplied : ¬ (identifier entries).isNull = true) (drawn : List Value) :
    createdRecord record drawn = entries := by
  unfold createdRecord
  rw [h]
  cases drawn with
  | nil => rfl
  | cons x drawn => exact if_neg hsupplied

/-- A creation asks for an identifier if it needs one, and then inserts the record that this leaves. -/
theorem create_rereading {record : Value} {refusal : Reply} {body : Value → Program Storage Ending}
    (hbody : create table record = .guarded refusal body) (h : (body v).Reaches es a?)
    (hid : (identifier (createdRecord record (es.filterMap Event.drawn?))).Single) :
    let id := identifier (createdRecord record (es.filterMap Event.drawn?))
    ∃ asked fs, es = List.map Event.drew asked ++ fs ∧
      Rereading v (.byIdentifier table id) id fs (a?.map fun a => a.reply.result) := by
  intro id
  unfold create at hbody
  cases hbody
  cases hentries : record.entries? with
  | none =>
    rw [hentries] at h
    obtain ⟨rfl, rfl⟩ := h.of_done
    exact ⟨[], [], rfl, .unsent _⟩
  | some entries =>
    rw [hentries] at h
    dsimp only at h
    split at h
    · rename_i hnull
      obtain ⟨x, fs, rfl, hdrawn⟩ := h.of_draw
      cases x with
      | error f =>
        obtain ⟨rfl, rfl⟩ := hdrawn.of_done
        exact ⟨[.error f], [], rfl, .unsent _⟩
      | ok x =>
        dsimp only at hdrawn
        rw [← createdRecord_drawn hentries hnull x] at hdrawn
        exact ⟨[.ok x], fs, rfl, insert_rereading hid hdrawn⟩
    · rename_i hsupplied
      have hrecord := createdRecord_supplied hentries hsupplied (es.filterMap Event.drawn?)
      rw [← hrecord] at h
      exact ⟨[], es, rfl, insert_rereading hid h⟩

namespace Rereading

variable {s : Statement} {id : Value} {result : Option (Except Failure Value)}

theorem calls (h : Rereading v s id es result) :
    ∃ inserting, es.filterMap Event.called? <+: [.execute v inserting, .queryOne v s] := by
  cases h with
  | unsent e => exact ⟨s, List.nil_prefix⟩
  | inserting i => exact ⟨i, [.queryOne v s], rfl⟩
  | refused i f e => exact ⟨i, [.queryOne v s], rfl⟩
  | rereading i n => exact ⟨i, List.prefix_rfl⟩
  | unread i n f e => exact ⟨i, List.prefix_rfl⟩
  | read i n found => exact ⟨i, List.prefix_rfl⟩

/-- What a creation has asked of the storage when it has got so far. -/
theorem rereads (h : Rereading v s id es result) (hresult : a?.map (fun a => a.reply.result) = result)
    (asked : List (Except Fault Value)) :
    Rereads v s (.began .connected :: .entered .connected ::
      (asked.map .drew ++ es ++ a?.elim [] Ending.events)) := by
  have hasked : (asked.map Event.drew).filterMap Event.called? = [] := by
    refine List.filterMap_eq_nil_iff.2 fun e he => ?_
    obtain ⟨x, -, rfl⟩ := List.mem_map.1 he
    rfl
  have hlast : (a?.elim [] Ending.events).filterMap Event.called? = [] := by
    cases a? with
    | none => rfl
    | some a => exact (Exchanges.ending a).called
  have hcalls : (Event.began .connected :: .entered .connected ::
      (asked.map .drew ++ es ++ a?.elim [] Ending.events)).filterMap Event.called? = es.filterMap Event.called? := by
    rw [List.filterMap_cons_none rfl, List.filterMap_cons_none rfl, List.filterMap_append, List.filterMap_append,
      hasked, hlast, List.nil_append, List.append_nil]
  have hsent := h.calls
  rw [← hcalls] at hsent
  cases h with
  | unsent e =>
    obtain ⟨a, rfl, ha⟩ := Option.map_eq_some_iff.1 hresult
    exact ⟨hsent, by simp [Ending.events], by simp [Ending.events, ha]⟩
  | inserting i =>
    obtain rfl := Option.map_eq_none_iff.1 hresult
    exact ⟨hsent, by simp, by simp⟩
  | refused i f e =>
    obtain ⟨a, rfl, ha⟩ := Option.map_eq_some_iff.1 hresult
    exact ⟨hsent, by simp [Ending.events], by simp [Ending.events, ha]⟩
  | rereading i n =>
    obtain rfl := Option.map_eq_none_iff.1 hresult
    exact ⟨hsent, by simp, by simp⟩
  | unread i n f e =>
    obtain ⟨a, rfl, ha⟩ := Option.map_eq_some_iff.1 hresult
    exact ⟨hsent, by simp [Ending.events], by simp [Ending.events, ha]⟩
  | read i n found =>
    obtain ⟨a, rfl, ha⟩ := Option.map_eq_some_iff.1 hresult
    have hnull : (∃ x, a.reply.result = .ok x) ↔ found ≠ .null := by
      rw [ha]
      cases found <;> simp [Value.isNull]
    exact ⟨hsent, by simp [Ending.events], by simp [Ending.events, hnull]⟩

end Rereading

end Operation

/-- A search for one record is refused for its options, or else for its condition. -/
theorem Operation.query_one_fails {table condition orderBy : Value} {e : Failure}
    (h : query table condition ⟨orderBy, .int 1, .null⟩ = .error e) :
    (∃ cs, RawOptions.check ⟨orderBy, .int 1, .null⟩ = .error cs ∧ e = .invalidOptions cs) ∨
      (∃ o, RawOptions.check ⟨orderBy, .int 1, .null⟩ = .ok o) ∧ Condition.compile condition = .error e := by
  rcases query_fails h with hoptions | hcondition | ⟨⟨o, ho, hw⟩, -⟩
  · exact .inl hoptions
  · exact .inr hcondition
  · exact absurd (RawOptions.writable_one ho) hw

/-! ## Runs -/

namespace Run

variable (r : Run ScriptedStorage) (i : Nat)

/-- Job `i` makes this request and has found the client connected, with this handle. -/
def AdmitsOn (request : Request) (v : Value) : Prop :=
  (∃ job, r.jobs[i]? = some job ∧ job.request = request) ∧ Found StorageCall.came r.history i v

/-- Job `i` has handed this statement to the storage on this handle, in its only call, which is one of this
kind. -/
def SendsOn (call : Value → Statement → StorageCall) (v : Value) (s : Statement) : Prop :=
  (eventsOf i r.history).filterMap Event.called? = [call v s]

variable {r i}

theorem AdmitsOn.admits {request : Request} {v : Value} (h : r.AdmitsOn i request v) : r.Admits i request := by
  obtain ⟨hjob, a, b, hentered, -⟩ := h
  exact ⟨hjob, by simp [hentered]⟩

end Run

namespace Setup

variable {path : String} {ids : IdSource} {ms : List (Move Value)} {i : Nat} {request : Request}
  {table condition orderBy record v : Value}

/-- A job that has found a handle goes through its course on it. -/
theorem play_course_on (admits : ((Setup.direct path ids).play ms).AdmitsOn i request v) :
    ∃ at?, (request.operation path).Course (eventsOf i ((Setup.direct path ids).play ms).history) (some v) at? := by
  obtain ⟨⟨job, hjob, rfl⟩, a, b, hentered, htold⟩ := admits
  obtain ⟨w, at?, hcourse, htold'⟩ := play_entered (direct_tells path ids) hjob hentered
  rw [direct_operation] at hcourse
  obtain rfl : v = w := Option.some.inj (Client.mk.inj (htold.symm.trans htold')).2
  exact ⟨at?, hcourse⟩

theorem play_sends_on (purpose : Purpose) (admits : ((Setup.direct path ids).play ms).AdmitsOn i request v)
    {body : Value → Program Storage Ending} (hbody : request.operation path = .data body)
    {call : Value → Statement → StorageCall} {s : Statement}
    (hcalls : ∀ w, body w = .call (call w s) fun r => Operation.ends (Operation.answered purpose r)) :
    ((Setup.direct path ids).play ms).SendsOn i call v s := by
  obtain ⟨at?, hcourse⟩ := play_course_on admits
  rw [hbody] at hcourse
  obtain ⟨gs, a?, hreaches, hes⟩ := Operation.Course.reaches hcourse
  rw [hcalls v] at hreaches
  unfold Run.SendsOn
  rw [hes]
  rcases hreaches.of_call with ⟨rfl, rfl⟩ | ⟨r, fs, rfl, hends⟩
  · rfl
  · obtain ⟨rfl, rfl⟩ := hends.of_done
    exact congrArg ([call v s] ++ ·) (Exchanges.ending _).called

/-- A search for one record and a search for all records with the limit one. -/
theorem play_searches {path' : String} {ids' : IdSource} {ms' : List (Move Value)} {j : Nat}
    (one : ((Setup.direct path ids).play ms).AdmitsOn i (.findOne table condition orderBy) v)
    (all : ((Setup.direct path' ids').play ms').AdmitsOn j (.find table condition ⟨orderBy, .int 1, .null⟩) v) :
    (∃ e, ((Setup.direct path ids).play ms).Refuses i e ∧ ((Setup.direct path' ids').play ms').Refuses j e ∧
      ((∃ cs, RawOptions.check ⟨orderBy, .int 1, .null⟩ = .error cs ∧ e = .invalidOptions cs) ∨
        (∃ o, RawOptions.check ⟨orderBy, .int 1, .null⟩ = .ok o) ∧ Condition.compile condition = .error e)) ∨
    ∃ s, ((Setup.direct path ids).play ms).SendsOn i .queryOne v s ∧
      ((Setup.direct path' ids').play ms').SendsOn j .queryAll v s := by
  cases hquery : Operation.query table condition ⟨orderBy, .int 1, .null⟩ with
  | error e =>
    refine .inl ⟨e, play_refuses one.admits rfl fun w => ?_, play_refuses all.admits rfl fun w => ?_,
      Operation.query_one_fails hquery⟩
    · simp only [hquery]
    · simp only [hquery]
  | ok s =>
    refine .inr ⟨s, play_sends_on .findOne one rfl fun w => ?_, play_sends_on .findMany all rfl fun w => ?_⟩
    · simp only [hquery]
    · simp only [hquery]

/-- A search for the record with an identifier that is no mapping, list or tuple. -/
theorem play_byIdentifier {id : Value} (hid : id.Single)
    (admits : ((Setup.direct path ids).play ms).AdmitsOn i (.findOne table (.map [(Operation.idKey, id)]) .null) v) :
    ((Setup.direct path ids).play ms).SendsOn i .queryOne v (.byIdentifier table id) := by
  refine play_sends_on .findOne admits rfl fun w => ?_
  rw [← Statement.select_byIdentifier]
  simp only [Operation.query, Condition.compile_single hid]
  rfl

/-- A creation and the query by which it reads its record back. -/
theorem play_rereads (admits : ((Setup.direct path ids).play ms).AdmitsOn i (.create table record) v)
    {id : Value} (hid : id = Operation.identifier
      (Operation.createdRecord record (drawnBy i ((Setup.direct path ids).play ms).history)))
    (hsingle : id.Single) :
    Rereads v (.byIdentifier table id) (eventsOf i ((Setup.direct path ids).play ms).history) := by
  obtain ⟨at?, hcourse⟩ := play_course_on admits
  have hcourse : (Operation.guarded _ _).Course _ _ _ := hcourse
  obtain ⟨gs, a?, hreaches, hes⟩ := hcourse.reaches
  have hdrawn : drawnBy i ((Setup.direct path ids).play ms).history = gs.filterMap Event.drawn? := by
    have hlast : (a?.elim [] (Ending.events (B := Storage))).filterMap Event.drawn? = [] := by
      cases a? with
      | none => rfl
      | some a => exact List.filterMap_eq_nil_iff.2 fun e he => (a.events_silent e he).1
    rw [drawnBy_eq, hes, List.filterMap_cons_none rfl, List.filterMap_cons_none rfl,
      List.filterMap_append, hlast, List.append_nil]
  rw [hdrawn] at hid
  subst hid
  obtain ⟨asked, fs, hgs, hrereading⟩ := Operation.create_rereading rfl hreaches hsingle
  have h := hrereading.rereads rfl asked
  rw [← hgs, ← hes] at h
  exact h

/-- A job that has found the client connected has found a handle. -/
theorem play_admits_on (admits : ((Setup.direct path ids).play ms).Admits i request) :
    ∃ v, ((Setup.direct path ids).play ms).AdmitsOn i request v := by
  obtain ⟨⟨job, hjob, hrequest⟩, hentered⟩ := admits
  obtain ⟨a, b, hsplit⟩ := List.append_of_mem hentered
  obtain ⟨v, at?, -, htold⟩ := play_entered (direct_tells path ids) hjob hsplit
  exact ⟨v, ⟨job, hjob, hrequest⟩, a, b, hsplit, htold⟩

/-- In every run, a search for one record and, in a run that may be another one, the search for all records with
the limit one on the same handle fail alike without a call, for their options before their condition, or they
send one query. A creation whose identifier is no mapping, list or tuple inserts and reads back on the handle it
has found, by the query of a search for one record by that identifier, and it succeeds if and only if the
insertion has returned and something was read back. -/
theorem play_reads (path path' : String) (ids ids' : IdSource) (ms ms' : List (Move Value)) (i j : Nat) :
    let r := (Setup.direct path ids).play ms
    let r' := (Setup.direct path' ids').play ms'
    (∀ request, r.Admits i request → ∃ v, r.AdmitsOn i request v) ∧
    (∀ table condition orderBy v, r.AdmitsOn i (.findOne table condition orderBy) v →
      r'.AdmitsOn j (.find table condition ⟨orderBy, .int 1, .null⟩) v →
        (∃ e, r.Refuses i e ∧ r'.Refuses j e ∧
          ((∃ cs, RawOptions.check ⟨orderBy, .int 1, .null⟩ = .error cs ∧ e = .invalidOptions cs) ∨
            (∃ o, RawOptions.check ⟨orderBy, .int 1, .null⟩ = .ok o) ∧
              Condition.compile condition = .error e)) ∨
        ∃ s, r.SendsOn i .queryOne v s ∧ r'.SendsOn j .queryAll v s) ∧
    ∀ table record v, r.AdmitsOn i (.create table record) v →
      let id := Operation.identifier (Operation.createdRecord record (drawnBy i r.history))
      id.Single →
        let s : Statement := ⟨"SELECT * FROM " ++ table.display ++ " WHERE id = ? LIMIT 1", [id]⟩
        Rereads v s (eventsOf i r.history) ∧
          (r'.AdmitsOn j (.findOne table (.map [(.text "id", id)]) .null) v → r'.SendsOn j .queryOne v s) := by
  intro r r'
  refine ⟨fun request => play_admits_on, fun table condition orderBy v => play_searches, ?_⟩
  intro table record v admits id hid s
  exact ⟨play_rereads admits rfl hid, play_byIdentifier hid⟩

/-- Two searches alike, and a creation before a search for what it created. -/
theorem play_reads_created :
    let r (first second : Request) := (Setup.direct "a.db" fun n => .ok (.int n)).play
      [.start ⟨.connect, []⟩, .turn 0,
        .start ⟨first, [{}, { outcome := .ok (some (.map [(.text "id", .int 1)])) }]⟩, .turn 0,
        .start ⟨second, []⟩, .turn 0]
    let searches := r (.findOne (.text "t") (.map [(.text "a", .int 5)]) (.text "b"))
      (.find (.text "t") (.map [(.text "a", .int 5)]) ⟨.text "b", .int 1, .null⟩)
    let creates := r (.create (.text "t") (.map [])) (.findOne (.text "t") (.map [(.text "id", .int 1)]) .null)
    let s : Statement := ⟨"SELECT * FROM t WHERE a = ? ORDER BY b LIMIT 1", [.int 5]⟩
    let s' : Statement := ⟨"SELECT * FROM t WHERE id = ? LIMIT 1", [.int 1]⟩
    (searches.SendsOn 1 .queryOne (.text "h1") s ∧ searches.SendsOn 2 .queryAll (.text "h1") s) ∧
      (eventsOf 1 creates.history).filterMap Event.called? =
        [.execute (.text "h1") ⟨"INSERT INTO t (id) VALUES (?)", [.int 1]⟩, .queryOne (.text "h1") s'] ∧
      (1, .replied ⟨.ok (.int 1), some (.map [(.text "id", .int 1)])⟩) ∈ creates.history ∧
      Rereads (.text "h1") s' (eventsOf 1 creates.history) ∧ creates.SendsOn 2 .queryOne (.text "h1") s' := by
  intro r searches creates s s'
  have admits (r : Run ScriptedStorage) (i n : Nat) {request : Request} {v : Value}
      (hjob : r.jobs[i]?.map Job.request = some request) (hentered : r.history[n]? = some (i, .entered .connected))
      (htold : told StorageCall.came (r.history.take n) = ⟨.connected, some v⟩) : r.AdmitsOn i request v :=
    ⟨Option.map_eq_some_iff.1 hjob, r.history.take n, r.history.drop (n + 1), split_getElem? hentered, htold⟩
  have one : searches.AdmitsOn 1 _ (.text "h1") := admits _ 1 7 rfl rfl rfl
  have all : searches.AdmitsOn 2 _ (.text "h1") := admits _ 2 12 rfl rfl rfl
  have creating : creates.AdmitsOn 1 (.create (.text "t") (.map [])) (.text "h1") := by
    apply admits _ 1 7 <;> with_unfolding_all rfl
  have created : creates.AdmitsOn 2 (.findOne (.text "t") (.map [(.text "id", .int 1)]) .null) (.text "h1") := by
    apply admits _ 2 15 <;> with_unfolding_all rfl
  have hid : Operation.identifier (Operation.createdRecord (.map []) (drawnBy 1 creates.history)) = .int 1 := by
    with_unfolding_all rfl
  have hsingle : Value.Single (.int 1) := trivial
  rw [← hid] at hsingle
  have sent : (eventsOf 1 searches.history).filterMap Event.called? = [.queryOne (.text "h1") s] := by
    with_unfolding_all rfl
  have sent' : (eventsOf 1 creates.history).filterMap Event.called? =
      [.execute (.text "h1") ⟨"INSERT INTO t (id) VALUES (?)", [.int 1]⟩, .queryOne (.text "h1") s'] := by
    with_unfolding_all rfl
  have succeeded : creates.history[13]? = some (1, .replied ⟨.ok (.int 1), some (.map [(.text "id", .int 1)])⟩) := by
    with_unfolding_all rfl
  obtain ⟨-, hsearches, -⟩ := play_reads "a.db" "a.db" (fun n => .ok (.int n)) (fun n => .ok (.int n)) _ _ 1 2
  obtain ⟨-, -, hcreates⟩ := play_reads "a.db" "a.db" (fun n => .ok (.int n)) (fun n => .ok (.int n)) _ _ 1 2
  refine ⟨?_, sent', List.mem_of_getElem? succeeded, ?_⟩
  · rcases hsearches _ _ _ _ one all with ⟨e, -, -, ⟨cs, hcheck, -⟩ | ⟨-, hcompile⟩⟩ | ⟨s₁, hone, hall⟩
    · cases hcheck
    · cases hcompile
    · have hquery := hone.symm.trans sent
      cases hquery
      exact ⟨hone, hall⟩
  · obtain ⟨hrereads, hsends⟩ := hcreates _ _ _ creating hsingle
    rw [hid] at hrereads hsends
    exact ⟨hrereads, hsends created⟩

end Setup

end RecordStore
