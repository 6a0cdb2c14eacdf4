/-
Connections are prepared before data operations use them. With foreign keys enabled, every statement of a data
operation goes to a connection on which naming the columns, turning foreign keys on and the commit behind it
have succeeded, in this order, and a connection on which one of them failed is not used. With foreign keys
disabled, no statement is a pragma. The client gets a connection only from an opening that has come to its
end, so it does not matter how openings overlap.
-/
import RecordStore.Proofs.Sqlite.Pending

namespace RecordStore

/-! ## Programs -/

namespace Program

variable {B C : Boundary} {α β : Type} {P : B.Call → Prop}

/-- A program makes no other calls on its way to an end. -/
theorem Ends.calls {p : Program B α} {es : List (Event B)} {a : α} (h : p.Ends es a) (hp : p.Calls P) :
    ∀ k, .called k ∈ es → P k := by
  induction p generalizing es with
  | done b =>
    rw [h.1]
    exact fun k hk => nomatch hk
  | call c next ih =>
    obtain ⟨r, fs, rfl, h⟩ := h
    intro k hk
    rcases List.mem_cons.1 hk with hk | hk
    · cases hk
      exact hp.1
    · exact ih r h (hp.2 r) k (by simpa using hk)
  | draw next ih =>
    obtain ⟨r, fs, rfl, h⟩ := h
    exact fun k hk => ih r h (hp r) k (by simpa using hk)
  | log _ next ih =>
    obtain ⟨fs, rfl, h⟩ := h
    exact fun k hk => ih h hp k (by simpa using hk)
  | connect _ next ih | close next ih =>
    obtain ⟨fs, rfl, h⟩ := h
    exact fun k hk => ih h hp.2 k (by simpa using hk)

/-- A program that never connects does not make the client a connected one. -/
theorem Ends.unconnected {p : Program B α} {es : List (Event B)} {a : α} (h : p.Ends es a) (hp : p.NeverConnects) :
    .became .connected ∉ es := by
  induction p generalizing es with
  | done b =>
    rw [h.1]
    exact List.not_mem_nil
  | call c next ih =>
    obtain ⟨r, fs, rfl, h⟩ := h
    simpa using ih r h (hp r)
  | draw next ih =>
    obtain ⟨r, fs, rfl, h⟩ := h
    simpa using ih r h (hp r)
  | connect _ next => exact hp.elim
  | log _ next ih | close next ih =>
    obtain ⟨fs, rfl, h⟩ := h
    simpa using ih h hp

end Program

/-! ## Statements -/

/-- The text is one of a pragma. -/
def Pragma (sql : String) : Prop := "PRAGMA".toList <+: sql.toList

theorem not_pragma {word sql : String} (h : word.toList <+: sql.toList)
    (hword : ¬ word.toList <+: "PRAGMA".toList ∧ ¬ "PRAGMA".toList <+: word.toList) : ¬ Pragma sql := by
  intro hpragma
  rcases List.prefix_or_prefix_of_prefix h hpragma with hp | hp
  · exact hword.1 hp
  · exact hword.2 hp

theorem Statement.select_begins (table : Value) (c : Clause) (o : QueryOptions) :
    "SELECT".toList <+: (select table c o).sql.toList := by
  have hword : "SELECT".toList <+: "SELECT * FROM ".toList := by decide
  exact prefix_append (prefix_append (prefix_append (prefix_append hword _) _) _) _

theorem writes_not_pragma {sql : String} (h : writes sql = true) : ¬ Pragma sql := by
  obtain ⟨word, hword, hprefix⟩ := List.any_eq_true.1 h
  have hwords : ∀ word ∈ writingWords, ¬ word.toList <+: "PRAGMA".toList ∧ ¬ "PRAGMA".toList <+: word.toList := by
    decide
  exact not_pragma (List.isPrefixOf_iff_prefix.1 hprefix) (hwords word hword)

/-- A call of a data operation on a handle: it executes a statement that writes, or it asks a query. -/
inductive StorageCall.States (v : Value) : StorageCall → Prop where
  | write {s : Statement} (hs : writes s.sql = true) : States v (.execute v s)
  | all (table : Value) (c : Clause) (o : QueryOptions) : States v (.queryAll v (.select table c o))
  | one (table : Value) (c : Clause) (o : QueryOptions) : States v (.queryOne v (.select table c o))

/-- A call of a data operation on a handle, with a statement that is no pragma. -/
def StorageCall.Asks (v : Value) (k : StorageCall) : Prop := k.Uses v ∧ ∀ s ∈ k.statement?, ¬ Pragma s.sql

/-- A call of a data operation on a connection: what it executes goes there and is no pragma. -/
def ConnectionCall.Serves (v : Value) : ConnectionCall → Prop
  | .execute u sql _ => u = v ∧ ¬ Pragma sql
  | .connect _ _ => False
  | .nameColumns _ => False
  | .close _ => False
  | _ => True

/-- The call executes nothing. -/
def ConnectionCall.Idle (k : ConnectionCall) : Prop := ∀ u sql ps, k ≠ .execute u sql ps

namespace Operation

theorem insert_states (handle table : Value) (record : Entries) :
    (insert handle table record).Calls (StorageCall.States handle) := by
  unfold insert
  dsimp only
  split
  · trivial
  · refine ⟨.write (Statement.insert_writes ..), fun r => ?_⟩
    cases r with
    | error f => trivial
    | ok n =>
      dsimp only
      split
      · trivial
      · refine ⟨.one .., fun found => ?_⟩
        cases found <;> trivial

/-- The operation needs the lock, and its calls on the handle that it finds there are like this. -/
def CallsOn {B : Boundary} (P : Value → B.Call → Prop) : Operation B → Prop
  | .free _ => False
  | .guarded _ body => ∀ v, (body v).Calls (P v)

theorem CallsOn.mono {B : Boundary} {P Q : Value → B.Call → Prop} (hPQ : ∀ v k, P v k → Q v k) {op : Operation B}
    (h : op.CallsOn P) : op.CallsOn Q := by
  cases op with
  | free start => exact h
  | guarded refusal body => exact fun v => (h v).mono (hPQ v) id

theorem CallsOn.through {B : Boundary} {P : Value → StorageCall → Prop} {Q : Value → B.Call → Prop} {d : Driver B}
    (hd : ∀ v k, P v k → (d k).Calls (Q v)) {op : Operation Storage} (h : op.CallsOn P) :
    (op.through d).CallsOn Q := by
  cases op with
  | free start => exact h
  | guarded refusal body => exact fun v => Program.Makes.interpret (B := Storage) (hd v) (h v)

theorem Course.called {B : Boundary} {P : Value → B.Call → Prop} {op : Operation B} {es : List (Event B)}
    {v : Option Value} {at? : Option (Phase B)} (hcourse : op.Course es v at?) (h : op.CallsOn P) {k : B.Call}
    (hk : .called k ∈ es) : ∃ w, v = some w ∧ P w k := by
  cases op with
  | free start => exact h.elim
  | guarded refusal body =>
    obtain ⟨w, gs, a, hw, hends, hgs⟩ := hcourse.happens hk trivial nofun
    exact ⟨w, hw, hends.calls (h w) k hgs⟩

end Operation

/-- Every data operation executes statements that write and asks queries, on the handle it finds. -/
theorem Request.operation_states (path : String) {r : Request} (hr : r.IsData) :
    (r.operation path).CallsOn StorageCall.States := by
  cases r with
  | connect => exact absurd rfl hr.1
  | close => exact absurd rfl hr.2
  | createTable table columns =>
    intro v
    dsimp only
    split
    · trivial
    · exact ⟨.write (Statement.createTable_writes ..), fun _ => trivial⟩
  | find table condition options =>
    intro v
    dsimp only
    split
    · trivial
    · rename_i hq
      obtain ⟨o, c, -, -, -, rfl⟩ := Operation.query_ok hq
      exact ⟨.all .., fun _ => trivial⟩
  | findOne table condition orderBy =>
    intro v
    dsimp only
    split
    · trivial
    · rename_i hq
      obtain ⟨o, c, -, -, -, rfl⟩ := Operation.query_ok hq
      exact ⟨.one .., fun _ => trivial⟩
  | create table record =>
    intro v
    dsimp only
    split
    · trivial
    · split
      · intro x
        cases x with
        | error f => trivial
        | ok id => exact Operation.insert_states v table _
      · exact Operation.insert_states v table _
  | update table condition changes =>
    intro v
    dsimp only
    split
    · trivial
    · rename_i hs
      obtain ⟨es, c, -, -, rfl⟩ := Operation.updateStatement_ok hs
      exact ⟨.write (Statement.update_writes ..), fun _ => trivial⟩
  | delete table condition =>
    intro v
    dsimp only
    split
    · trivial
    · split
      · trivial
      · exact ⟨.write (Statement.delete_writes ..), fun _ => trivial⟩

/-- Every data operation calls with statements that are no pragmas, on the handle it finds. -/
theorem Request.operation_asks (path : String) {r : Request} (hr : r.IsData) :
    (r.operation path).CallsOn StorageCall.Asks := by
  refine (Request.operation_states path hr).mono fun v k hk => ?_
  cases hk with
  | write hs => exact ⟨rfl, fun s hs' => Option.some.inj hs' ▸ writes_not_pragma hs⟩
  | all table c o | one table c o =>
    refine ⟨rfl, fun s hs' => Option.some.inj hs' ▸ ?_⟩
    exact not_pragma (Statement.select_begins table c o) (by decide)

/-! ## The driver -/

namespace Sqlite

variable {o : Options} {path v : Value} {P : ConnectionCall → Prop}

theorem request_calls {k : ConnectionCall} (hk : P k) : (request k).Calls P := ⟨hk, fun _ => trivial⟩

theorem reading_calls {s : Statement} (fetch : ConnectionCall) (hs : ¬ Pragma s.sql) (hfetch : fetch.Serves v) :
    (reading v s fetch).Calls (ConnectionCall.Serves v) :=
  (request_calls ⟨rfl, hs⟩).andThen fun _ => (request_calls hfetch).ensuring (request_calls trivial)

/-- What a data operation asks for, the driver serves on its connection. -/
theorem driver_serves {k : StorageCall} (h : k.Asks v) : (driver o k).Calls (ConnectionCall.Serves v) := by
  obtain ⟨huses, hs⟩ := h
  cases k with
  | «open» path => exact huses.elim
  | close u => exact huses.elim
  | execute u s =>
    obtain rfl : u = v := huses
    have hcounting : (counting u s).Calls (ConnectionCall.Serves u) :=
      (request_calls ⟨rfl, hs s rfl⟩).andThen fun _ => (request_calls trivial).ensuring (request_calls trivial)
    refine hcounting.andThen fun _ => ?_
    exact (request_calls trivial).andThen fun _ => trivial
  | queryAll u s =>
    obtain rfl : u = v := huses
    exact (reading_calls .fetchAll (hs s rfl) trivial).andThen fun _ => trivial
  | queryOne u s =>
    obtain rfl : u = v := huses
    exact (reading_calls .fetchOne (hs s rfl) trivial).andThen fun _ => trivial

theorem closeConnection_idle (v : Value) : (closeConnection v).Calls ConnectionCall.Idle :=
  (request_calls nofun).andThen fun _ => trivial

/-- Without foreign keys, nothing is executed to open a connection. -/
theorem openConnection_idle (ho : o.foreignKeys = false) (path : Value) :
    (openConnection o path).Calls ConnectionCall.Idle := by
  have hprepare (v : Value) : (prepare o v).Calls ConnectionCall.Idle := by
    refine (request_calls nofun).andThen fun _ => ?_
    rw [ho]
    trivial
  refine (request_calls nofun).andThen fun v => (hprepare v).bind fun r => ?_
  cases r with
  | ok _ => trivial
  | error f =>
    dsimp only
    split
    · exact (request_calls nofun).andThen fun _ => trivial
    · trivial

/-- What an opening does on its connection if it succeeds: it names the columns, and if foreign keys are to be
enabled, it turns them on and commits. -/
inductive Prepared (v : Value) : (foreignKeys : Bool) → List (Event Connection) → Prop where
  | plain : Prepared v false [.called (.nameColumns v), .answered (.nameColumns v) (.ok ())]
  | foreignKeys (c : Cursor) : Prepared v true
    [.called (.nameColumns v), .answered (.nameColumns v) (.ok ()),
      .called (.execute v foreignKeysOn none), .answered (.execute v foreignKeysOn none) (.ok c),
      .called (.commit v), .answered (.commit v) (.ok ())]

namespace Prepared

variable {enabled : Bool} {ps : List (Event Connection)}

/-- What prepares a connection brings no other one in. -/
theorem came (h : Prepared v enabled ps) : ps.filterMap (Event.came? ConnectionCall.came) = [] := by
  cases h <;> rfl

theorem unfailed (h : Prepared v enabled ps) (k : ConnectionCall) (f : Fault) : .answered k (.error f) ∉ ps := by
  intro hf
  cases h with
  | plain =>
    simp at hf
    obtain ⟨rfl, hf⟩ := hf
    cases hf
  | foreignKeys c =>
    simp at hf
    rcases hf with ⟨rfl, hf⟩ | ⟨rfl, hf⟩ | ⟨rfl, hf⟩ <;> cases hf

theorem succeeds (h : Prepared v true ps) : ∃ c : Cursor, List.Sublist
    [.answered (.nameColumns v) (.ok ()), .answered (.execute v foreignKeysOn none) (.ok c),
      .answered (.commit v) (.ok ())] ps := by
  cases h with
  | foreignKeys c => exact ⟨c, .cons _ (.cons_cons _ (.cons _ (.cons_cons _ (.cons _ (.cons_cons _ .slnil)))))⟩

end Prepared

theorem prepare_ok {es : List (Event Connection)} (h : (prepare o v).Ends es (.ok ())) :
    Prepared v o.foreignKeys es := by
  rcases h.of_andThen with ⟨f, -, hf⟩ | ⟨_, _, es, rfl, hname, h⟩
  · cases hf
  rw [request_ends hname]
  cases ho : o.foreignKeys with
  | false =>
    rw [ho] at h
    obtain ⟨rfl, -⟩ := h
    exact .plain
  | true =>
    rw [ho, if_pos rfl] at h
    rcases h.of_andThen with ⟨f, -, hf⟩ | ⟨_, c, _, rfl, hrun, hcommit⟩
    · cases hf
    · rw [request_ends hrun, request_ends hcommit]
      exact .foreignKeys c

/-- An opening that succeeds has prepared its connection. -/
theorem openConnection_ok {es : List (Event Connection)} (h : (openConnection o path).Ends es (.ok v)) :
    ∃ ps, es = .called (.connect path o.timeout) :: .answered (.connect path o.timeout) (.ok v) ::
      (ps ++ [.logged (.opened path)]) ∧ Prepared v o.foreignKeys ps := by
  rcases h.of_andThen with ⟨f, -, hf⟩ | ⟨_, w, es, rfl, hconnect, h⟩
  · cases hf
  rw [request_ends hconnect]
  obtain ⟨ps, x, ys, rfl, hprepare, h⟩ := h.of_bind
  cases x with
  | ok _ =>
    obtain ⟨_, rfl, rfl, heq⟩ := h
    cases heq
    exact ⟨ps, rfl, prepare_ok hprepare⟩
  | error f =>
    dsimp only at h
    split at h
    · rcases h.of_andThen with ⟨f, -, hf⟩ | ⟨_, _, _, -, -, -, hf⟩ <;> cases hf
    · cases h.2

end Sqlite

/-! ## Connecting -/

namespace Operation

variable {path : String} {o : Sqlite.Options} {es xs ys : List (Event Connection)} {v : Option Value}
  {at? : Option (Phase Connection)}

/-- Before connecting makes the client a connected one, it has opened and prepared a connection. -/
theorem connect_prepared (hcourse : ((connect path).through (Sqlite.driver o)).Course es v at?)
    (hes : es = xs ++ .became .connected :: ys) :
    ∃ s w ps, xs = .began s :: .called (.connect (.text path) o.timeout) ::
        .answered (.connect (.text path) o.timeout) (.ok w) :: (ps ++ [.logged (.opened (.text path))]) ∧
      Sqlite.Prepared w o.foreignKeys ps := by
  obtain ⟨rest, hwhole⟩ := hcourse.completes
  rw [connect_eq] at hwhole
  generalize hall : es ++ rest = all at hwhole
  have hmem : .became .connected ∈ all := by
    rw [← hall, hes]
    simp
  cases hwhole with
  | @ended start s gs a hends =>
    cases s with
    | connected | closed =>
      rw [hends.1] at hmem
      simp at hmem
    | unconnected =>
      obtain ⟨zs, x, ks, rfl, hopen, hends⟩ := hends.of_bind
      have hno : .became .connected ∉ zs :=
        hopen.unconnected (Sqlite.openConnection_passive o (.text path)).neverConnects
      cases x with
      | error f =>
        rw [hends.1] at hmem
        simp [hno] at hmem
      | ok w =>
        obtain ⟨_, rfl, _, rfl, rfl, -⟩ := hends
        -- it becomes a connected one in one place only
        have heq : .began .unconnected :: zs ++ .became .connected :: [.logged (.connected path), .replied a] =
            xs ++ .became .connected :: (ys ++ rest) := by
          rw [hes] at hall
          simpa using hall.symm
        obtain ⟨hxs, -, -⟩ := (List.append_cons_inj_of_notMem (by simpa using hno) (by simp)).1 heq
        obtain ⟨ps, rfl, hps⟩ := Sqlite.openConnection_ok hopen
        exact ⟨_, w, ps, hxs.symm, hps⟩

/-- Closing executes nothing. -/
theorem close_idle (path : String) (o : Sqlite.Options) :
    ((close path).through (Sqlite.driver o)).CallsOn fun _ (k : ConnectionCall) => k.Idle := by
  refine CallsOn.through (P := fun v (k : StorageCall) => k = .close v) (fun v k hk => ?_)
    fun v => ⟨trivial, rfl, fun x => ?_⟩
  · rw [hk]
    exact Sqlite.closeConnection_idle v
  · cases x <;> trivial

/-- Connecting executes nothing without foreign keys. -/
theorem connect_idle (ho : o.foreignKeys = false)
    (hcourse : ((connect path).through (Sqlite.driver o)).Course es v at?) {k : ConnectionCall}
    (hk : .called k ∈ es) : k.Idle := by
  obtain ⟨rest, hwhole⟩ := hcourse.completes
  rw [connect_eq] at hwhole
  have hmem := List.mem_append_left rest hk
  generalize es ++ rest = all at hwhole hmem
  cases hwhole with
  | @ended start s gs a hends =>
    have hgs : .called k ∈ gs := by simpa using hmem
    cases s with
    | connected | closed =>
      rw [hends.1] at hgs
      cases hgs
    | unconnected =>
      refine hends.calls ((Sqlite.openConnection_idle ho (.text path)).bind fun r => ?_) k hgs
      cases r with
      | ok w => exact ⟨trivial, trivial⟩
      | error f => trivial

end Operation

/-! ## Histories -/

/-- What a task did, in its order, among what the others did. -/
theorem eventsOf_sublist {B : Boundary} (j : Nat) (h : List (Nat × Event B)) :
    ((eventsOf j h).map fun e => (j, e)).Sublist h := by
  induction h with
  | nil => exact .slnil
  | cons x h ih =>
    obtain ⟨i, e⟩ := x
    by_cases hi : i = j
    · subst hi
      rw [eventsOf_cons_own]
      exact ih.cons_cons _
    · rw [eventsOf_cons_other hi]
      exact ih.cons _

/-- The call sets a connection up to enforce foreign keys. -/
def ConnectionCall.SetsUp (v : Value) (k : ConnectionCall) : Prop :=
  k = .nameColumns v ∨ k = .execute v Sqlite.foreignKeysOn none ∨ k = .commit v

/-- The task has opened the connection, named its columns, turned foreign keys on and committed, in this order
and each with success. -/
def SetUp (h : List (Nat × Event Connection)) (j : Nat) (v : Value) : Prop :=
  ∃ (path timeout : Value) (c : Cursor), List.Sublist
    [(j, .answered (.connect path timeout) (.ok v)), (j, .answered (.nameColumns v) (.ok ())),
      (j, .answered (.execute v Sqlite.foreignKeysOn none) (.ok c)), (j, .answered (.commit v) (.ok ()))] h

/-! ## Runs -/

namespace Setup

variable {path : String} {o : Sqlite.Options} {ids : IdSource} {ms : List (Move ConnectionReturn)} {i j : Nat}
  {job : Job ConnectionReturn} {v : Value} {a b : List (Nat × Event Connection)}

/-- A connection that an operation found was made the client's by a task that connects, which had prepared it
before. -/
theorem found_prepared (hfound : Found ConnectionCall.came ((Setup.sqlite path o ids).play ms).past i v) :
    ∃ (k : Nat) (job : Job ConnectionReturn) (c d e : List (Nat × Event Connection)) (s : Lifecycle)
        (ps : List (Event Connection)),
      ((Setup.sqlite path o ids).play ms).jobs[k]? = some job ∧ job.request = .connect ∧
      ((Setup.sqlite path o ids).play ms).past =
        c ++ (k, .became .connected) :: (d ++ (i, .entered .connected) :: e) ∧
      eventsOf k c = .began s :: .called (.connect (.text path) o.timeout) ::
        .answered (.connect (.text path) o.timeout) (.ok v) :: (ps ++ [.logged (.opened (.text path))]) ∧
      Sqlite.Prepared v o.foreignKeys ps := by
  obtain ⟨c, e, hpast, htold⟩ := hfound
  obtain ⟨k, c, d, rfl, hlast⟩ := made_of_told htold
  rw [List.append_assoc, List.cons_append] at hpast
  have hmem : (k, .became .connected) ∈ ((Setup.sqlite path o ids).play ms).past := by
    rw [hpast]
    simp
  obtain ⟨job, hjob⟩ := play_started (Setup.sqlite path o ids) ms hmem
  obtain ⟨w, at?, hcourse, -⟩ := sqlite_course hjob
  have hconnect : job.request = .connect := by
    by_contra hother
    have hguards := (Request.operation_guards path hother).through (Sqlite.driver_passive o)
    generalize (job.request.operation path).through (Sqlite.driver o) = op at hcourse hguards
    cases op with
    | free start => exact hguards
    | guarded refusal body =>
      obtain ⟨u, gs, a, -, hends, hgs⟩ := hcourse.happens (mem_eventsOf.2 hmem) trivial nofun
      exact hends.unconnected (hguards u) hgs
  rw [hconnect, hpast, eventsOf_append, eventsOf_cons_own] at hcourse
  obtain ⟨s, w', ps, hc, hps⟩ := Operation.connect_prepared hcourse rfl
  have hcame : w' = v := by
    have hconnected : Event.came? (B := Connection) ConnectionCall.came
        (.answered (.connect (.text path) o.timeout) (.ok w')) = some w' := rfl
    rw [lastCame, hc, List.filterMap_cons_none rfl, List.filterMap_cons_none rfl, List.filterMap_cons_some hconnected,
      List.filterMap_append, hps.came] at hlast
    exact Option.some.inj hlast
  subst hcame
  exact ⟨k, job, c, d, e, s, ps, hjob, hconnect, hpast, hc, hps⟩

/-- What a job did when it entered, it did before any other event of its own. -/
theorem entered_before {c e : List (Nat × Event Connection)} {x : Event Connection}
    (hjob : ((Setup.sqlite path o ids).play ms).jobs[i]? = some job)
    (hentered : ((Setup.sqlite path o ids).play ms).past = c ++ (i, .entered .connected) :: e)
    (hsplit : ((Setup.sqlite path o ids).play ms).past = a ++ (i, x) :: b) (hx : x.Inner) : c <+: a := by
  obtain ⟨w, at?, hcourse, -⟩ := sqlite_course hjob
  rw [hentered, eventsOf_append, eventsOf_cons_own] at hcourse
  have honce := hcourse.entered_once
  rcases List.append_eq_append_iff.1 (hentered.symm.trans hsplit) with ⟨m, rfl, -⟩ | ⟨m, rfl, hm⟩
  · exact List.prefix_append c m
  · cases m with
    | nil => exact ⟨[], by simp⟩
    | cons y m =>
      obtain ⟨rfl, -⟩ := List.cons.inj hm
      have hmem : x ∈ eventsOf i (a ++ (i, x) :: m) := mem_eventsOf.2 (by simp)
      rw [honce, List.mem_singleton] at hmem
      rw [hmem] at hx
      exact hx.elim

/-- No call fails that sets up a connection which an operation found. -/
theorem found_unfailed (hfound : Found ConnectionCall.came ((Setup.sqlite path o ids).play ms).past i v)
    (hjob : ((Setup.sqlite path o ids).play ms).jobs[j]? = some job) (hconnect : job.request = .connect)
    {k : ConnectionCall} (hk : k.SetsUp v) (f : Fault) :
    (j, .answered k (.error f)) ∉ ((Setup.sqlite path o ids).play ms).past := by
  intro hfailed
  obtain ⟨w, at?, hcourse, -⟩ := sqlite_course hjob
  rw [hconnect] at hcourse
  have hnot : ∀ p t, k ≠ .connect p t := by
    rcases hk with rfl | rfl | rfl <;> nofun
  obtain ⟨u, hprepares, hcame⟩ := Operation.connect_prepares hcourse (mem_eventsOf.2 hfailed) hnot
  obtain rfl : v = u := by
    rcases hk with rfl | rfl | rfl
    · exact hprepares
    · exact hprepares.1
    · exact hprepares
  obtain ⟨j', job', c, d, e, s, ps, -, -, hpast, hc, hps⟩ := found_prepared hfound
  have hopened : (j', .answered (.connect (.text path) o.timeout) (.ok v)) ∈
      ((Setup.sqlite path o ids).play ms).past := by
    rw [hpast]
    exact List.mem_append_left _ (mem_eventsOf.1 (hc ▸ by simp))
  -- it is the task that made the connection the client's, and that one saw no failure
  obtain rfl := connections_distinct hopened (mem_eventsOf.1 hcame)
  rw [hpast, eventsOf_append, eventsOf_cons_own] at hcourse
  rw [hpast] at hfailed
  rcases List.mem_append.1 hfailed with hbefore | hbehind
  · have hmem := mem_eventsOf.2 hbefore
    rw [hc] at hmem
    simp [hps.unfailed, hnot] at hmem
  · rcases List.mem_cons.1 hbehind with hmade | hbehind
    · cases hmade
    · exact Operation.connect_over hcourse rfl _ (mem_eventsOf.2 hbehind)

/-- In every run with foreign keys enabled, a statement of a data operation is executed on a connection that has
been set up before, every call of the set-up having succeeded, and no call of a set-up of that connection ever
fails. In every run with foreign keys disabled, no pragma is executed. -/
theorem play_prepares (path : String) (o : Sqlite.Options) (ids : IdSource) (ms : List (Move ConnectionReturn)) :
    let r := (Setup.sqlite path o ids).play ms
    (o.foreignKeys = true → ∀ i job v sql ps a b, r.jobs[i]? = some job → job.request.IsData →
      r.past = a ++ (i, .called (.execute v sql ps)) :: b →
      (∃ j job', r.jobs[j]? = some job' ∧ job'.request = .connect ∧ SetUp a j v) ∧
        ∀ j job' k f, r.jobs[j]? = some job' → job'.request = .connect → k.SetsUp v →
          (j, .answered k (.error f)) ∉ r.past) ∧
    (o.foreignKeys = false → ∀ i v sql ps, (i, .called (.execute v sql ps)) ∈ r.past → ¬ Pragma sql) := by
  intro r
  have hserves {q : Request} (hq : q.IsData) :
      ((q.operation path).through (Sqlite.driver o)).CallsOn ConnectionCall.Serves := by
    refine Operation.CallsOn.through (fun v k hk => ?_) (Request.operation_asks path hq)
    exact Sqlite.driver_serves hk
  refine ⟨fun ho i job v sql ps a b hjob hdata hsplit => ?_, fun ho i v sql ps hmem => ?_⟩
  · obtain ⟨w, at?, hcourse, hfound⟩ := sqlite_course hjob
    have hcalled : (i, .called (.execute v sql ps)) ∈ r.past := by
      rw [hsplit]
      simp
    obtain ⟨u, rfl, rfl, -⟩ := hcourse.called (hserves hdata) (mem_eventsOf.2 hcalled)
    have hfound := hfound v rfl
    refine ⟨?_, fun j job' k f hjob' hconnect hk => found_unfailed hfound hjob' hconnect hk f⟩
    obtain ⟨j, job', c, d, e, s, qs, hjob', hconnect, hpast, hc, hqs⟩ := found_prepared hfound
    rw [ho] at hqs
    obtain ⟨cursor, hcursor⟩ := hqs.succeeds
    have hown : List.Sublist (.answered (.connect (.text path) o.timeout) (.ok v) ::
        [.answered (.nameColumns v) (.ok ()), .answered (.execute v Sqlite.foreignKeysOn none) (.ok cursor),
          .answered (.commit v) (.ok ())]) (eventsOf j c) := by
      rw [hc]
      exact .cons _ (.cons _ ((hcursor.trans (List.sublist_append_left _ _)).cons_cons _))
    have hentered : ((Setup.sqlite path o ids).play ms).past =
        (c ++ (j, .became .connected) :: d) ++ (i, .entered .connected) :: e := by
      rw [hpast, List.append_assoc, List.cons_append]
    have hbefore := entered_before hjob hentered hsplit trivial
    refine ⟨j, job', hjob', hconnect, .text path, o.timeout, cursor, ?_⟩
    exact ((hown.map fun e => (j, e)).trans (eventsOf_sublist j c)).trans
      ((List.sublist_append_left c _).trans hbefore.sublist)
  · obtain ⟨job, hjob⟩ := play_started (Setup.sqlite path o ids) ms hmem
    obtain ⟨w, at?, hcourse, -⟩ := sqlite_course hjob
    by_cases hconnect : job.request = .connect
    · rw [hconnect] at hcourse
      exact absurd rfl (Operation.connect_idle ho hcourse (mem_eventsOf.2 hmem) v sql ps)
    by_cases hclose : job.request = .close
    · rw [hclose] at hcourse
      obtain ⟨u, -, hidle⟩ := hcourse.called (Operation.close_idle path o) (mem_eventsOf.2 hmem)
      exact absurd rfl (hidle v sql ps)
    · obtain ⟨u, -, -, hpragma⟩ := hcourse.called (hserves ⟨hconnect, hclose⟩) (mem_eventsOf.2 hmem)
      exact hpragma

/-- Two openings that overlap, of which one fails while a search uses the connection of the other; and a search
without foreign keys. -/
theorem play_prepares_overlapping :
    let r := (Setup.sqlite "a.db" {} fun n => .ok (.int n)).play
      [.start ⟨.connect, [{}, { ticks := 1, outcome := .error ⟨.engine .operational, "disk I/O error"⟩ }]⟩, .turn 0,
        .start ⟨.connect, []⟩, .turn 1, .start ⟨.find (.text "t") .null {}, []⟩, .turn 1, .turn 0]
    let r' := (Setup.sqlite "a.db" { foreignKeys := false } fun n => .ok (.int n)).play
      [.start ⟨.connect, []⟩, .turn 0, .start ⟨.find (.text "t") .null {}, []⟩, .turn 0]
    (0, .answered (.execute (.text "h1") Sqlite.foreignKeysOn none)
        (.error ⟨.engine .operational, "disk I/O error"⟩)) ∈ r.past ∧
      (∃ a b, r.past = a ++ (2, .called (.execute (.text "h2") "SELECT * FROM t" (some []))) :: b ∧
        (∃ j job, r.jobs[j]? = some job ∧ job.request = .connect ∧ SetUp a j (.text "h2")) ∧
        ∀ j job k f, r.jobs[j]? = some job → job.request = .connect → k.SetsUp (.text "h2") →
          (j, .answered k (.error f)) ∉ r.past) ∧
      (1, .called (.execute (.text "h1") "SELECT * FROM t" (some []))) ∈ r'.past ∧ ¬ Pragma "SELECT * FROM t" := by
  intro r r'
  have failed : r.past[29]? = some (0, .answered (.execute (.text "h1") Sqlite.foreignKeysOn none)
    (.error ⟨.engine .operational, "disk I/O error"⟩)) := rfl
  have called : r.past[21]? = some (2, .called (.execute (.text "h2") "SELECT * FROM t" (some []))) := rfl
  have called' : r'.past[11]? = some (1, .called (.execute (.text "h1") "SELECT * FROM t" (some []))) := rfl
  have enabled := (play_prepares "a.db" {} (fun n => .ok (.int n)) _).1 rfl 2
    ⟨.find (.text "t") .null {}, []⟩ _ _ _ _ _ rfl ⟨nofun, nofun⟩ (split_getElem? called)
  have disabled := (play_prepares "a.db" { foreignKeys := false } (fun n => .ok (.int n)) _).2 rfl 1 _ _ _
    (List.mem_of_getElem? called')
  exact ⟨List.mem_of_getElem? failed, ⟨_, _, split_getElem? called, enabled⟩, List.mem_of_getElem? called', disabled⟩

end Setup

end RecordStore
