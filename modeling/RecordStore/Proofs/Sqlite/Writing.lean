/-
What the SQLite driver does for the writes of an operation. A write executes its statement, reads from its
cursor how many rows it affected, closes the cursor and commits. It goes no further when one of these calls
fails, but for the cursor, which is closed if the reading failed too; a search only reads. So a data operation
draws identifiers, makes one write at most, and commits nothing but that write.
-/
import RecordStore.Proofs.Query.Parameters
import RecordStore.Proofs.Sqlite.Opening

namespace RecordStore

/-! ## The driver -/

/-- The call neither commits nor runs a statement that writes. -/
def ConnectionCall.Reads : ConnectionCall → Prop
  | .commit _ => False
  | .execute _ sql _ => writes sql = false
  | _ => True

/-- The event belongs to no call but one that reads. -/
def Event.Reads : Event Connection → Prop
  | .called k => k.Reads
  | .answered k _ => k.Reads
  | _ => True

/-- The event is the drawing of an identifier. -/
def Event.Draws : Event Connection → Prop
  | .drew _ => True
  | _ => False

theorem Event.Draws.reads {e : Event Connection} (h : e.Draws) : e.Reads := by
  cases e with
  | drew x => trivial
  | _ => exact h.elim

namespace Sqlite

variable {v : Value} {s : Statement} {es : List (Event Connection)}

/-- The statement is run. -/
def running (v : Value) (s : Statement) (x : Except Fault Cursor) : List (Event Connection) :=
  [.called (.execute v s.sql (some s.params)), .answered (.execute v s.sql (some s.params)) x]

/-- The number of affected rows is read from the cursor. -/
def counted (c : Cursor) (x : Except Fault Int) : List (Event Connection) :=
  [.called (.countRows c), .answered (.countRows c) x]

/-- The cursor is closed. -/
def closing (x : Except Fault Unit) : List (Event Connection) :=
  [.called .closeCursor, .answered .closeCursor x]

/-- The connection is committed. -/
def committing (v : Value) (x : Except Fault Unit) : List (Event Connection) :=
  [.called (.commit v), .answered (.commit v) x]

/-- What happens behind a write statement that is given up: its cursor cannot be closed, the number of
affected rows cannot be read from it, or the connection cannot be committed. -/
inductive Abandons (v : Value) (c : Cursor) : List (Event Connection) → Prop where
  | unclosed (x : Except Fault Int) (f : Fault) : Abandons v c (counted c x ++ closing (.error f))
  | uncounted (f : Fault) : Abandons v c (counted c (.error f) ++ closing (.ok ()))
  | uncommitted (n : Int) (f : Fault) :
    Abandons v c (counted c (.ok n) ++ (closing (.ok ()) ++ committing v (.error f)))

namespace Abandons

variable {c : Cursor} {ys : List (Event Connection)}

theorem fails (h : Abandons v c ys) : ∃ k f, .answered k (.error f) ∈ ys := by
  cases h with
  | unclosed x f =>
    exact ⟨.closeCursor, f, List.mem_append_right _ (List.mem_cons_of_mem _ List.mem_cons_self)⟩
  | uncounted f =>
    exact ⟨.countRows c, f, List.mem_append_left _ (List.mem_cons_of_mem _ List.mem_cons_self)⟩
  | uncommitted n f =>
    exact ⟨.commit v, f, List.mem_append_right _ (List.mem_append_right _
      (List.mem_cons_of_mem _ List.mem_cons_self))⟩

/-- It is over with the answer to a call. -/
theorem answered (h : Abandons v c ys) : ∃ zs k x, ys = zs ++ [.answered k x] := by
  cases h with
  | unclosed x f => exact ⟨[_, _, _], _, _, rfl⟩
  | uncounted f => exact ⟨[_, _, _], _, _, rfl⟩
  | uncommitted n f => exact ⟨[_, _, _, _, _], _, _, rfl⟩

theorem not_executed (h : Abandons v c ys) {w : Value} {sql : String} {ps : Option (List Value)}
    (x : Except Fault Cursor) : .answered (.execute w sql ps) x ∉ ys := by
  intro he
  cases h with
  | unclosed | uncounted =>
    simp [counted, closing] at he
    rcases he with he | he <;> cases he
  | uncommitted =>
    simp [counted, closing, committing] at he
    rcases he with he | he | he <;> cases he

theorem not_committed (h : Abandons v c ys) (w : Value) : .answered (.commit w) (.ok ()) ∉ ys := by
  intro he
  cases h with
  | unclosed | uncounted =>
    simp [counted, closing] at he
    rcases he with he | he <;> cases he
  | uncommitted =>
    simp [counted, closing, committing] at he
    rcases he with he | he | he <;> cases he

/-- A commit is called for only where the number of affected rows was read and the cursor was closed. -/
theorem closed (h : Abandons v c ys) {w : Value} (hcommit : .called (.commit w) ∈ ys) :
    ∃ n f, ys = counted c (.ok n) ++ (closing (.ok ()) ++ committing v (.error f)) := by
  cases h with
  | unclosed | uncounted => simp [counted, closing] at hcommit
  | uncommitted n f => exact ⟨n, f, rfl⟩

end Abandons

/-- The cursor of a statement that was run is closed behind the reading from it, whatever became of that. -/
theorem counting_ends {r : Except Fault Int} (h : (counting v s).Ends es r) :
    (∃ f, es = running v s (.error f) ∧ r = .error f) ∨
      ∃ c x, (∃ f, es = running v s (.ok c) ++ (counted c x ++ closing (.error f)) ∧ r = .error f) ∨
        es = running v s (.ok c) ++ (counted c x ++ closing (.ok ())) ∧ r = x := by
  rcases h.of_andThen with ⟨f, hrun, rfl⟩ | ⟨_, c, _, rfl, hrun, h⟩
  · exact .inl ⟨f, request_ends hrun, rfl⟩
  obtain ⟨_, x, _, rfl, hcount, h⟩ := h.of_bind
  rw [request_ends hrun, request_ends hcount]
  refine .inr ⟨c, x, ?_⟩
  rcases h.of_andThen with ⟨f, hclose, rfl⟩ | ⟨_, _, _, rfl, hclose, rfl, rfl⟩
  · rw [request_ends hclose]
    exact .inl ⟨f, rfl, rfl⟩
  · rw [request_ends hclose]
    exact .inr ⟨rfl, rfl⟩

/-- A write goes on with the commit as long as no call fails. -/
theorem write_ends {r : Except Fault Value} (h : (write v s).Ends es r) :
    (∃ f, es = running v s (.error f) ∧ r = .error f) ∨
      ∃ c ys, es = running v s (.ok c) ++ ys ∧ ((∃ f, Abandons v c ys ∧ r = .error f) ∨
        ∃ n, ys = counted c (.ok n) ++ (closing (.ok ()) ++
          (committing v (.ok ()) ++ [.logged (.executed s.params.length n)])) ∧ r = .ok (.int (max n 0))) := by
  rcases h.of_andThen with ⟨f, hcount, rfl⟩ | ⟨_, n, _, rfl, hcount, hend⟩
  · rcases counting_ends hcount with ⟨f', rfl, heq⟩ | ⟨c, x, ⟨f', rfl, heq⟩ | ⟨rfl, rfl⟩⟩
    · cases heq
      exact .inl ⟨f, rfl, rfl⟩
    · cases heq
      exact .inr ⟨c, _, rfl, .inl ⟨f, .unclosed x f, rfl⟩⟩
    · exact .inr ⟨c, _, rfl, .inl ⟨f, .uncounted f, rfl⟩⟩
  · rcases counting_ends hcount with ⟨f, -, heq⟩ | ⟨c, x, ⟨f, -, heq⟩ | ⟨rfl, rfl⟩⟩
    · cases heq
    · cases heq
    · rcases hend.of_andThen with ⟨f, hcommit, rfl⟩ | ⟨_, _, _, rfl, hcommit, _, rfl, rfl, rfl⟩
      · rw [request_ends hcommit, List.append_assoc, List.append_assoc]
        exact .inr ⟨c, _, rfl, .inl ⟨f, .uncommitted n f, rfl⟩⟩
      · rw [request_ends hcommit, List.append_assoc, List.append_assoc]
        exact .inr ⟨c, _, rfl, .inr ⟨n, rfl, rfl⟩⟩

theorem request_reads {k : ConnectionCall} {r : Except Fault k.Answer} (h : (request k).Ends es r)
    (hk : k.Reads) : ∀ e ∈ es, e.Reads := by
  rw [request_ends h]
  exact List.forall_mem_cons.2 ⟨hk, List.forall_mem_singleton.2 hk⟩

theorem reading_reads {fetch : ConnectionCall} {r : Except Fault fetch.Answer}
    (h : (reading v s fetch).Ends es r) (hs : writes s.sql = false) (hfetch : fetch.Reads) :
    ∀ e ∈ es, e.Reads := by
  rcases h.of_andThen with ⟨f, hrun, -⟩ | ⟨_, _, _, rfl, hrun, h⟩
  · exact request_reads hrun hs
  obtain ⟨_, _, _, rfl, hfetched, h⟩ := h.of_bind
  refine List.forall_mem_append.2 ⟨request_reads hrun hs,
    List.forall_mem_append.2 ⟨request_reads hfetched hfetch, ?_⟩⟩
  -- the cursor is closed in any case
  rcases h.of_andThen with ⟨f, hclose, -⟩ | ⟨_, _, _, rfl, hclose, rfl, -⟩
  · exact request_reads hclose trivial
  · rw [List.append_nil]
    exact request_reads hclose trivial

theorem readAll_reads {r : Except Fault Value} (h : (readAll v s).Ends es r) (hs : writes s.sql = false) :
    ∀ e ∈ es, e.Reads := by
  rcases h.of_andThen with ⟨f, hread, -⟩ | ⟨_, _, _, rfl, hread, _, rfl, rfl, -⟩
  · exact reading_reads hread hs trivial
  · exact List.forall_mem_append.2 ⟨reading_reads hread hs trivial, List.forall_mem_singleton.2 trivial⟩

theorem readOne_reads {r : Except Fault Value} (h : (readOne v s).Ends es r) (hs : writes s.sql = false) :
    ∀ e ∈ es, e.Reads := by
  rcases h.of_andThen with ⟨f, hread, -⟩ | ⟨_, _, _, rfl, hread, rfl, -⟩
  · exact reading_reads hread hs trivial
  · rw [List.append_nil]
    exact reading_reads hread hs trivial

end Sqlite

/-! ## Operations -/

namespace Request

/-- The request is to write. -/
def Writes : Request → Prop
  | .createTable _ _ => True
  | .create _ _ => True
  | .update _ _ _ => True
  | .delete _ _ => True
  | _ => False

/-- The request answers with the number of records that it changed. -/
def Counts : Request → Prop
  | .update _ _ _ => True
  | .delete _ _ => True
  | _ => False

/-- The statement is the one that the request writes with, `drawn` being the identifiers that were drawn
for it. -/
def Written (r : Request) (drawn : List Value) (s : Statement) : Prop :=
  match r with
  | .createTable table columns => ∃ es, columns.entries? = some es ∧ s = .createTable table es
  | .create table record => ∃ names,
    Operation.columnNames (Operation.createdRecord record drawn) = .ok names ∧
      s = .insert table names ((Operation.createdRecord record drawn).map Prod.snd)
  | .update table condition changes => Operation.updateStatement table condition changes = .ok s
  | .delete table condition => ∃ c, Condition.compile condition = .ok c ∧ s = .delete table c
  | _ => False

theorem Written.writes {r : Request} {drawn : List Value} {s : Statement} (h : r.Written drawn s) :
    writes s.sql = true := by
  cases r with
  | createTable table columns =>
    obtain ⟨es, -, rfl⟩ := h
    exact Statement.createTable_writes table es
  | create table record =>
    obtain ⟨names, -, rfl⟩ := h
    exact Statement.insert_writes table names _
  | update table condition changes =>
    obtain ⟨es, c, -, -, rfl⟩ := Operation.updateStatement_ok h
    exact Statement.update_writes ..
  | delete table condition =>
    obtain ⟨c, -, rfl⟩ := h
    exact Statement.delete_writes table c
  | _ => exact h.elim

/-- What a data operation does behind its write statement, which gave this cursor, and its result. -/
inductive Settles (r : Request) (v : Value) (c : Cursor) :
    List (Event Connection) → Except Failure Value → Prop where
  /-- The write is given up. -/
  | abandoned {ys : List (Event Connection)} {e : Failure} (h : Sqlite.Abandons v c ys) : Settles r v c ys (.error e)
  /-- The write is durable, and the operation only reads from then on. -/
  | committed {n : Int} {es : List (Event Connection)} {result : Except Failure Value} : (∀ e ∈ es, e.Reads) →
    (r.Counts → result = .ok (.int (max n 0))) →
      Settles r v c
        (Sqlite.counted c (.ok n) ++ (Sqlite.closing (.ok ()) ++ (Sqlite.committing v (.ok ()) ++ es))) result

/-- What a data operation does on its connection, and its result. -/
inductive Goes (r : Request) (v : Value) : List (Event Connection) → Except Failure Value → Prop where
  /-- It does not write, and fails if it was to. -/
  | reads {es : List (Event Connection)} {result : Except Failure Value} : (∀ e ∈ es, e.Reads) →
    (r.Writes → ∃ e, result = .error e) → Goes r v es result
  /-- Its write statement fails. -/
  | refused (ds : List (Event Connection)) {s : Statement} {f : Fault} {e : Failure} :
    (∀ e ∈ ds, e.Draws) → r.Written (ds.filterMap Event.drawn?) s →
      Goes r v (ds ++ Sqlite.running v s (.error f)) (.error e)
  /-- Its write statement is executed. -/
  | wrote (ds : List (Event Connection)) {ys : List (Event Connection)} {s : Statement} {c : Cursor}
    {result : Except Failure Value} : (∀ e ∈ ds, e.Draws) →
      r.Written (ds.filterMap Event.drawn?) s → r.Settles v c ys result →
        Goes r v (ds ++ (Sqlite.running v s (.ok c) ++ ys)) result

end Request

namespace Operation

variable {r : Request} {o : Sqlite.Options} {v : Value} {s : Statement} {es : List (Event Connection)}
  {a : Ending}

theorem ends_goes {e : Failure} (h : ((ends (.error e)).interpret (Sqlite.driver o)).Ends es a) :
    r.Goes v es a.reply.result ∧ a.afterwards = [] := by
  obtain ⟨rfl, rfl⟩ := h
  exact ⟨.reads (List.forall_mem_nil _) fun _ => ⟨e, rfl⟩, rfl⟩

/-- An operation that makes a write and answers with what it gets. -/
theorem write_goes {give : Except Fault Value → Except Failure Value} (hs : r.Written [] s)
    (hfault : ∀ f, ∃ e, give (.error f) = .error e) (hcounts : r.Counts → ∀ x, give (.ok x) = .ok x)
    (h : ((Program.call (B := Storage) (.execute v s) fun x => ends (give x)).interpret
      (Sqlite.driver o)).Ends es a) : r.Goes v es a.reply.result ∧ a.afterwards = [] := by
  obtain ⟨ws, x, _, rfl, hwrite, rfl, rfl⟩ := h.of_bind
  refine ⟨?_, rfl⟩
  rw [List.append_nil]
  rcases Sqlite.write_ends hwrite with ⟨f, rfl, rfl⟩ | ⟨c, ys, rfl, ⟨f, habandons, rfl⟩ | ⟨n, rfl, rfl⟩⟩
  · obtain ⟨e, he⟩ := hfault f
    rw [he]
    exact .refused [] (List.forall_mem_nil _) hs
  · obtain ⟨e, he⟩ := hfault f
    rw [he]
    exact .wrote [] (List.forall_mem_nil _) hs (.abandoned habandons)
  · exact .wrote [] (List.forall_mem_nil _) hs
      (.committed (List.forall_mem_singleton.2 trivial) fun hr => hcounts hr _)

/-- An insertion, behind what was drawn for its record. -/
theorem insert_goes {table record : Value} (ds : List (Event Connection)) (hds : ∀ e ∈ ds, e.Draws)
    (h : ((insert v table (createdRecord record (ds.filterMap Event.drawn?))).interpret
      (Sqlite.driver o)).Ends es a) :
    (Request.create table record).Goes v (ds ++ es) a.reply.result ∧ a.afterwards = [] := by
  unfold insert at h
  dsimp only at h
  split at h
  · obtain ⟨rfl, rfl⟩ := h
    rw [List.append_nil]
    exact ⟨.reads (fun e he => (hds e he).reads) fun _ => ⟨_, rfl⟩, rfl⟩
  · rename_i names hnames
    have hwritten : (Request.create table record).Written (ds.filterMap Event.drawn?)
        (.insert table names ((createdRecord record (ds.filterMap Event.drawn?)).map Prod.snd)) :=
      ⟨names, hnames, rfl⟩
    obtain ⟨ws, x, fs, rfl, hwrite, h⟩ := h.of_bind
    rcases Sqlite.write_ends hwrite with ⟨f, rfl, rfl⟩ | ⟨c, ys, rfl, ⟨f, habandons, rfl⟩ | ⟨n, rfl, rfl⟩⟩
    · obtain ⟨rfl, rfl⟩ := h
      rw [List.append_nil]
      exact ⟨.refused ds hds hwritten, rfl⟩
    · obtain ⟨rfl, rfl⟩ := h
      rw [List.append_nil]
      exact ⟨.wrote ds hds hwritten (.abandoned habandons), rfl⟩
    · -- what it reads back, if it comes to that
      have hback : (∀ e ∈ fs, e.Reads) ∧ a.afterwards = [] := by
        dsimp only at h
        split at h
        · obtain ⟨rfl, rfl⟩ := h
          exact ⟨List.forall_mem_nil _, rfl⟩
        · obtain ⟨rs, y, _, rfl, hread, h⟩ := h.of_bind
          have hreads := Sqlite.readOne_reads hread (Statement.select_not_writes ..)
          cases y <;>
          · obtain ⟨rfl, rfl⟩ := h
            rw [List.append_nil]
            exact ⟨hreads, rfl⟩
      simp only [List.append_assoc, List.singleton_append]
      exact ⟨.wrote ds hds hwritten (.committed (List.forall_mem_cons.2 ⟨trivial, hback.1⟩) nofun), hback.2⟩

theorem query_not_writes {table condition : Value} {raw : RawOptions} {s : Statement}
    (h : query table condition raw = .ok s) : writes s.sql = false := by
  obtain ⟨o, c, -, -, -, rfl⟩ := query_ok h
  exact Statement.select_not_writes ..

end Operation

/-- What every data operation does with the SQLite driver. -/
theorem Request.operation_goes (path : String) (o : Sqlite.Options) {r : Request} (hr : r.IsData) :
    ((r.operation path).through (Sqlite.driver o)).BodyEnds fun v es a =>
      r.Goes v es a.reply.result ∧ a.afterwards = [] := by
  cases r with
  | connect => exact absurd rfl hr.1
  | close => exact absurd rfl hr.2
  | createTable table columns =>
    intro v es a h
    dsimp only at h
    split at h
    · exact Operation.ends_goes h
    · rename_i entries hentries
      exact Operation.write_goes ⟨entries, hentries, rfl⟩ (fun f => ⟨_, rfl⟩) nofun h
  | update table condition changes =>
    intro v es a h
    dsimp only at h
    split at h
    · exact Operation.ends_goes h
    · rename_i s hs
      exact Operation.write_goes hs (fun f => ⟨_, rfl⟩) (fun _ _ => rfl) h
  | delete table condition =>
    intro v es a h
    dsimp only at h
    split at h
    · exact Operation.ends_goes h
    · rename_i c hc
      split at h
      · exact Operation.ends_goes h
      · exact Operation.write_goes ⟨c, hc, rfl⟩ (fun f => ⟨_, rfl⟩) (fun _ _ => rfl) h
  | find table condition options =>
    intro v es a h
    dsimp only at h
    split at h
    · exact Operation.ends_goes h
    · rename_i s hs
      obtain ⟨rs, x, _, rfl, hread, rfl, rfl⟩ := h.of_bind
      rw [List.append_nil]
      exact ⟨.reads (Sqlite.readAll_reads hread (Operation.query_not_writes hs)) nofun, rfl⟩
  | findOne table condition orderBy =>
    intro v es a h
    dsimp only at h
    split at h
    · exact Operation.ends_goes h
    · rename_i s hs
      obtain ⟨rs, x, _, rfl, hread, rfl, rfl⟩ := h.of_bind
      rw [List.append_nil]
      exact ⟨.reads (Sqlite.readOne_reads hread (Operation.query_not_writes hs)) nofun, rfl⟩
  | create table record =>
    intro v es a h
    dsimp only at h
    split at h
    · obtain ⟨rfl, rfl⟩ := h
      exact ⟨.reads (List.forall_mem_nil _) fun _ => ⟨_, rfl⟩, rfl⟩
    · rename_i entries hentries
      split at h
      · rename_i hnull
        obtain ⟨x, fs, rfl, h⟩ := h
        cases x with
        | error f =>
          obtain ⟨rfl, rfl⟩ := h
          exact ⟨.reads (List.forall_mem_singleton.2 trivial) fun _ => ⟨_, rfl⟩, rfl⟩
        | ok id =>
          dsimp only at h
          rw [← Operation.createdRecord_drawn hentries hnull id] at h
          exact Operation.insert_goes [.drew (.ok id)] (List.forall_mem_singleton.2 trivial) h
      · rw [← Operation.createdRecord_nil hentries] at h
        exact Operation.insert_goes [] (List.forall_mem_nil _) h

namespace Request

variable {r : Request} {v w : Value} {es xs ys : List (Event Connection)} {result : Except Failure Value}

/-- What is behind a write statement never executes one. -/
theorem Settles.not_executed {c : Cursor} (h : r.Settles v c ys result) {sql : String} {ps : Option (List Value)}
    (hw : writes sql = true) (x : Except Fault Cursor) : .answered (.execute w sql ps) x ∉ ys := by
  intro he
  cases h with
  | abandoned habandons => exact habandons.not_executed x he
  | committed hes =>
    simp [Sqlite.counted, Sqlite.closing, Sqlite.committing] at he
    rcases he with he | he | he | he
    · cases he
    · cases he
    · cases he
    · exact Bool.eq_false_iff.1 (hes _ he) hw

/-- What is behind a write statement commits only if the number of affected rows was read and the cursor closed. -/
theorem Settles.closed {c : Cursor} (h : r.Settles v c ys result) (hcommit : .called (.commit w) ∈ ys) :
    ∃ n zs, ys = Sqlite.counted c (.ok n) ++ (Sqlite.closing (.ok ()) ++ zs) := by
  cases h with
  | abandoned habandons =>
    obtain ⟨n, f, heq⟩ := habandons.closed hcommit
    exact ⟨n, _, heq⟩
  | committed => exact ⟨_, _, rfl⟩

/-- A write statement that was executed is that of the request, with only drawn identifiers before it. -/
theorem Goes.executed (h : r.Goes v es result) {sql : String} {ps : Option (List Value)} {c : Cursor}
    (hes : es = xs ++ .answered (.execute w sql ps) (.ok c) :: ys) (hw : writes sql = true) :
    w = v ∧ r.Settles v c ys result ∧ ∃ ds s, (∀ e ∈ ds, e.Draws) ∧
      r.Written (ds.filterMap Event.drawn?) s ∧ sql = s.sql ∧ ps = some s.params ∧
      xs = ds ++ [.called (.execute v s.sql (some s.params))] := by
  have hmem : .answered (.execute w sql ps) (.ok c) ∈ es := by
    rw [hes]
    exact List.mem_append_right _ List.mem_cons_self
  cases h with
  | reads hreads => exact absurd hw (Bool.eq_false_iff.1 (hreads _ hmem))
  | @refused ds s f e hds hs =>
    rcases List.mem_append.1 hmem with hmem | hmem
    · exact (hds _ hmem).elim
    · simp [Sqlite.running] at hmem
      cases hmem
  | @wrote ds zs s d result hds hs hsettles =>
    -- it is executed in one place only
    have heq : ds ++ [.called (.execute v s.sql (some s.params))] ++
        .answered (.execute v s.sql (some s.params)) (.ok d) :: zs =
          xs ++ .answered (.execute w sql ps) (.ok c) :: ys := by
      rw [← hes, List.append_assoc]
      rfl
    have hbefore : .answered (.execute w sql ps) (.ok c) ∉ ds ++ [.called (.execute v s.sql (some s.params))] := by
      rw [List.mem_append, List.mem_singleton]
      rintro (hmem | hmem)
      · exact hds _ hmem
      · cases hmem
    obtain ⟨rfl, hevent, rfl⟩ := (List.append_cons_inj_of_notMem hbefore (hsettles.not_executed hw _)).1 heq
    cases hevent
    exact ⟨rfl, hsettles, ds, s, hds, hs, rfl, rfl, rfl⟩

/-- A commit comes right behind the write statement of the request, whose number of affected rows was read and whose
cursor was closed, and only reading comes behind it. -/
theorem Goes.commits (h : r.Goes v es result) (hes : es = xs ++ .called (.commit w) :: ys) :
    w = v ∧ r.Writes ∧ (∃ ds s c n, (∀ e ∈ ds, e.Draws) ∧ r.Written (ds.filterMap Event.drawn?) s ∧
      xs = ds ++ (Sqlite.running v s (.ok c) ++ (Sqlite.counted c (.ok n) ++ Sqlite.closing (.ok ())))) ∧
      ∃ x zs, ys = .answered (.commit v) x :: zs ∧ ∀ e ∈ zs, e.Reads := by
  have hnot {es : List (Event Connection)} (hes : ∀ e ∈ es, e.Reads) : .called (.commit w) ∉ es :=
    fun he => hes _ he
  have hmem : .called (.commit w) ∈ es := by
    rw [hes]
    exact List.mem_append_right _ List.mem_cons_self
  cases h with
  | reads hreads => exact absurd hmem (hnot hreads)
  | @refused ds s f e hds hs =>
    have hno : .called (.commit w) ∉ ds := fun he => hds _ he
    simp [Sqlite.running, hno] at hmem
  | @wrote ds zs s c result hds hs hsettles =>
    have hno : .called (.commit w) ∉ ds := fun he => hds _ he
    -- it commits in one place only
    have hplace {n : Int} {x : Except Fault Unit} (zs : List (Event Connection)) (hzs : ∀ e ∈ zs, e.Reads)
        (heq : ds ++ (Sqlite.running v s (.ok c) ++ (Sqlite.counted c (.ok n) ++
          (Sqlite.closing (.ok ()) ++ (Sqlite.committing v x ++ zs)))) = xs ++ .called (.commit w) :: ys) :
        w = v ∧ xs = ds ++ (Sqlite.running v s (.ok c) ++ (Sqlite.counted c (.ok n) ++ Sqlite.closing (.ok ()))) ∧
          ys = .answered (.commit v) x :: zs := by
      have heq : ds ++ (Sqlite.running v s (.ok c) ++ (Sqlite.counted c (.ok n) ++ Sqlite.closing (.ok ()))) ++
          .called (.commit v) :: .answered (.commit v) x :: zs = xs ++ .called (.commit w) :: ys := by
        rw [← heq]
        simp [Sqlite.committing]
      have hbehind : .called (.commit w) ∉ .answered (.commit v) x :: zs := by
        simpa using hnot hzs
      obtain ⟨rfl, hevent, rfl⟩ := (List.append_cons_inj_of_notMem
        (by simpa [Sqlite.running, Sqlite.counted, Sqlite.closing] using hno) hbehind).1 heq
      cases hevent
      exact ⟨rfl, rfl, rfl⟩
    have hwrites : r.Writes := by
      cases r with
      | createTable | create | update | delete => trivial
      | _ => exact hs.elim
    cases hsettles with
    | abandoned habandons =>
      have hcommit : .called (.commit w) ∈ zs := by simpa [Sqlite.running, hno] using hmem
      obtain ⟨n, f, rfl⟩ := habandons.closed hcommit
      obtain ⟨rfl, rfl, rfl⟩ := hplace [] (List.forall_mem_nil _) (by rw [List.append_nil]; exact hes)
      exact ⟨rfl, hwrites, ⟨ds, s, c, n, hds, hs, rfl⟩, _, [], rfl, List.forall_mem_nil _⟩
    | @committed n es result hreads =>
      obtain ⟨rfl, rfl, rfl⟩ := hplace _ hreads hes
      exact ⟨rfl, hwrites, ⟨ds, s, c, n, hds, hs, rfl⟩, _, _, rfl, hreads⟩

end Request

end RecordStore
