/-
Every cursor of a data statement is closed once. One thing is read from it, the number of affected rows for a
write and rows for a query, and it is closed behind that reading, whether the reading came to something or not.
What is called behind the closing is a commit at most. A statement that the connection refuses has no cursor,
and nothing is called for it any more. All this is over before the next statement is executed, so it holds
statement by statement in every run, and in every direct use of the driver.
-/
import RecordStore.Proofs.Schedule.Answers
import RecordStore.Proofs.Sqlite.Preparation
import RecordStore.Proofs.Sqlite.Releasing

namespace RecordStore

variable {rows : Bool} {c : Cursor} {v w : Value} {sql sql' : String} {ps ps' : Option (List Value)}
  {es fs xs ys : List (Event Connection)}

/-! ## One cursor -/

/-- The call reads from a cursor: rows if it is that of a query, and else the number of affected rows. -/
def ConnectionCall.ReadsFrom (c : Cursor) : (rows : Bool) → ConnectionCall → Prop
  | true, .fetchAll => True
  | true, .fetchOne => True
  | false, .countRows d => d = c
  | _, _ => False

/-- The event belongs to no call, unless to a commit. -/
def Event.OnlyCommits : Event Connection → Prop
  | .called k => ∃ v, k = .commit v
  | .answered k _ => ∃ v, k = .commit v
  | _ => True

/-- The cursor is read once, whatever comes of it; then it is closed, and nothing is called behind that but a
commit. -/
def CursorClosed (rows : Bool) (c : Cursor) (es : List (Event Connection)) : Prop :=
  ∃ k x y cs, es = [.called k, .answered k x] ++ (Sqlite.closing y ++ cs) ∧ k.ReadsFrom c rows ∧
    ∀ e ∈ cs, e.OnlyCommits

/-- The event belongs to the execution of a statement. -/
def Event.executes : Event Connection → Bool
  | .called (.execute _ _ _) => true
  | .answered (.execute _ _ _) _ => true
  | _ => false

theorem Event.onlyCommits_of_not {e : Event Connection} (h : ¬ e.Exchanges) : e.OnlyCommits := by
  cases e with
  | called | answered => exact absurd trivial h
  | _ => trivial

theorem Event.OnlyCommits.not_executes {e : Event Connection} (h : e.OnlyCommits) : e.executes = false := by
  cases e with
  | called k =>
    obtain ⟨v, rfl⟩ := h
    rfl
  | answered k x =>
    obtain ⟨v, rfl⟩ := h
    rfl
  | _ => rfl

namespace CursorClosed

theorem once (h : CursorClosed rows c es) : Once (.called .closeCursor) es := by
  obtain ⟨k, x, y, cs, rfl, hread, hcs⟩ := h
  refine ⟨[.called k, .answered k x], .answered .closeCursor y :: cs, rfl, fun hmem => ?_, fun hmem => ?_⟩
  · simp at hmem
    subst hmem
    cases rows <;> exact hread
  · rcases List.mem_cons.1 hmem with heq | hmem
    · cases heq
    · obtain ⟨v, hv⟩ := hcs _ hmem
      cases hv

theorem append (h : CursorClosed rows c es) (hfs : ∀ e ∈ fs, e.OnlyCommits) : CursorClosed rows c (es ++ fs) := by
  obtain ⟨k, x, y, cs, rfl, hread, hcs⟩ := h
  exact ⟨k, x, y, cs ++ fs, by simp only [List.append_assoc], hread, List.forall_mem_append.2 ⟨hcs, hfs⟩⟩

theorem not_executes (h : CursorClosed rows c es) : ∀ e ∈ es, e.executes = false := by
  obtain ⟨k, x, y, cs, rfl, hread, hcs⟩ := h
  have hidle : Event.executes (.called k) = false ∧ Event.executes (.answered k x) = false := by
    cases k with
    | execute => cases rows <;> exact hread.elim
    | _ => exact ⟨rfl, rfl⟩
  refine List.forall_mem_append.2 ⟨List.forall_mem_cons.2 ⟨hidle.1, List.forall_mem_singleton.2 hidle.2⟩,
    List.forall_mem_append.2 ⟨?_, fun e he => (hcs e he).not_executes⟩⟩
  exact List.forall_mem_cons.2 ⟨rfl, List.forall_mem_singleton.2 rfl⟩

end CursorClosed

/-! ## One statement -/

/-- What is done for one statement. -/
inductive StatementRun (rows : Bool) (v : Value) (sql : String) (ps : Option (List Value)) :
    List (Event Connection) → Prop where
  | refused (f : Fault) :
    StatementRun rows v sql ps [.called (.execute v sql ps), .answered (.execute v sql ps) (.error f)]
  | executed (c : Cursor) {es : List (Event Connection)} (closed : CursorClosed rows c es) :
    StatementRun rows v sql ps (.called (.execute v sql ps) :: .answered (.execute v sql ps) (.ok c) :: es)

/-- A statement that is executed in the run is the one that it is about. -/
theorem StatementRun.split {x : Except Fault Cursor} (h : StatementRun rows v sql ps es)
    (hes : es = xs ++ .answered (.execute w sql' ps') x :: ys) :
    sql' = sql ∧ ((∃ f, x = .error f ∧ ys = []) ∨ ∃ c, x = .ok c ∧ CursorClosed rows c ys) := by
  have hcalled : .answered (.execute w sql' ps') x ∉ [Event.called (B := Connection) (.execute v sql ps)] :=
    fun hmem => nomatch List.mem_singleton.1 hmem
  have hplace {y : Except Fault Cursor} {zs : List (Event Connection)}
      (hzs : .answered (.execute w sql' ps') x ∉ zs)
      (heq : [.called (.execute v sql ps)] ++ .answered (.execute v sql ps) y :: zs =
        xs ++ .answered (.execute w sql' ps') x :: ys) : sql' = sql ∧ x = y ∧ ys = zs := by
    obtain ⟨-, hevent, rfl⟩ := (List.append_cons_inj_of_notMem hcalled hzs).1 heq
    cases hevent
    exact ⟨rfl, rfl, rfl⟩
  cases h with
  | refused f =>
    obtain ⟨rfl, rfl, rfl⟩ := hplace List.not_mem_nil hes
    exact ⟨rfl, .inl ⟨f, rfl, rfl⟩⟩
  | @executed c zs closed =>
    obtain ⟨rfl, rfl, rfl⟩ := hplace (fun hmem => nomatch closed.not_executes _ hmem) hes
    exact ⟨rfl, .inr ⟨c, rfl, closed⟩⟩

/-! ## The driver -/

/-- The call asks for rows. -/
def StorageCall.reads : StorageCall → Bool
  | .queryAll _ _ => true
  | .queryOne _ _ => true
  | _ => false

namespace Sqlite

variable {o : Options} {s : Statement}

theorem write_run {r : Except Fault Value} (h : (write v s).Ends es r) :
    StatementRun false v s.sql (some s.params) es := by
  have hcommit (x : Except Fault Unit) : ∀ e ∈ committing v x, e.OnlyCommits :=
    List.forall_mem_cons.2 ⟨⟨v, rfl⟩, List.forall_mem_singleton.2 ⟨v, rfl⟩⟩
  rcases write_ends h with ⟨f, rfl, -⟩ | ⟨c, ys, rfl, ⟨f, habandons, -⟩ | ⟨n, rfl, -⟩⟩
  · exact .refused f
  · refine .executed c ?_
    cases habandons with
    | unclosed x f => exact ⟨.countRows c, x, .error f, [], rfl, rfl, List.forall_mem_nil _⟩
    | uncounted f => exact ⟨.countRows c, .error f, .ok (), [], rfl, rfl, List.forall_mem_nil _⟩
    | uncommitted n f => exact ⟨.countRows c, .ok n, .ok (), _, rfl, rfl, hcommit (.error f)⟩
  · refine .executed c ⟨.countRows c, .ok n, .ok (), _, rfl, rfl, ?_⟩
    exact List.forall_mem_append.2 ⟨hcommit (.ok ()), List.forall_mem_singleton.2 trivial⟩

/-- Reading closes the cursor whatever comes of it. -/
theorem reading_ends {fetch : ConnectionCall} {r : Except Fault fetch.Answer} (h : (reading v s fetch).Ends es r) :
    (∃ f, es = running v s (.error f) ∧ r = .error f) ∨
      ∃ c x y, es = running v s (.ok c) ++ ([.called fetch, .answered fetch x] ++ closing y) := by
  rcases h.of_andThen with ⟨f, hrun, rfl⟩ | ⟨_, c, _, rfl, hrun, h⟩
  · exact .inl ⟨f, request_ends hrun, rfl⟩
  obtain ⟨_, x, _, rfl, hfetched, h⟩ := h.of_bind
  rw [request_ends hrun, request_ends hfetched]
  rcases h.of_andThen with ⟨f, hclose, -⟩ | ⟨_, _, _, rfl, hclose, rfl, -⟩
  · rw [request_ends hclose]
    exact .inr ⟨c, x, .error f, rfl⟩
  · rw [request_ends hclose]
    exact .inr ⟨c, x, .ok (), rfl⟩

/-- A query is one statement, if what goes on with its rows makes no call. -/
theorem reading_run {α : Type} {r : Except Fault α} (fetch : ConnectionCall)
    {next : fetch.Answer → Program Connection (Except Fault α)} (hfetch : ∀ c, fetch.ReadsFrom c true)
    (hnext : ∀ a es, (next a).Ends es r → ∀ e ∈ es, e.OnlyCommits)
    (h : ((reading v s fetch).andThen next).Ends es r) : StatementRun true v s.sql (some s.params) es := by
  rcases h.of_andThen with ⟨f, hread, -⟩ | ⟨_, a, zs, rfl, hread, hends⟩
  · rcases reading_ends hread with ⟨f', rfl, -⟩ | ⟨c, x, y, rfl⟩
    · exact .refused f'
    · exact .executed c ⟨fetch, x, y, [], rfl, hfetch c, List.forall_mem_nil _⟩
  · rcases reading_ends hread with ⟨f', -, hf⟩ | ⟨c, x, y, rfl⟩
    · cases hf
    · rw [List.append_assoc, List.append_assoc]
      exact .executed c ⟨fetch, x, y, zs, rfl, hfetch c, hnext a zs hends⟩

/-- The driver executes one statement for a call that has one. -/
theorem driver_run {k : StorageCall} {r : Except Fault Value} (huses : k.Uses v) (hs : k.statement? = some s)
    (h : (driver o k).Ends es r) : StatementRun k.reads v s.sql (some s.params) es := by
  cases k with
  | «open» path => exact huses.elim
  | close u => exact huses.elim
  | execute u s' =>
    obtain rfl : u = v := huses
    cases hs
    exact write_run h
  | queryAll u s' =>
    obtain rfl : u = v := huses
    cases hs
    refine reading_run .fetchAll (fun _ => trivial) (fun a zs hnext => ?_) h
    obtain ⟨_, rfl, rfl, -⟩ := hnext
    exact List.forall_mem_singleton.2 trivial
  | queryOne u s' =>
    obtain rfl : u = v := huses
    cases hs
    refine reading_run .fetchOne (fun _ => trivial) (fun a zs hnext => ?_) h
    obtain ⟨rfl, -⟩ := hnext
    exact List.forall_mem_nil _

/-- A call of a data operation is one statement, which is a query exactly if it does not write. -/
theorem driver_states {k : StorageCall} {r : Except Fault Value} (hk : k.States v) (h : (driver o k).Ends es r) :
    ∃ sql ps, StatementRun (!writes sql) v sql ps es := by
  have hrun {s : Statement} (huses : k.Uses v) (hs : k.statement? = some s) (hreads : k.reads = !writes s.sql) :
      ∃ sql ps, StatementRun (!writes sql) v sql ps es := ⟨_, _, hreads ▸ driver_run huses hs h⟩
  cases hk with
  | write hs => exact hrun rfl rfl (by rw [hs]; rfl)
  | all table c o | one table c o => exact hrun rfl rfl (by rw [Statement.select_not_writes]; rfl)

end Sqlite

/-! ## Statements one after the other -/

/-- Statements are run one after the other, and nothing is called between them. -/
inductive StatementRuns : List (Event Connection) → Prop where
  | nil : StatementRuns []
  | quiet {e : Event Connection} {es : List (Event Connection)} (he : ¬ e.Exchanges) (rest : StatementRuns es) :
    StatementRuns (e :: es)
  | run {v : Value} {sql : String} {ps : Option (List Value)} {es fs : List (Event Connection)}
    (first : StatementRun (!writes sql) v sql ps es) (rest : StatementRuns fs) : StatementRuns (es ++ fs)

/-- What is done up to the next statement. -/
def untilStatement (es : List (Event Connection)) : List (Event Connection) := es.takeWhile fun e => !e.executes

theorem untilStatement_append (hes : ∀ e ∈ es, e.executes = false) :
    untilStatement (es ++ fs) = es ++ untilStatement fs :=
  List.takeWhile_append_of_pos fun e he => by rw [hes e he, Bool.not_false]

theorem untilStatement_begins (es fs : List (Event Connection)) :
    untilStatement es <+: untilStatement (es ++ fs) := by
  unfold untilStatement
  rw [List.takeWhile_append]
  split
  · exact (List.takeWhile_prefix _).trans (List.prefix_append es _)
  · exact List.prefix_rfl

namespace StatementRuns

theorem append (hes : StatementRuns es) (hfs : ∀ e ∈ fs, ¬ e.Exchanges) : StatementRuns (es ++ fs) := by
  induction hes with
  | nil =>
    induction fs with
    | nil => exact .nil
    | cons f fs ih =>
      obtain ⟨hf, hfs⟩ := List.forall_mem_cons.1 hfs
      exact .quiet hf (ih hfs)
  | quiet he _ ih => exact .quiet he ih
  | run first _ ih =>
    rw [List.append_assoc]
    exact .run first ih

theorem until_quiet (h : StatementRuns es) : ∀ e ∈ untilStatement es, ¬ e.Exchanges := by
  induction h with
  | nil => exact List.forall_mem_nil _
  | @quiet e es he _ ih =>
    have hidle : e.executes = false := (Event.onlyCommits_of_not he).not_executes
    rw [untilStatement, List.takeWhile_cons_of_pos (by rw [hidle, Bool.not_false])]
    exact List.forall_mem_cons.2 ⟨he, ih⟩
  | run first _ _ =>
    -- the first event of a statement's run is its execution
    cases first <;> exact List.forall_mem_nil _

/-- Up to the next statement, the cursor of a statement that was executed is closed, and nothing is called for one
that was refused. -/
theorem split {x : Except Fault Cursor} (h : StatementRuns es)
    (hes : es = xs ++ .answered (.execute v sql ps) x :: ys) :
    (∀ c, x = .ok c → CursorClosed (!writes sql) c (untilStatement ys)) ∧
      ∀ f, x = .error f → ∀ e ∈ untilStatement ys, ¬ e.Exchanges := by
  induction h generalizing xs with
  | nil => simp at hes
  | quiet he _ ih =>
    cases xs with
    | nil =>
      obtain ⟨rfl, -⟩ := List.cons.inj hes
      exact absurd trivial he
    | cons e' xs => exact ih (List.cons.inj hes).2
  | @run v' sql' ps' ws zs first rest ih =>
    rcases List.append_eq_append_iff.1 hes with ⟨c, rfl, hc⟩ | ⟨c, rfl, hc⟩
    · exact ih hc
    · cases c with
      | nil => exact ih (show zs = [] ++ _ from hc.symm)
      | cons e c =>
        obtain ⟨rfl, hys⟩ := List.cons.inj hc
        obtain rfl : ys = c ++ zs := hys
        obtain ⟨rfl, ⟨f, rfl, rfl⟩ | ⟨cursor, rfl, closed⟩⟩ := first.split rfl
        · exact ⟨nofun, fun _ _ => rest.until_quiet⟩
        · refine ⟨fun _ hcursor => ?_, nofun⟩
          cases hcursor
          rw [untilStatement_append closed.not_executes]
          exact closed.append fun e he => Event.onlyCommits_of_not (rest.until_quiet e he)

end StatementRuns

/-- A data operation runs statements one after the other. -/
theorem Program.Ends.statementRuns {α : Type} {o : Sqlite.Options} {a : α} : ∀ {p : Program Storage α}
    {es : List (Event Connection)}, (p.interpret (Sqlite.driver o)).Ends es a → p.Calls (StorageCall.States v) →
      StatementRuns es
  | .done _, _, h, _ => h.1 ▸ .nil
  | .call k next, _, h, hp => by
    obtain ⟨ws, r, fs, rfl, hrun, h⟩ := h.of_bind
    obtain ⟨sql, ps, first⟩ := Sqlite.driver_states hp.1 hrun
    exact .run first (statementRuns (p := next r) h (hp.2 r))
  | .draw next, _, ⟨r, _, heq, h⟩, hp => heq ▸ .quiet id (statementRuns (p := next r) h (hp r))
  | .log _ next, _, ⟨_, heq, h⟩, hp => heq ▸ .quiet id (statementRuns (p := next) h hp)
  | .connect _ next, _, ⟨_, heq, h⟩, hp => heq ▸ .quiet id (statementRuns (p := next) h hp.2)
  | .close next, _, ⟨_, heq, h⟩, hp => heq ▸ .quiet id (statementRuns (p := next) h hp.2)

/-! ## Runs and direct uses -/

/-- What a task of a client does with its cursors. -/
structure Run.ClosesCursors (r : Run ScriptedConnection) (i : Nat) : Prop where
  /-- When a statement has been executed, the rows or the number of affected rows are read from its cursor, and it
  is closed once, before a commit of this statement and before anything of the next one. The task may still be in
  one of these calls, and nothing remains to be done when it has replied. -/
  closed : ∀ v sql ps c es fs, eventsOf i r.past = es ++ .answered (.execute v sql ps) (.ok c) :: fs →
    ∃ rest, Once (.called .closeCursor) (untilStatement (fs ++ rest)) ∧
      CursorClosed (!writes sql) c (untilStatement (fs ++ rest)) ∧ ∀ reply, .replied reply ∈ fs → rest = []
  /-- When a statement has been refused, nothing is called for it any more. -/
  refused : ∀ v sql ps f es fs, eventsOf i r.past = es ++ .answered (.execute v sql ps) (.error f) :: fs →
    ∀ k, .called k ∉ untilStatement fs

/-- What a direct use of the driver does with its cursor, until it comes back. -/
structure Sqlite.DirectAnswer.ClosesCursor (a : Sqlite.DirectAnswer) (rows : Bool) : Prop where
  closed : ∀ v sql ps c es fs, a.events = es ++ .answered (.execute v sql ps) (.ok c) :: fs →
    Once (.called .closeCursor) fs ∧ CursorClosed rows c fs
  refused : ∀ v sql ps f es fs, a.events = es ++ .answered (.execute v sql ps) (.error f) :: fs → fs = []

/-- A data operation that has done something goes through statements, one after the other, to its reply. -/
theorem Operation.Course.statementRuns {path : String} {o : Sqlite.Options} {q : Request}
    {at? : Option (Phase Connection)} {u : Option Value} {e : Event Connection} (hq : q.IsData)
    (hcourse : ((q.operation path).through (Sqlite.driver o)).Course es u at?) (he : e ∈ es) (hinner : e.Inner) :
    ∃ rest, StatementRuns (es ++ rest) ∧ ∀ reply, .replied reply ∈ es → rest = [] := by
  have hstates := Request.operation_states path hq
  generalize q.operation path = op at hcourse hstates
  cases op with
  | free start => exact hstates.elim
  | guarded refusal body =>
    obtain ⟨w, gs, a, rest, -, hends, heq, hrest⟩ := hcourse.body he hinner
    have hafter : ∀ e ∈ a.events (B := Connection), ¬ e.Exchanges := a.events_all (fun _ => id) fun _ => id
    have hruns : StatementRuns (gs ++ a.events) := (Program.Ends.statementRuns hends (hstates w)).append hafter
    refine ⟨rest, heq ▸ .quiet id (.quiet id hruns), fun reply hreply => ?_⟩
    cases at? with
    | none => exact hrest rfl
    | some ph => exact absurd hreply (hcourse.unreplied reply)

namespace Sqlite

variable {o : Options}

/-- A direct use that runs a statement does nothing, or it is that one statement. -/
theorem Direct.use_run (o : Options) (d : Direct) (access : Access) (sql : String) (params : Value)
    (script : List (Entry ConnectionReturn)) :
    (d.use o (.run access sql params) script).2.events = [] ∨
      ∃ v ps, StatementRun (access != .write) v sql ps (d.use o (.run access sql params) script).2.events := by
  cases hcall : (Use.run access sql params).call d.connection with
  | error e =>
    left
    unfold use
    rw [hcall]
  | ok k =>
    obtain ⟨r, hends, -⟩ := use_ends o d (.run access sql params) script hcall
    right
    simp only [Use.call] at hcall
    split at hcall
    · cases hcall
    · cases hcall
    · rename_i v vs hv hvs
      have hk : k.Uses v ∧ k.statement? = some ⟨sql, vs⟩ ∧ k.reads = (access != .write) := by
        cases access <;> cases hcall <;> exact ⟨rfl, rfl, rfl⟩
      obtain ⟨huses, hs, hreads⟩ := hk
      exact ⟨v, some vs, hreads ▸ driver_run huses hs hends⟩

theorem Direct.use_closesCursor (o : Options) (d : Direct) (access : Access) (sql : String) (params : Value)
    (script : List (Entry ConnectionReturn)) :
    (d.use o (.run access sql params) script).2.ClosesCursor (access != .write) := by
  rcases Direct.use_run o d access sql params script with hnone | ⟨v, ps, hrun⟩
  · constructor <;>
    · intro w sql' ps' x es fs hes
      rw [hnone] at hes
      simp at hes
  · refine ⟨fun w sql' ps' c es fs hes => ?_, fun w sql' ps' f es fs hes => ?_⟩
    · obtain ⟨-, ⟨f, hf, -⟩ | ⟨d, hd, closed⟩⟩ := hrun.split hes
      · cases hf
      · cases hd
        exact ⟨closed.once, closed⟩
    · obtain ⟨-, ⟨f', -, hfs⟩ | ⟨d, hd, -⟩⟩ := hrun.split hes
      · exact hfs
      · cases hd

end Sqlite

namespace Setup

/-- A data operation that has executed a statement goes through statements, one after the other, to its reply. -/
theorem play_statementRuns {path : String} {o : Sqlite.Options} {ids : IdSource} {ms : List (Move ConnectionReturn)}
    {i : Nat} {job : Job ConnectionReturn} {x : Except Fault Cursor}
    (hjob : ((Setup.sqlite path o ids).play ms).jobs[i]? = some job) (hdata : job.request.IsData)
    (hes : eventsOf i ((Setup.sqlite path o ids).play ms).past = es ++ .answered (.execute v sql ps) x :: fs) :
    ∃ rest, StatementRuns (es ++ .answered (.execute v sql ps) x :: (fs ++ rest)) ∧
      ∀ reply, .replied reply ∈ fs → rest = [] := by
  obtain ⟨u, at?, hcourse, -⟩ := sqlite_course hjob
  have hmem : .answered (.execute v sql ps) x ∈ eventsOf i ((Setup.sqlite path o ids).play ms).past := by
    rw [hes]
    simp
  obtain ⟨rest, hstatements, hreplied⟩ := hcourse.statementRuns hdata hmem trivial
  rw [hes, List.append_assoc] at hstatements
  exact ⟨rest, hstatements, fun reply hreply => hreplied reply (by rw [hes]; simp [hreply])⟩

/-- In every run, whatever the answers and the faults, a data operation closes the cursor of each of its statements
once: behind the reading of rows, or of the number of affected rows, whether that failed or not, and before any
commit of that statement. For a statement that was refused it calls nothing more. The same is true of every direct
use of the driver, however a statement is run there. -/
theorem play_closesCursors (o : Sqlite.Options) :
    (∀ path ids ms i job, ((Setup.sqlite path o ids).play ms).jobs[i]? = some job → job.request.IsData →
      ((Setup.sqlite path o ids).play ms).ClosesCursors i) ∧
    ∀ d access sql params script,
      (Sqlite.Direct.use o d (.run access sql params) script).2.ClosesCursor (access != .write) := by
  refine ⟨fun path ids ms i job hjob hdata => ?_, Sqlite.Direct.use_closesCursor o⟩
  refine ⟨fun v sql ps c es fs hes => ?_, fun v sql ps f es fs hes k hk => ?_⟩
  · obtain ⟨rest, hstatements, hreplied⟩ := play_statementRuns hjob hdata hes
    have closed := (hstatements.split rfl).1 c rfl
    exact ⟨rest, closed.once, closed, hreplied⟩
  · obtain ⟨rest, hstatements, -⟩ := play_statementRuns hjob hdata hes
    refine (hstatements.split rfl).2 f rfl (.called k) ?_ trivial
    exact (untilStatement_begins fs rest).subset hk

/-- A search whose reading fails, and the closing behind it too; a deletion that cannot be committed, and one whose
number of affected rows cannot be read; and rows that are asked of a deletion in direct use. -/
theorem play_closesCursors_failing :
    let r := (Setup.sqlite "a.db" {} fun n => .ok (.int n)).play
      [.start ⟨.connect, []⟩, .turn 0,
        .start ⟨.find (.text "t") .null {}, [{}, { outcome := .error ⟨.engine .operational, "disk I/O error"⟩ },
          { outcome := .error ⟨.engine .operational, "disk I/O error"⟩ }]⟩,
        .turn 0,
        .start ⟨.delete (.text "t") (.map [(.text "id", .int 1)]),
          [{}, {}, { outcome := .error ⟨.engine .operational, "disk I/O error"⟩ }]⟩,
        .turn 0,
        .start ⟨.delete (.text "t") (.map [(.text "id", .int 2)]),
          [{ outcome := .ok (some (.uncounted ⟨.engine .interface, "no cursor"⟩)) }]⟩,
        .turn 0]
    let a := (Sqlite.Direct.use {} { connection := some (.text "h1") } (.run .readOne "DELETE FROM t" (.list []))
      [{}, { outcome := .error ⟨.engine .operational, "disk I/O error"⟩ }]).2
    (r.ClosesCursors 1 ∧ (1, .answered .fetchAll (.error ⟨.engine .operational, "disk I/O error"⟩)) ∈ r.past ∧
        (1, .answered .closeCursor (.error ⟨.engine .operational, "disk I/O error"⟩)) ∈ r.past) ∧
      (r.ClosesCursors 2 ∧
        (2, .answered (.commit (.text "h1")) (.error ⟨.engine .operational, "disk I/O error"⟩)) ∈ r.past) ∧
      (r.ClosesCursors 3 ∧ eventsOf 3 r.past = [.began .connected, .entered .connected] ++
        (Sqlite.running (.text "h1") ⟨"DELETE FROM t WHERE id = ?", [.int 2]⟩
            (.ok ⟨.error ⟨.engine .interface, "no cursor"⟩⟩) ++
          (Sqlite.counted ⟨.error ⟨.engine .interface, "no cursor"⟩⟩ (.error ⟨.engine .interface, "no cursor"⟩) ++
            (Sqlite.closing (.ok ()) ++
              [.replied ⟨.error (.storage .delete ⟨.engine .interface, "no cursor"⟩), none⟩])))) ∧
      a.ClosesCursor true ∧
        .answered .fetchOne (.error ⟨.engine .operational, "disk I/O error"⟩) ∈ a.events := by
  intro r a
  have unread : r.past[18]? =
    some (1, .answered .fetchAll (.error ⟨.engine .operational, "disk I/O error"⟩)) := rfl
  have unclosed : r.past[20]? =
    some (1, .answered .closeCursor (.error ⟨.engine .operational, "disk I/O error"⟩)) := rfl
  have uncommitted : r.past[31]? =
    some (2, .answered (.commit (.text "h1")) (.error ⟨.engine .operational, "disk I/O error"⟩)) := rfl
  have unread' : a.events[3]? =
    some (.answered .fetchOne (.error ⟨.engine .operational, "disk I/O error"⟩)) := rfl
  obtain ⟨inRuns, inUses⟩ := play_closesCursors {}
  refine ⟨⟨inRuns _ _ _ 1 _ rfl ⟨nofun, nofun⟩, List.mem_of_getElem? unread, List.mem_of_getElem? unclosed⟩,
    ⟨inRuns _ _ _ 2 _ rfl ⟨nofun, nofun⟩, List.mem_of_getElem? uncommitted⟩,
    ⟨inRuns _ _ _ 3 _ rfl ⟨nofun, nofun⟩, rfl⟩, ?_⟩
  exact ⟨inUses _ .readOne _ _ _, List.mem_of_getElem? unread'⟩

end Setup

end RecordStore
