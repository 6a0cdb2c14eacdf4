/-
Reported writes are durable. In every run of a client on an SQLite database, a data operation that is to
write and succeeds has executed its statement on the connection that the client had, read the number of affected
rows, closed the cursor and committed, before it did anything else, and no other operation under the lock made a
call meanwhile. Nothing but such a write is ever committed by a data operation.
-/
import RecordStore.Proofs.Sqlite.Writing

namespace RecordStore

/-! ## The course of a data operation -/

namespace Request

variable {path : String} {o : Sqlite.Options} {r : Request} {es xs ys : List (Event Connection)}
  {v : Option Value} {at? : Option (Phase Connection)} {w : Value}

/-- A data operation that has done something has found a connection, and goes on it. -/
theorem course_goes (hr : r.IsData)
    (hcourse : ((r.operation path).through (Sqlite.driver o)).Course es v at?) {e : Event Connection}
    (he : e ∈ es) (hinner : e.Inner) :
    ∃ u gs a rest, v = some u ∧ r.Goes u gs a.result ∧
      es ++ rest = .began .connected :: .entered .connected :: (gs ++ [.replied a]) ∧
      (at? = none → rest = []) := by
  have hgoes := r.operation_goes path o hr
  have hguards := (Request.operation_guards path hr.1).through (Sqlite.driver_passive o)
  generalize (r.operation path).through (Sqlite.driver o) = op at hcourse hgoes hguards
  cases op with
  | free start => exact hguards.elim
  | guarded refusal body =>
    obtain ⟨u, gs, a, rest, hv, hends, heq, hrest⟩ := hcourse.body he hinner
    obtain ⟨hgoes, hafterwards⟩ := hgoes u gs a hends
    rw [Ending.events, hafterwards] at heq
    exact ⟨u, gs, a.reply, rest, hv, hgoes, heq, hrest⟩

/-- A data operation that succeeds has gone through its whole course. -/
theorem course_succeeds (hr : r.IsData)
    (hcourse : ((r.operation path).through (Sqlite.driver o)).Course es v none) {reply : Reply}
    (hreply : .replied reply ∈ es) {x : Value} (hx : reply.result = .ok x) :
    ∃ u gs, v = some u ∧ r.Goes u gs (.ok x) ∧
      es = .began .connected :: .entered .connected :: (gs ++ [.replied reply]) := by
  have hgoes := r.operation_goes path o hr
  have huses := Request.operation_usesHandle path hr
  generalize r.operation path = op at hcourse hgoes huses
  cases op with
  | free start => exact huses.elim
  | guarded refusal body =>
    rcases hcourse.replied_cases hreply with ⟨rfl, -⟩ | ⟨u, gs, a, hv, hends, rfl, heq⟩
    · rw [huses.1] at hx
      cases hx
    · obtain ⟨hgoes, hafterwards⟩ := hgoes u gs a hends
      rw [Ending.events, hafterwards] at heq
      rw [hx] at hgoes
      exact ⟨u, gs, hv, hgoes, heq⟩

/-- A data operation commits right behind its own write, on its own connection, and only reads then. -/
theorem course_commits (hr : r.IsData)
    (hcourse : ((r.operation path).through (Sqlite.driver o)).Course es v at?)
    (hes : es = xs ++ .called (.commit w) :: ys) :
    v = some w ∧ r.Writes ∧ (∃ ds s c n, (∀ e ∈ ds, e.Draws) ∧ r.Written (ds.filterMap Event.drawn?) s ∧
      xs = .began .connected :: .entered .connected :: (ds ++ (Sqlite.running w s (.ok c) ++
        (Sqlite.counted c (.ok n) ++ Sqlite.closing (.ok ()))))) ∧
      ∀ e ∈ ys, (∃ x, e = .answered (.commit w) x) ∨ e.Reads := by
  obtain ⟨u, gs, a, rest, rfl, hgoes, heq, -⟩ := course_goes hr hcourse (e := .called (.commit w))
    (by rw [hes]; simp) trivial
  rw [hes, List.append_assoc, List.cons_append] at heq
  obtain ⟨before, after, rfl, hgs, hys⟩ := split_inner heq trivial
  obtain ⟨rfl, hwrites, ⟨ds, s, c, n, hds, hs, rfl⟩, x, zs, rfl, hzs⟩ := hgoes.commits hgs
  refine ⟨rfl, hwrites, ⟨ds, s, c, n, hds, hs, rfl⟩, fun e he => ?_⟩
  have hmem : e ∈ ys ++ rest := List.mem_append_left _ he
  rw [hys] at hmem
  rcases List.mem_append.1 hmem with hmem | hmem
  · rcases List.mem_cons.1 hmem with rfl | hmem
    · exact .inl ⟨x, rfl⟩
    · exact .inr (hzs e hmem)
  · rw [List.mem_singleton.1 hmem]
    exact .inr trivial

/-- A write statement that a data operation executed is its own, and it goes on with the cursor. -/
theorem course_executed (hr : r.IsData)
    (hcourse : ((r.operation path).through (Sqlite.driver o)).Course es v at?) {sql : String}
    {ps : Option (List Value)} {c : Cursor} (hes : es = xs ++ .answered (.execute w sql ps) (.ok c) :: ys)
    (hw : writes sql = true) :
    v = some w ∧ (∃ zs a rest, r.Settles w c zs a.result ∧ ys ++ rest = zs ++ [.replied a] ∧
      (at? = none → rest = [])) ∧ ∃ ds s, (∀ e ∈ ds, e.Draws) ∧
        r.Written (ds.filterMap Event.drawn?) s ∧ sql = s.sql ∧
        xs = .began .connected :: .entered .connected :: (ds ++ [.called (.execute w s.sql (some s.params))]) := by
  obtain ⟨u, gs, a, rest, rfl, hgoes, heq, hrest⟩ := course_goes hr hcourse
    (e := .answered (.execute w sql ps) (.ok c)) (by rw [hes]; simp) trivial
  rw [hes, List.append_assoc, List.cons_append] at heq
  obtain ⟨before, after, rfl, hgs, hys⟩ := split_inner heq trivial
  obtain ⟨rfl, hsettles, ds, s, hds, hs, rfl, -, rfl⟩ := hgoes.executed hgs hw
  exact ⟨rfl, ⟨after, a, rest, hsettles, hys, hrest⟩, ds, s, hds, hs, rfl, rfl⟩

/-- A data operation whose write statement failed does not commit. -/
theorem course_refused (hr : r.IsData)
    (hcourse : ((r.operation path).through (Sqlite.driver o)).Course es v at?) {sql : String}
    {ps : Option (List Value)} {f : Fault} (hw : writes sql = true)
    (hf : .answered (.execute w sql ps) (.error f) ∈ es) (u : Value) : .called (.commit u) ∉ es := by
  intro hu
  obtain ⟨before, behind, hes⟩ := List.append_of_mem hu
  obtain ⟨rfl, -, ⟨ds, s, c, n, hds, -, rfl⟩, hbehind⟩ := course_commits hr hcourse hes
  have hno : .answered (.execute w sql ps) (.error f) ∉ ds := fun he => hds _ he
  rw [hes] at hf
  simp [Sqlite.running, Sqlite.counted, Sqlite.closing, hno] at hf
  rcases hf with hf | hf | hf | hf
  · cases hf
  · cases hf
  · cases hf
  · rcases hbehind _ hf with ⟨x, hx⟩ | hreads
    · cases hx
    · exact Bool.eq_false_iff.1 hreads hw

/-- A data operation that commits its write has read the number of affected rows and closed the cursor. -/
theorem course_closed (hr : r.IsData)
    (hcourse : ((r.operation path).through (Sqlite.driver o)).Course es v at?) {sql : String}
    {ps : Option (List Value)} {c : Cursor} (hw : writes sql = true)
    (hes : es = xs ++ .answered (.execute w sql ps) (.ok c) :: ys) {u : Value} (hcommit : .called (.commit u) ∈ es) :
    ∃ n zs rest, ys ++ rest = Sqlite.counted c (.ok n) ++ (Sqlite.closing (.ok ()) ++ zs) := by
  obtain ⟨rfl, ⟨zs, a, rest, hsettles, heq, -⟩, ds, s, hds, -, -, rfl⟩ := course_executed hr hcourse hes hw
  have hno : .called (.commit u) ∉ ds := fun he => hds _ he
  have hys : .called (.commit u) ∈ ys := by
    rw [hes] at hcommit
    simpa [hno] using hcommit
  have hzs : .called (.commit u) ∈ zs := by
    have hmem := List.mem_append_left rest hys
    rw [heq] at hmem
    simpa using hmem
  obtain ⟨n, zs, rfl⟩ := hsettles.closed hzs
  exact ⟨n, zs ++ [.replied a], rest, by rw [heq, List.append_assoc, List.append_assoc]⟩

end Request

/-! ## Runs -/

/-- What a data operation that serves `q` has made durable in a run. -/
structure Run.Durable (r : Run ScriptedConnection) (i : Nat) (q : Request) : Prop where
  /-- A write that succeeded was executed on the connection that the client had, its number of affected rows
  was read, its cursor was closed and it was committed, in this order, before the operation did anything but
  drawing its identifier. Then it only read, and it replied. -/
  committed : q.Writes → ∀ reply x, (i, .replied reply) ∈ r.past → reply.result = .ok x →
    ∃ v ds s c n es, Found ConnectionCall.came r.past i v ∧ (∀ e ∈ ds, e.Draws) ∧
      q.Written (ds.filterMap Event.drawn?) s ∧ eventsOf i r.past =
        .began .connected :: .entered .connected :: (ds ++ (Sqlite.running v s (.ok c) ++
          (Sqlite.counted c (.ok n) ++ (Sqlite.closing (.ok ()) ++
            (Sqlite.committing v (.ok ()) ++ (es ++ [.replied reply])))))) ∧
      (∀ e ∈ es, e.Reads) ∧ (q.Counts → x = .int (max n 0))
  /-- No other operation but connecting makes a call between the statement and the commit. -/
  alone : ∀ v sql ps j k, r.Locking j →
    [(i, .called (.execute v sql ps)), (j, .called k), (i, .answered (.commit v) (.ok ()))].Sublist r.past →
      j = i
  /-- Every commit comes right behind the operation's own write, and is the only one. -/
  behind : ∀ v es fs, eventsOf i r.past = es ++ .called (.commit v) :: fs →
    Found ConnectionCall.came r.past i v ∧ (∃ ds s c n, (∀ e ∈ ds, e.Draws) ∧
      q.Written (ds.filterMap Event.drawn?) s ∧ es = .began .connected :: .entered .connected ::
        (ds ++ (Sqlite.running v s (.ok c) ++ (Sqlite.counted c (.ok n) ++ Sqlite.closing (.ok ()))))) ∧
      ∀ u, .called (.commit u) ∉ fs
  /-- A write statement that failed is not committed. -/
  refused : ∀ v sql ps f, writes sql = true → (i, .answered (.execute v sql ps) (.error f)) ∈ r.past →
    ∀ u, (i, .called (.commit u)) ∉ r.past
  /-- A write whose number of affected rows could not be read is not committed. -/
  uncounted : ∀ v sql ps c f es fs, writes sql = true → eventsOf i r.past =
      es ++ .answered (.execute v sql ps) (.ok c) :: (Sqlite.counted c (.error f) ++ fs) →
    ∀ u, (i, .called (.commit u)) ∉ r.past
  /-- A write whose cursor could not be closed is not committed. -/
  unclosed : ∀ v sql ps c x f es fs, writes sql = true → eventsOf i r.past =
      es ++ .answered (.execute v sql ps) (.ok c) :: (Sqlite.counted c x ++ (Sqlite.closing (.error f) ++ fs)) →
    ∀ u, (i, .called (.commit u)) ∉ r.past
  /-- Searching commits nothing. -/
  reading : ¬ q.Writes → ∀ u, (i, .called (.commit u)) ∉ r.past

namespace Setup

variable {path : String} {o : Sqlite.Options} {ids : IdSource} {ms : List (Move ConnectionReturn)} {i : Nat}
  {job : Job ConnectionReturn}

/-- The events of a job are its course so far, on the connection that the client had when it entered. -/
theorem sqlite_course (hjob : ((Setup.sqlite path o ids).play ms).jobs[i]? = some job) :
    ∃ v at?, ((job.request.operation path).through (Sqlite.driver o)).Course
        (eventsOf i ((Setup.sqlite path o ids).play ms).past) v at? ∧
      ∀ w ∈ v, Found ConnectionCall.came ((Setup.sqlite path o ids).play ms).past i w := by
  obtain ⟨v, at?, hcourse, hfound, -⟩ := play_course (sqlite_tells path o ids) hjob
  exact ⟨v, at?, hcourse, hfound⟩

/-- In every run, what a data operation reports as written is durable, and it commits nothing else. -/
theorem play_durable (hjob : ((Setup.sqlite path o ids).play ms).jobs[i]? = some job)
    (hdata : job.request.IsData) :
    ((Setup.sqlite path o ids).play ms).Durable i job.request := by
  obtain ⟨v, at?, hcourse, hfound⟩ := sqlite_course hjob
  refine ⟨fun hwrites reply x hreply hx => ?_, fun v sql ps j k hj hs => ?_, fun u es fs hes => ?_,
    fun u sql ps f hw hf u' hu => ?_, fun u sql ps c f es fs hw hes u' hu => ?_,
    fun u sql ps c x f es fs hw hes u' hu => ?_, fun hreads u hu => ?_⟩
  · obtain ⟨v, hwhole, hfound⟩ := play_replied (sqlite_tells path o ids) hjob hreply
    obtain ⟨u, gs, rfl, hgoes, heq⟩ := Request.course_succeeds hdata hwhole (mem_eventsOf.2 hreply) hx
    cases hgoes with
    | reads _ hfails =>
      obtain ⟨e, he⟩ := hfails hwrites
      cases he
    | @wrote ds ys s c _ hds hs hsettles =>
      cases hsettles with
      | @committed n es _ hreads hcounts =>
        refine ⟨u, ds, s, c, n, es, hfound u rfl, hds, hs, ?_, hreads, fun hc => Except.ok.inj (hcounts hc)⟩
        rw [heq]
        simp only [List.append_assoc]
  · have hlock : ((Setup.sqlite path o ids).play ms).Locking i := ⟨job, hjob, hdata.1⟩
    exact (play_oneAtATime (Setup.sqlite path o ids) ms).world i j (.called (.execute v sql ps)) (.called k)
      (.answered (.commit v) (.ok ())) hs hlock hj trivial trivial trivial
  · obtain ⟨rfl, -, hbefore, hbehind⟩ := Request.course_commits hdata hcourse hes
    refine ⟨hfound u rfl, hbefore, fun u' hu => ?_⟩
    rcases hbehind _ hu with ⟨x, hx⟩ | hreads
    · cases hx
    · exact hreads
  · exact Request.course_refused hdata hcourse hw (mem_eventsOf.2 hf) u' (mem_eventsOf.2 hu)
  · obtain ⟨n, zs, rest, heq⟩ := Request.course_closed hdata hcourse hw hes (mem_eventsOf.2 hu)
    cases (List.cons.inj (List.cons.inj heq).2).1
  · obtain ⟨n, zs, rest, heq⟩ := Request.course_closed hdata hcourse hw hes (mem_eventsOf.2 hu)
    have hclosed := (List.cons.inj (List.cons.inj heq).2).2
    cases (List.cons.inj (List.cons.inj hclosed).2).1
  · obtain ⟨es, fs, hes⟩ := List.append_of_mem (mem_eventsOf.2 hu)
    exact hreads (Request.course_commits hdata hcourse hes).2.1

/-- An update is suspended in its statement while a deletion waits for it, the rows of which the engine does
not know. -/
theorem play_durable_updating :
    let r := (Setup.sqlite "a.db" {} fun n => .ok (.int n)).play
      [.start ⟨.connect, []⟩, .turn 0,
        .start ⟨.update (.text "t") .null (.map [(.text "a", .int 1)]),
          [{ ticks := 1, outcome := .ok (some (.affected 3)) }]⟩,
        .start ⟨.delete (.text "t") (.map [(.text "id", .int 1)]),
          [{ outcome := .ok (some (.affected (-1))) }]⟩,
        .turn 0, .turn 0, .turn 0, .turn 0]
    (r.Durable 1 (.update (.text "t") .null (.map [(.text "a", .int 1)])) ∧
        (1, .replied ⟨.ok (.int 3), none⟩) ∈ r.past) ∧
      r.Durable 2 (.delete (.text "t") (.map [(.text "id", .int 1)])) ∧
        (2, .replied ⟨.ok (.int 0), none⟩) ∈ r.past := by
  intro r
  have updated : r.past[25]? = some (1, .replied ⟨.ok (.int 3), none⟩) := rfl
  have deleted : r.past[36]? = some (2, .replied ⟨.ok (.int 0), none⟩) := rfl
  have first : r.jobs[1]? = some ⟨.update (.text "t") .null (.map [(.text "a", .int 1)]),
    [{ ticks := 1, outcome := .ok (some (.affected 3)) }]⟩ := rfl
  have second : r.jobs[2]? = some ⟨.delete (.text "t") (.map [(.text "id", .int 1)]),
    [{ outcome := .ok (some (.affected (-1))) }]⟩ := rfl
  exact ⟨⟨play_durable first ⟨nofun, nofun⟩, List.mem_of_getElem? updated⟩,
    play_durable second ⟨nofun, nofun⟩, List.mem_of_getElem? deleted⟩

end Setup

end RecordStore
