/-
Which writes a commit makes durable. A write statement that was executed pends on its connection until the
connection is committed. An operation that commits has its own statement pending, and no other one unless
an earlier operation gave a write up: it executed the statement, but could not read the number of affected
rows, close the cursor or commit. Nobody takes such a statement back, so the next commit makes it durable.
-/
import RecordStore.Proofs.Schedule.Answers
import RecordStore.Proofs.Sqlite.Durability

namespace RecordStore

/-- The task executed the write statement on the connection, which has not been committed since. -/
def Pends (v : Value) (h : List (Nat × Event Connection)) (j : Nat) (sql : String) : Prop :=
  ∃ a b ps c, h = a ++ (j, .answered (.execute v sql ps) (.ok c)) :: b ∧ writes sql = true ∧
    ∀ i, (i, .answered (.commit v) (.ok ())) ∉ b

/-- The event is a commit that succeeded. -/
def Event.commits : Event Connection → Bool
  | .answered (.commit _) (.ok ()) => true
  | _ => false

theorem Sqlite.Abandons.outward {v : Value} {c : Cursor} {ys : List (Event Connection)} (h : Abandons v c ys) :
    ∀ e ∈ ys, e.Outward := by
  cases h <;> simp [counted, closing, committing, Event.Outward]

/-- The task executed a write statement on the connection and gave it up. -/
def GaveUp (v : Value) (h : List (Nat × Event Connection)) (j : Nat) : Prop :=
  ∃ a b sql ps c ys, h = a ++ (j, .answered (.execute v sql ps) (.ok c)) :: b ∧ writes sql = true ∧
    Sqlite.Abandons v c ys ∧ ys <+: eventsOf j b

/-- Whenever a data operation commits, what pends on the connection is its own write statement and nothing
else. -/
def Run.CommitsOwn (r : Run ScriptedConnection) : Prop :=
  ∀ i job v a b, r.jobs[i]? = some job → job.request.IsData → r.past = a ++ (i, .called (.commit v)) :: b →
    ∃ s, job.request.Written ((eventsOf i a).filterMap Event.drawn?) s ∧
      ∀ j sql, Pends v a j sql ↔ j = i ∧ sql = s.sql

/-! ## Who uses a connection -/

/-- Closing commits nothing and executes nothing. -/
theorem Operation.close_reads {path : String} {o : Sqlite.Options} {es : List (Event Connection)}
    {v : Option Value} {at? : Option (Phase Connection)}
    (hcourse : ((close path).through (Sqlite.driver o)).Course es v at?) : ∀ e ∈ es, e.Reads := by
  intro e he
  by_cases hinner : e.Inner
  · obtain ⟨w, gs, a, rest, -, hends, heq, -⟩ := hcourse.body he hinner
    obtain ⟨_, rfl, hends⟩ := hends
    obtain ⟨xs, x, ys, rfl, hclose, hends⟩ := hends.of_bind
    have hxs : ∀ e ∈ xs, e.Reads := by
      rcases hclose.of_andThen with ⟨f, hcall, -⟩ | ⟨_, _, _, rfl, hcall, _, rfl, rfl, -⟩
      · exact Sqlite.request_reads hcall trivial
      · exact List.forall_mem_append.2 ⟨Sqlite.request_reads hcall trivial, List.forall_mem_singleton.2 trivial⟩
    have hys : ys = [] := by
      cases x with
      | ok _ | error f => exact hends.1
    have hmem := List.mem_append_left rest he
    rw [heq, hys, List.append_nil] at hmem
    simp only [List.cons_append, List.mem_cons, List.mem_append] at hmem
    rcases hmem with rfl | rfl | rfl | hmem | hmem
    · trivial
    · trivial
    · trivial
    · exact hxs e hmem
    · exact a.events_all (fun _ => trivial) (fun _ => trivial) e hmem
  · cases e with
    | began | entered | replied => trivial
    | _ => exact absurd trivial hinner

namespace Setup

section Connections

variable {c : Setup ScriptedConnection} {ms : List (Move ConnectionReturn)} {i j : Nat}

/-- No connection comes back to two tasks. -/
theorem connections_distinct {p t p' t' v : Value}
    (hi : (i, .answered (.connect p t) (.ok v)) ∈ (c.play ms).past)
    (hj : (j, .answered (.connect p' t') (.ok v)) ∈ (c.play ms).past) : i = j := by
  -- the label of a connection shows the number of its opening
  have hlabel {p t : Value} {e : Entry ConnectionReturn} {n : Nat}
      (he : .ok v = Entry.result (B := ScriptedConnection) e (.connect p t) n) :
      v = .text ("h" ++ toString n) := by
    unfold Entry.result at he
    split at he
    · exact Except.ok.inj he
    · cases he
  have hnumber (n : Nat) : Nat.ofDigitChars 10 (toString n).toList 0 = n := by
    show Nat.ofDigitChars 10 n.repr.toList 0 = n
    rw [Nat.toList_repr, Nat.ofDigitChars_ten_toDigits]
  obtain ⟨a, b, ha, e, he⟩ := (c.play_answered ms).world.history _ _ _ hi
  obtain ⟨a', b', ha', e', he'⟩ := (c.play_answered ms).world.history _ _ _ hj
  refine eq_of_asked ha ha' rfl rfl ?_
  have hsame := String.append_right_inj "h" |>.1 (Value.text.inj ((hlabel he).symm.trans (hlabel he')))
  rw [← hnumber (asked (a ++ _)), hsame, hnumber]

end Connections

variable {path : String} {o : Sqlite.Options} {ids : IdSource} {ms : List (Move ConnectionReturn)} {i j k : Nat}
  {job : Job ConnectionReturn} {v : Value} {a b : List (Nat × Event Connection)}

/-- Once a data operation works on a connection, only data operations commit it. -/
theorem committed_by_data (hjob : ((Setup.sqlite path o ids).play ms).jobs[i]? = some job)
    {e : Event Connection} (hsplit : ((Setup.sqlite path o ids).play ms).past = a ++ (i, e) :: b)
    (he : e.Inner) (hfound : Found ConnectionCall.came ((Setup.sqlite path o ids).play ms).past i v)
    {x : Except Fault Unit} (hk : (k, .answered (.commit v) x) ∈ b) :
    ∃ job, ((Setup.sqlite path o ids).play ms).jobs[k]? = some job ∧ job.request.IsData := by
  have hmem : (k, .answered (.commit v) x) ∈ ((Setup.sqlite path o ids).play ms).past := by
    rw [hsplit]
    exact List.mem_append_right _ (List.mem_cons_of_mem _ hk)
  obtain ⟨job', hjob'⟩ := play_started (Setup.sqlite path o ids) ms hmem
  refine ⟨job', hjob', fun hconnect => ?_, fun hclose => ?_⟩
  · obtain ⟨w, at?, hcourse, -⟩ := sqlite_course hjob'
    rw [hconnect] at hcourse
    -- the connection came back to the task that made the client a connected one, which is this one
    obtain ⟨w', rfl, hcame⟩ := Operation.connect_prepares hcourse (mem_eventsOf.2 hmem) nofun
    obtain ⟨c, d, hentered, htold⟩ := hfound
    obtain ⟨k', c₁, c₂, rfl, hlast⟩ := made_of_told htold
    obtain ⟨e', he', hcame'⟩ := came_of_lastCame hlast
    obtain ⟨p, t, rfl⟩ : ∃ p t, e' = .answered (.connect p t) (.ok v) := by
      unfold Event.came? at hcame'
      split at hcame'
      · rename_i k₀ y
        cases k₀ <;> cases hcame'
        exact ⟨_, _, rfl⟩
      · cases hcame'
    have hin : (k', .answered (.connect p t) (.ok v)) ∈ ((Setup.sqlite path o ids).play ms).past := by
      rw [hentered]
      simp [he']
    obtain rfl := connections_distinct hin (mem_eventsOf.1 hcame)
    have hbehind := play_behind_entered (sqlite_tells path o ids) hjob hentered hsplit he _ hk
    rw [hentered, List.append_assoc, List.cons_append, eventsOf_append, eventsOf_cons_own] at hcourse
    refine Operation.connect_over (k := .commit v) hcourse rfl x (mem_eventsOf.2 ?_)
    exact List.mem_append_right _ (List.mem_cons_of_mem _ hbehind)
  · obtain ⟨w, at?, hcourse, -⟩ := sqlite_course hjob'
    rw [hclose] at hcourse
    exact Operation.close_reads hcourse _ (mem_eventsOf.2 hmem)

/-- Only data operations execute statements that write. -/
theorem executed_by_data {sql : String} {ps : Option (List Value)} {x : Except Fault Cursor}
    (hw : writes sql = true)
    (hmem : (j, .answered (.execute v sql ps) x) ∈ ((Setup.sqlite path o ids).play ms).past) :
    ∃ job, ((Setup.sqlite path o ids).play ms).jobs[j]? = some job ∧ job.request.IsData := by
  obtain ⟨job', hjob'⟩ := play_started (Setup.sqlite path o ids) ms hmem
  obtain ⟨w, at?, hcourse, -⟩ := sqlite_course hjob'
  refine ⟨job', hjob', fun hconnect => ?_, fun hclose => ?_⟩
  · rw [hconnect] at hcourse
    obtain ⟨w', hprepares, -⟩ := Operation.connect_prepares hcourse (mem_eventsOf.2 hmem) nofun
    exact Bool.eq_false_iff.1 hprepares.2 hw
  · rw [hclose] at hcourse
    exact Bool.eq_false_iff.1 (Operation.close_reads hcourse _ (mem_eventsOf.2 hmem)) hw

/-! ## What pends when an operation commits -/

/-- What a data operation did before it commits: it executed its own statement, read the number of affected
rows and closed the cursor. -/
theorem before_commit (hjob : ((Setup.sqlite path o ids).play ms).jobs[i]? = some job)
    (hdata : job.request.IsData)
    (hsplit : ((Setup.sqlite path o ids).play ms).past = a ++ (i, .called (.commit v)) :: b) :
    Found ConnectionCall.came ((Setup.sqlite path o ids).play ms).past i v ∧
      ∃ ds s c n, (∀ e ∈ ds, e.Draws) ∧ job.request.Written (ds.filterMap Event.drawn?) s ∧
        eventsOf i a = .began .connected :: .entered .connected ::
          (ds ++ (Sqlite.running v s (.ok c) ++ (Sqlite.counted c (.ok n) ++ Sqlite.closing (.ok ())))) := by
  obtain ⟨w, at?, hcourse, hfound⟩ := sqlite_course hjob
  rw [hsplit, eventsOf_append, eventsOf_cons_own] at hcourse
  obtain ⟨rfl, -, ⟨ds, s, c, n, hds, hs, heq⟩, -⟩ := Request.course_commits hdata hcourse rfl
  exact ⟨hfound v rfl, ds, s, c, n, hds, hs, heq⟩

/-- The statement of an operation that commits pends, and it is its only one. -/
theorem own_pends (hjob : ((Setup.sqlite path o ids).play ms).jobs[i]? = some job)
    (hdata : job.request.IsData)
    (hsplit : ((Setup.sqlite path o ids).play ms).past = a ++ (i, .called (.commit v)) :: b) :
    ∃ s, job.request.Written ((eventsOf i a).filterMap Event.drawn?) s ∧ ∀ sql, Pends v a i sql ↔ sql = s.sql := by
  obtain ⟨hfound, ds, s, c, n, hds, hs, hbefore⟩ := before_commit hjob hdata hsplit
  have hi : ((Setup.sqlite path o ids).play ms).Locking i := ⟨job, hjob, hdata.1⟩
  refine ⟨s, ?_, fun sql => ⟨?_, ?_⟩⟩
  · have hdrawn : (eventsOf i a).filterMap Event.drawn? = ds.filterMap Event.drawn? := by
      have hrest : (Sqlite.running v s (.ok c) ++
          (Sqlite.counted c (.ok n) ++ Sqlite.closing (.ok ()))).filterMap Event.drawn? = [] := rfl
      rw [hbefore, List.filterMap_cons_none rfl, List.filterMap_cons_none rfl, List.filterMap_append, hrest,
        List.append_nil]
    rwa [hdrawn]
  · rintro ⟨p, q, ps, d, rfl, hw, -⟩
    have hmem : .answered (.execute v sql ps) (.ok d) ∈
        eventsOf i (p ++ (i, .answered (.execute v sql ps) (.ok d)) :: q) := by
      rw [eventsOf_append, eventsOf_cons_own]
      simp
    have hno : .answered (.execute v sql ps) (.ok d) ∉ ds := fun he => hds _ he
    rw [hbefore] at hmem
    simp [Sqlite.running, Sqlite.counted, Sqlite.closing, hno] at hmem
    rcases hmem with h | h | h
    · cases h
      rfl
    · cases h
    · cases h
  · rintro rfl
    -- it was executed, and nobody has committed the connection since
    have hexecuted : eventsOf i a = .began .connected :: .entered .connected ::
        (ds ++ [.called (.execute v s.sql (some s.params))]) ++
          .answered (.execute v s.sql (some s.params)) (.ok c) ::
            (Sqlite.counted c (.ok n) ++ Sqlite.closing (.ok ())) := by
      rw [hbefore, List.cons_append, List.cons_append, List.append_assoc]
      rfl
    obtain ⟨p, q, rfl, -, hq⟩ := eventsOf_split hexecuted
    refine ⟨p, q, _, c, rfl, hs.writes, fun k hk => ?_⟩
    by_cases hki : k = i
    · subst hki
      have hmem := mem_eventsOf.2 hk
      rw [hq] at hmem
      simp [Sqlite.counted, Sqlite.closing] at hmem
      rcases hmem with h | h <;> cases h
    · rw [List.append_assoc, List.cons_append] at hsplit
      obtain ⟨job', hjob', hdata'⟩ := committed_by_data hjob hsplit trivial hfound (List.mem_append_left _ hk)
      exact hki (play_between (c := Setup.sqlite path o ids) hi ⟨job', hjob', hdata'.1⟩ hsplit hk trivial
        trivial trivial)

/-- What pends besides the statement of an operation that commits was given up. -/
theorem other_gaveUp (hjob : ((Setup.sqlite path o ids).play ms).jobs[i]? = some job)
    (hdata : job.request.IsData)
    (hsplit : ((Setup.sqlite path o ids).play ms).past = a ++ (i, .called (.commit v)) :: b) {sql : String}
    (hpends : Pends v a j sql) (hij : j ≠ i) : GaveUp v a j := by
  obtain ⟨p, q, ps, c, rfl, hw, hnot⟩ := hpends
  have hbefore : (j, .answered (.execute v sql ps) (.ok c)) ∈
      p ++ (j, .answered (.execute v sql ps) (.ok c)) :: q := by simp
  obtain ⟨job', hjob', hdata'⟩ := executed_by_data hw (hsplit ▸ List.mem_append_left _ hbefore)
  have hi : ((Setup.sqlite path o ids).play ms).Locking i := ⟨job, hjob, hdata.1⟩
  have hj : ((Setup.sqlite path o ids).play ms).Locking j := ⟨job', hjob', hdata'.1⟩
  -- it has gone through its whole course before the commit
  have hover {e : Event Connection} (he : e.Outward) : e ∉ eventsOf j b := fun hmem =>
    hij (play_apart (c := Setup.sqlite path o ids) (f := .called (.commit v)) hj hi hsplit hbefore
      (mem_eventsOf.1 hmem) trivial trivial he).symm
  obtain ⟨w, hcourse, -⟩ := play_passed_on (c := Setup.sqlite path o ids) (f := .called (.commit v))
    (sqlite_tells path o ids) hjob' hdata'.1 hi hsplit hbefore trivial trivial hij.symm
  rw [hsplit, List.append_assoc, List.cons_append, eventsOf_append, eventsOf_cons_own, eventsOf_append,
    eventsOf_cons_other hij.symm] at hcourse
  obtain ⟨rfl, ⟨zs, reply, rest, hsettles, heq, hrest⟩, -⟩ := Request.course_executed hdata' hcourse rfl hw
  rw [hrest rfl, List.append_nil] at heq
  generalize reply.result = result at hsettles
  cases hsettles with
  | abandoned habandons =>
    exact ⟨p, q, sql, ps, c, _, rfl, hw, habandons, begins_of_notMem heq fun e he => hover (habandons.outward e he)⟩
  | @committed n es _ hes =>
    -- but it has not been committed since
    have hmem : .answered (.commit v) (.ok ()) ∈ eventsOf j q ++ eventsOf j b := by
      rw [heq]
      exact List.mem_append_left _ (List.mem_append_right _ (List.mem_append_right _ (List.mem_append_left _
        (List.mem_cons_of_mem _ List.mem_cons_self))))
    rcases List.mem_append.1 hmem with hmem | hmem
    · exact absurd (mem_eventsOf.1 hmem) (hnot j)
    · exact absurd hmem (hover trivial)

/-- An operation that gave a write up commits nothing. -/
theorem gaveUp_uncommitted (hjob : ((Setup.sqlite path o ids).play ms).jobs[j]? = some job)
    (hdata : job.request.IsData) {sql : String} {ps : Option (List Value)} {c : Cursor}
    (hsplit : ((Setup.sqlite path o ids).play ms).past = a ++ (j, .answered (.execute v sql ps) (.ok c)) :: b)
    (hw : writes sql = true) {ys : List (Event Connection)} (hys : Sqlite.Abandons v c ys) (hb : ys <+: eventsOf j b) :
    Found ConnectionCall.came ((Setup.sqlite path o ids).play ms).past j v ∧
      (j, .answered (.commit v) (.ok ())) ∉ ((Setup.sqlite path o ids).play ms).past := by
  obtain ⟨w, at?, hcourse, hfound⟩ := sqlite_course hjob
  obtain ⟨fs, hfs⟩ := hb
  have hes : eventsOf j ((Setup.sqlite path o ids).play ms).past =
      eventsOf j a ++ .answered (.execute v sql ps) (.ok c) :: (ys ++ fs) := by
    rw [hsplit, eventsOf_append, eventsOf_cons_own, hfs]
  obtain ⟨rfl, ⟨zs, reply, rest, hsettles, heq, -⟩, ds, s, hds, -, -, hbefore⟩ :=
    Request.course_executed hdata hcourse hes hw
  rw [hbefore] at hes
  refine ⟨hfound v rfl, fun hcommitted => ?_⟩
  have hmem : .answered (.commit v) (.ok ()) ∈ zs := by
    have hno : .answered (.commit v) (.ok ()) ∉ ds := fun he => hds _ he
    have hmem := mem_eventsOf.2 hcommitted
    rw [hes] at hmem
    simp [hno] at hmem
    have hmem : .answered (.commit v) (.ok ()) ∈ ys ++ fs ++ rest :=
      List.mem_append_left rest (List.mem_append.2 hmem)
    rw [heq] at hmem
    simpa using hmem
  generalize reply.result = result at hsettles
  cases hsettles with
  | abandoned habandons => exact habandons.not_committed v hmem
  | committed =>
    cases hys with
    | unclosed x f =>
      simp [Sqlite.counted, Sqlite.closing] at heq
      cases heq.2.1
    | uncounted f =>
      simp [Sqlite.counted, Sqlite.closing] at heq
      cases heq.1
    | uncommitted n f =>
      simp [Sqlite.counted, Sqlite.closing, Sqlite.committing] at heq
      cases heq.2.1

/-- An operation that commits has seen no failure and no commit yet. -/
theorem unfailed_before_commit (hjob : ((Setup.sqlite path o ids).play ms).jobs[i]? = some job)
    (hdata : job.request.IsData)
    (hsplit : ((Setup.sqlite path o ids).play ms).past = a ++ (i, .called (.commit v)) :: b) :
    (∀ k f, (i, .answered k (.error f)) ∉ a) ∧ ∀ u x, (i, .answered (.commit u) x) ∉ a := by
  obtain ⟨-, ds, s, c, n, hds, -, hbefore⟩ := before_commit hjob hdata hsplit
  refine ⟨fun k f hmem => ?_, fun u x hmem => ?_⟩
  · have hno : .answered k (.error f) ∉ ds := fun he => hds _ he
    have hmem := mem_eventsOf.2 hmem
    rw [hbefore] at hmem
    simp [Sqlite.running, Sqlite.counted, Sqlite.closing, hno] at hmem
    rcases hmem with h | h | h <;> cases h
  · have hno : .answered (.commit u) x ∉ ds := fun he => hds _ he
    have hmem := mem_eventsOf.2 hmem
    rw [hbefore] at hmem
    simp [Sqlite.running, Sqlite.counted, Sqlite.closing, hno] at hmem
    rcases hmem with h | h | h <;> cases h

/-- Whoever commits a connection behind a write that was given up on it is another data operation, and it
calls for the commit behind any call of the operation that gave up. -/
theorem committed_behind {p q t : List (Nat × Event Connection)} {sql : String} {ps : Option (List Value)}
    {c : Cursor} {ys : List (Event Connection)} {last : ConnectionCall} {x : Except Fault last.Answer}
    (hsplit : ((Setup.sqlite path o ids).play ms).past =
      p ++ (j, .answered (.execute v sql ps) (.ok c)) :: (q ++ (j, .answered last x) :: t))
    (hw : writes sql = true) (hys : Sqlite.Abandons v c ys)
    (hq : ys <+: eventsOf j (q ++ (j, .answered last x) :: t))
    (hk : (k, .answered (.commit v) (.ok ())) ∈ q ++ (j, .answered last x) :: t) :
    k ≠ j ∧ (k, .called (.commit v)) ∈ t ∧
      ∃ job, ((Setup.sqlite path o ids).play ms).jobs[k]? = some job ∧ job.request.IsData := by
  have hk' : (k, .answered (.commit v) (.ok ())) ∈ ((Setup.sqlite path o ids).play ms).past := by
    rw [hsplit]
    exact List.mem_append_right _ (List.mem_cons_of_mem _ hk)
  obtain ⟨jobj, hjobj, hdataj⟩ := executed_by_data hw (hsplit ▸ List.mem_append_right _ List.mem_cons_self)
  obtain ⟨hfound, huncommitted⟩ := gaveUp_uncommitted hjobj hdataj hsplit hw hys hq
  obtain ⟨jobk, hjobk, hdatak⟩ := committed_by_data hjobj hsplit trivial hfound hk
  have hkj : k ≠ j := fun h => huncommitted (h ▸ hk')
  obtain ⟨a, b, hcall, -⟩ := ((Setup.sqlite path o ids).play_answered ms).world.history _ _ _ hk'
  have hcalled : (k, .called (.commit v)) ∈ ((Setup.sqlite path o ids).play ms).past := by
    show _ ∈ ((Setup.sqlite path o ids).play ms).pool.world.history
    rw [hcall]
    simp
  have hlater := play_behind (c := Setup.sqlite path o ids) (f := .answered (.commit v) (.ok ()))
    (g := .called (.commit v)) ⟨jobj, hjobj, hdataj.1⟩ ⟨jobk, hjobk, hdatak.1⟩ hkj hsplit trivial trivial trivial
    trivial hk hcalled
  exact ⟨hkj, hlater, jobk, hjobk, hdatak⟩

/-- Where an operation gave a write up before a commit, its statement still pends, or another operation
called for a commit before. -/
theorem gaveUp_pends (hjob : ((Setup.sqlite path o ids).play ms).jobs[i]? = some job)
    (hdata : job.request.IsData)
    (hsplit : ((Setup.sqlite path o ids).play ms).past = a ++ (i, .called (.commit v)) :: b)
    (hgave : GaveUp v a j) : j ≠ i ∧ ((∃ sql, Pends v a j sql) ∨
      ∃ k job' c d, ((Setup.sqlite path o ids).play ms).jobs[k]? = some job' ∧ job'.request.IsData ∧
        a = c ++ (k, .called (.commit v)) :: d ∧ GaveUp v c j) := by
  obtain ⟨p, q, sql, ps, c, ys, rfl, hw, hys, fs, hfs⟩ := hgave
  obtain ⟨failing, f, hfails⟩ := hys.fails
  obtain ⟨zs, last, x, rfl⟩ := hys.answered
  obtain ⟨hunfailed, hunanswered⟩ := unfailed_before_commit hjob hdata hsplit
  refine ⟨fun hji => hunfailed failing f ?_, ?_⟩
  · rw [← hji]
    refine List.mem_append_right _ (List.mem_cons_of_mem _ (mem_eventsOf.1 ?_))
    rw [← hfs]
    exact List.mem_append_left _ hfails
  rw [List.append_assoc] at hfs
  obtain ⟨q, t, rfl, rfl, -⟩ := eventsOf_split hfs.symm
  by_cases hcommitted : ∃ k, (k, .answered (.commit v) (.ok ())) ∈ q ++ (j, .answered last x) :: t
  · obtain ⟨k, hk⟩ := hcommitted
    have hpast : ((Setup.sqlite path o ids).play ms).past = p ++ (j, .answered (.execute v sql ps) (.ok c)) ::
        (q ++ (j, .answered last x) :: (t ++ (i, .called (.commit v)) :: b)) := by
      rw [hsplit]
      simp
    obtain ⟨hkj, hcalled, job', hjob', hdata'⟩ := committed_behind hpast hw hys
      (by simp [eventsOf_append, eventsOf_cons_own])
      (by simpa using List.mem_append_left ((i, .called (.commit v)) :: b) hk)
    have hk' : (k, .answered (.commit v) (.ok ())) ∈ p ++ (j, .answered (.execute v sql ps) (.ok c)) ::
        (q ++ (j, .answered last x) :: t) := List.mem_append_right _ (List.mem_cons_of_mem _ hk)
    have hki : k ≠ i := fun h => hunanswered v (.ok ()) (h ▸ hk')
    -- the call came before the commit: its answer did, and the lock keeps the two operations apart
    have hcalled : (k, .called (.commit v)) ∈ t := by
      rcases List.mem_append.1 hcalled with h | h
      · exact h
      · rcases List.mem_cons.1 h with h | h
        · exact absurd (Prod.mk.inj h).1 hki
        · exact absurd (play_apart (c := Setup.sqlite path o ids) (f := .called (.commit v)) ⟨job', hjob', hdata'.1⟩
            ⟨job, hjob, hdata.1⟩ hsplit hk' h trivial trivial trivial).symm hki
    obtain ⟨t, d, rfl⟩ := List.append_of_mem hcalled
    refine .inr ⟨k, job', p ++ (j, .answered (.execute v sql ps) (.ok c)) ::
      (q ++ (j, .answered last x) :: t), d, hjob', hdata', by simp, ?_⟩
    exact ⟨p, _, sql, ps, c, _, rfl, hw, hys, by simp [eventsOf_append, eventsOf_cons_own]⟩
  · exact .inl ⟨sql, p, _, ps, c, rfl, hw, fun k hk => hcommitted ⟨k, hk⟩⟩

/-- A data operation commits its own statement alone in a run exactly when none commits behind a write that
was given up on the connection. -/
theorem play_commitsOwn_iff (path : String) (o : Sqlite.Options) (ids : IdSource)
    (ms : List (Move ConnectionReturn)) :
    ((Setup.sqlite path o ids).play ms).CommitsOwn ↔
      ∀ i job v a b, ((Setup.sqlite path o ids).play ms).jobs[i]? = some job → job.request.IsData →
        ((Setup.sqlite path o ids).play ms).past = a ++ (i, .called (.commit v)) :: b → ∀ j, ¬ GaveUp v a j := by
  constructor
  · intro hown i job v a
    -- by induction on what came before the commit: the first commit behind the write has it pending
    induction hlen : a.length using Nat.strongRecOn generalizing i job a with
    | ind n ih =>
      intro b hjob hdata hsplit j hgave
      subst hlen
      obtain ⟨hji, ⟨sql, hpends⟩ | ⟨k, job', c, d, hjob', hdata', rfl, hgave'⟩⟩ :=
        gaveUp_pends hjob hdata hsplit hgave
      · obtain ⟨s, -, hs⟩ := hown i job v a b hjob hdata hsplit
        exact hji ((hs j sql).1 hpends).1
      · rw [List.append_assoc, List.cons_append] at hsplit
        exact ih c.length (by simp) k job' c rfl _ hjob' hdata' hsplit j hgave'
  · intro hnever i job v a b hjob hdata hsplit
    obtain ⟨s, hs, hpends⟩ := own_pends hjob hdata hsplit
    refine ⟨s, hs, fun j sql => ⟨fun h => ?_, ?_⟩⟩
    · by_cases hji : j = i
      · subst hji
        exact ⟨rfl, (hpends sql).1 h⟩
      · exact absurd (other_gaveUp hjob hdata hsplit h hji) (hnever i job v a b hjob hdata hsplit j)
    · rintro ⟨rfl, hsql⟩
      exact (hpends sql).2 hsql

/-- A deletion that could not be committed is reported as failed, and the next deletion commits it with its
own statement. -/
theorem not_commitsOwn_failed_commit :
    let r := (Setup.sqlite "a.db" {} fun n => .ok (.int n)).play
      [.start ⟨.connect, []⟩, .turn 0,
        .start ⟨.delete (.text "t") (.map [(.text "id", .int 1)]),
          [{}, {}, { outcome := .error ⟨.engine .operational, "database is locked"⟩ }]⟩, .turn 0,
        .start ⟨.delete (.text "t") (.map [(.text "id", .int 2)]), []⟩, .turn 0]
    (∃ reply e, (1, .replied reply) ∈ r.past ∧ reply.result = .error e) ∧
      (2, .answered (.commit (.text "h1")) (.ok ())) ∈ r.past ∧ ¬ r.CommitsOwn := by
  intro r
  have failed : r.past[23]? = some (1, .replied
      ⟨.error (.storage .delete ⟨.engine .operational, "database is locked"⟩), none⟩) := rfl
  have commits : r.past[32]? = some (2, .called (.commit (.text "h1"))) := rfl
  have committed : r.past[33]? = some (2, .answered (.commit (.text "h1")) (.ok ())) := rfl
  have executed : (r.past.take 32)[16]? = some (1, .answered
      (.execute (.text "h1") "DELETE FROM t WHERE id = ?" (some [.int 1])) (.ok ⟨.ok 1⟩)) := rfl
  have uncommitted : ((r.past.take 32).drop 17).all (fun x => !x.2.commits) = true := rfl
  have pends : Pends (.text "h1") (r.past.take 32) 1 "DELETE FROM t WHERE id = ?" :=
    ⟨_, _, _, _, split_getElem? executed, rfl,
      fun i h => absurd (List.all_eq_true.1 uncommitted _ h) Bool.false_ne_true⟩
  refine ⟨⟨_, _, List.mem_of_getElem? failed, rfl⟩, List.mem_of_getElem? committed, fun hown => ?_⟩
  obtain ⟨s, -, hs⟩ := hown 2 _ (.text "h1") _ _ rfl ⟨nofun, nofun⟩ (split_getElem? commits)
  exact absurd ((hs 1 _).1 pends).1 (by decide)

end Setup

end RecordStore
