/-
Failed calls do not harm the client. In every run, an operation whose storage call fails makes no other
call: it reports the fault, wrapped if it is one of the engine, leaves the client as it is and gives the
lock back, and the next operation works on the handle that the client had. The same is true of
connecting, which wraps faults of the operating system as well.
-/
import RecordStore.Proofs.Client.Failing
import RecordStore.Proofs.Lifecycle.Runs
import RecordStore.Proofs.Schedule.Followed

namespace RecordStore

/-! ## Data operations -/

/-- The handles that storage calls come back with: openings do. -/
def StorageCall.came : (k : Storage.Call) → Storage.Answer k → Option Value
  | .open _, v => some v
  | _, _ => none

/-- Every operation makes the client a connected one on the handle its own opening came back with. -/
theorem Request.operation_tells (path : String) (r : Request) :
    (r.operation path).Tells StorageCall.came none := by
  by_cases hr : r = .connect
  · subst hr
    intro s
    cases s with
    | unconnected =>
      intro result
      cases result with
      | ok handle => exact ⟨rfl, trivial⟩
      | error f => trivial
    | connected | closed => trivial
  · have hguards := Request.operation_guards path hr
    revert hguards
    cases r.operation path with
    | free start => exact False.elim
    | guarded refusal body => exact fun hbody v => (hbody v).tells

/-- A program that uses a handle makes its calls on it and leaves the client alone. -/
theorem Program.Ends.uses {α : Type} {p : Program Storage α} {es : List (Event Storage)} {a : α} {v : Value}
    (h : p.Ends es a) (hp : p.Uses v) :
    ∀ e ∈ es, (∀ s, e ≠ .became s) ∧ ∀ k, e = .called k → k.Uses v := by
  induction p generalizing es with
  | done b =>
    rw [h.1]
    exact List.forall_mem_nil _
  | call k next ih =>
    obtain ⟨r, fs, rfl, h⟩ := h
    refine List.forall_mem_cons.2 ⟨⟨nofun, fun k' hk => ?_⟩, List.forall_mem_cons.2 ⟨⟨nofun, nofun⟩, ih r h (hp.2 r)⟩⟩
    cases hk
    exact hp.1
  | draw next ih =>
    obtain ⟨r, fs, rfl, h⟩ := h
    exact List.forall_mem_cons.2 ⟨⟨nofun, nofun⟩, ih r h (hp r)⟩
  | log _ next ih =>
    obtain ⟨fs, rfl, h⟩ := h
    exact List.forall_mem_cons.2 ⟨⟨nofun, nofun⟩, ih h hp⟩
  | connect _ _ => exact hp.1.elim
  | close _ _ => exact hp.1.elim

/-- A data operation never changes the client and makes its calls on the handle it found. -/
theorem Request.course_uses {path : String} {r : Request} (hr : r.IsData) {es : List (Event Storage)}
    {v : Option Value} {at? : Option (Phase Storage)} (hcourse : (r.operation path).Course es v at?) :
    (∀ s, .became s ∉ es) ∧ ∀ k, .called k ∈ es → ∃ w, v = some w ∧ k.Uses w := by
  have huses := Request.operation_usesHandle path hr
  revert hcourse huses
  cases r.operation path with
  | free start => exact fun _ hfree => hfree.elim
  | guarded refusal body =>
    intro hcourse huses
    constructor
    · intro s hmem
      obtain ⟨w, gs, a, -, hends, hgs⟩ := hcourse.happens hmem trivial nofun
      exact (hends.uses (huses.2 w) _ hgs).1 s rfl
    · intro k hmem
      obtain ⟨w, gs, a, hw, hends, hgs⟩ := hcourse.happens hmem trivial nofun
      exact ⟨w, hw, (hends.uses (huses.2 w) _ hgs).2 k rfl⟩

/-- A connecting operation whose opening fails never changes the client. -/
theorem Operation.connect_keeps {path : String} {es : List (Event Storage)} {v : Option Value}
    (hcourse : (Operation.connect path).Course es v none) {k : StorageCall} {f : Fault}
    (hfailed : .answered k (.error f) ∈ es) (s : Lifecycle) : .became s ∉ es := by
  rw [Operation.connect_eq] at hcourse
  cases hcourse with
  | @ended start now gs a hends =>
    cases now with
    | connected | closed =>
      obtain ⟨rfl, -⟩ := hends
      simp at hfailed
    | unconnected =>
      obtain ⟨r, fs, rfl, hends⟩ := hends
      cases r with
      | error f' =>
        obtain ⟨rfl, -⟩ := hends
        simp
      | ok handle =>
        obtain ⟨_, rfl, _, rfl, rfl, -⟩ := hends
        simp at hfailed

/-! ## Turns -/

/-- A guarded operation that begins on a connected client whose lock is free enters at once. -/
theorem Pool.take_enters {B : Scripted} (ids : IdSource) {p : Pool B} (hp : p.Orderly) {v : Value}
    (hc : p.world.client = ⟨.connected, some v⟩) (hl : p.world.locked = false) (id : Nat)
    (script : List (Entry B.Return)) (refusal : Reply) (body : Value → Program B.toBoundary Ending) :
    ∃ rest, (take ids p { id, phase := .start (.guarded refusal body), script }).world.history =
      p.world.history ++ (id, .began .connected) :: (id, .entered .connected) :: rest := by
  have hholders : p.holders = [] := by
    rcases hp.owned with ⟨htrue, -⟩ | ⟨-, hholders, -⟩
    · exact absurd (htrue.symm.trans hl) nofun
    · exact hholders
  let w : World B.toBoundary := { p.world.record id (.began .connected) with locked := true }
  have hlent : Lent { p with world := w.record id (.entered .connected) } := ⟨hp.waiting, rfl, hholders⟩
  obtain ⟨es, after, -, hgrows, -⟩ := goHolding_turn ids id hlent script (body v)
  refine ⟨es.map fun e => (id, e), ?_⟩
  have htake : take ids p { id, phase := .start (.guarded refusal body), script } =
      goHolding ids { p with world := w.record id (.entered .connected) } id script (body v) := by
    simp [take, enter, hc, hl, World.record, w]
  rw [htake, hgrows.history]
  simp [w, World.record]

/-- A job that starts last and takes its first turn at once. -/
theorem Run.start_turn {B : Scripted} (c : Setup B) (r : Run B) (job : Job B.Return) :
    (r.move c (.start job)).move c (.turn r.pool.ready.length) =
      ⟨r.jobs ++ [job], Pool.take c.ids r.pool
        ⟨r.jobs.length, .start (c.operation job.request), 0, job.script⟩⟩ := by
  have herase (t : Task B) : (r.pool.ready ++ [t]).eraseIdx r.pool.ready.length = r.pool.ready := by
    rw [List.eraseIdx_append_of_length_le (Nat.le_refl _), Nat.sub_self]
    exact List.append_nil _
  simp [Run.move, Pool.enqueue, herase]

/-! ## Runs -/

/-- How a job leaves the client behind in a run, `a` being what happened until a call of it failed and `b`
what has happened since. -/
structure Run.Unharmed (c : Setup ScriptedStorage) (r : Run ScriptedStorage) (i : Nat) (a b : History) :
    Prop where
  /-- The job never changed the client. -/
  kept : ∀ s, (i, .became s) ∉ r.history
  /-- The client is the one that the history tells of. -/
  told : r.pool.world.client = told StorageCall.came r.history
  /-- The job is over. -/
  ended : ∀ t ∈ r.pool.tasks, t.id ≠ i
  /-- If the lock is taken, another job has it. -/
  handed : r.pool.world.locked = true → ∃ t ∈ r.pool.ready, t.id ≠ i ∧ t.phase.claims = true
  /-- A data operation that entered since then works on the handle that the client had when the call
  failed, unless the client changed in between. -/
  next : ∀ {j : Nat} {job : Job Value} {m n : History}, r.jobs[j]? = some job → job.request.IsData →
    b = m ++ (j, .entered .connected) :: n → (∀ e ∈ m, ∀ s, e.2 ≠ .became s) →
      ∃ v, RecordStore.told StorageCall.came a = ⟨.connected, some v⟩ ∧
        ∀ k, (j, .called k) ∈ r.history → k.Uses v
  /-- A data operation that starts now enters at once on the handle that the client has, if the lock is
  free. -/
  served : ∀ {job : Job Value} {v : Value}, job.request.IsData → r.pool.world.locked = false →
    r.pool.world.client = ⟨.connected, some v⟩ →
      let r' := (r.move c (.start job)).move c (.turn r.pool.ready.length)
      ∃ rest, r'.history = r.history ++
          (r.jobs.length, .began .connected) :: (r.jobs.length, .entered .connected) :: rest ∧
        ∀ k, (r.jobs.length, .called k) ∈ r'.history → k.Uses v

namespace Setup

variable {path : String} {ids : IdSource} {ms : List (Move Value)} {i : Nat} {job : Job Value}

theorem direct_tells (path : String) (ids : IdSource) (r : Request) :
    ((Setup.direct path ids).operation r).Tells StorageCall.came none := by
  rw [direct_operation]
  exact r.operation_tells path

/-- A data operation that entered works on the handle that the client had then. -/
theorem play_works_on (hjob : ((Setup.direct path ids).play ms).jobs[i]? = some job)
    (hdata : job.request.IsData) {a b : History}
    (hentered : ((Setup.direct path ids).play ms).history = a ++ (i, .entered .connected) :: b) :
    ∃ v, told StorageCall.came a = ⟨.connected, some v⟩ ∧
      ∀ k, (i, .called k) ∈ ((Setup.direct path ids).play ms).history → k.Uses v := by
  obtain ⟨v, at?, hcourse, htold⟩ := play_entered (direct_tells path ids) hjob hentered
  rw [direct_operation] at hcourse
  refine ⟨v, htold, fun k hk => ?_⟩
  obtain ⟨w, hw, hk⟩ := (Request.course_uses hdata hcourse).2 k (mem_eventsOf.2 hk)
  exact Option.some.inj hw ▸ hk

/-- A data operation that starts while nobody has the lock enters at once. -/
theorem play_serves_next {v : Value} (hdata : job.request.IsData)
    (hl : ((Setup.direct path ids).play ms).pool.world.locked = false)
    (hc : ((Setup.direct path ids).play ms).pool.world.client = ⟨.connected, some v⟩) :
    let c := Setup.direct path ids
    let r := c.play ms
    let r' := (r.move c (.start job)).move c (.turn r.pool.ready.length)
    ∃ rest, r'.history = r.history ++
        (r.jobs.length, .began .connected) :: (r.jobs.length, .entered .connected) :: rest ∧
      ∀ k, (r.jobs.length, .called k) ∈ r'.history → k.Uses v := by
  intro c r r'
  have huses := Request.operation_usesHandle path hdata
  have hop : ∃ refusal body, c.operation job.request = .guarded refusal body := by
    rw [direct_operation]
    cases h : job.request.operation path with
    | free start => rw [h] at huses; exact huses.elim
    | guarded refusal body => exact ⟨refusal, body, rfl⟩
  obtain ⟨refusal, body, hop⟩ := hop
  have hplay : r' = c.play (ms ++ [.start job, .turn r.pool.ready.length]) := by
    rw [List.append_cons, play_concat, play_concat]
  have hr' : r' = ⟨r.jobs ++ [job], Pool.take ids r.pool
      ⟨r.jobs.length, .start (.guarded refusal body), 0, job.script⟩⟩ := by
    rw [← hop]
    exact r.start_turn c job
  obtain ⟨rest, hrest⟩ := Pool.take_enters ids (play_oneAtATime c ms).orderly hc hl r.jobs.length
    job.script refusal body
  have hhistory : r'.history = r.history ++
      (r.jobs.length, .began .connected) :: (r.jobs.length, .entered .connected) :: rest := by
    rw [hr']
    exact hrest
  refine ⟨rest, hhistory, ?_⟩
  have hjob : (c.play (ms ++ [.start job, .turn r.pool.ready.length])).jobs[r.jobs.length]? = some job := by
    rw [← hplay, hr']
    exact List.getElem?_concat_length
  rw [List.append_cons, hplay] at hhistory
  obtain ⟨w, htold, hcalls⟩ := play_works_on hjob hdata hhistory
  have hbegan : told StorageCall.came (r.history ++ [(r.jobs.length, .began .connected)]) = ⟨.connected, some v⟩ := by
    have htold : (c.play ms).pool.world.client = told StorageCall.came r.history :=
      play_told (c := c) (direct_tells path ids) ms
    rw [told_append (by simp), ← htold]
    exact hc
  obtain rfl : w = v := by
    rw [hbegan] at htold
    cases htold
    rfl
  rw [hplay]
  exact hcalls

/-- A job that has replied does not stand in the pool any more, and has given the lock back. -/
theorem play_over {reply : Reply} (hreplied : (i, .replied reply) ∈ ((Setup.direct path ids).play ms).history) :
    let r := (Setup.direct path ids).play ms
    (∀ t ∈ r.pool.tasks, t.id ≠ i) ∧
      (r.pool.world.locked = true → ∃ t ∈ r.pool.ready, t.id ≠ i ∧ t.phase.claims = true) := by
  intro r
  have hover : ∀ t ∈ r.pool.tasks, t.id ≠ i := by
    rintro t ht rfl
    have hfollowed := play_followed (c := Setup.direct path ids) (direct_tells path ids) ms
    obtain ⟨op, v, -, hcourse, -⟩ := (hfollowed.tasks _ (List.mem_map_of_mem ht)).course
    exact hcourse.unreplied reply (mem_eventsOf.2 hreplied)
  refine ⟨hover, fun hl => ?_⟩
  rcases (play_oneAtATime (Setup.direct path ids) ms).orderly.owned with ⟨-, t, ht⟩ | ⟨hfree, -⟩
  · obtain ⟨hready, hclaims⟩ := List.mem_filter.1 (ht ▸ List.mem_singleton_self t)
    exact ⟨t, hready, hover t (List.mem_append_left _ hready), hclaims⟩
  · exact absurd (hl.symm.trans hfree) nofun

/-- In every run, a data operation or a connecting one whose storage call fails only replies then, with
the fault it reports, and does not harm the client. -/
theorem play_failed {k : StorageCall} {f : Fault} {a b : History}
    (hjob : ((Setup.direct path ids).play ms).jobs[i]? = some job) (notClose : job.request ≠ .close)
    (failed : ((Setup.direct path ids).play ms).history = a ++ (i, .answered k (.error f)) :: b) :
    let c := Setup.direct path ids
    (∃ reply failure, eventsOf i b = [.replied reply] ∧ reply.result = .error failure ∧
      (job.request ≠ .connect →
        if f.isEngine then (∃ purpose, failure = .storage purpose f) ∧ failure.Wraps f
        else failure = .passed f) ∧
      (job.request = .connect →
        if f.isEngine || f.isSystem then failure = .cannotOpen f ∧ failure.Wraps f
        else failure = .passed f)) ∧
      (c.play ms).Unharmed c i a b := by
  intro c
  have hevents : eventsOf i (c.play ms).history = eventsOf i a ++ .answered k (.error f) :: eventsOf i b := by
    rw [failed, eventsOf_append, eventsOf_cons_own]
  obtain ⟨v, at?, hcourse, -⟩ := play_course (direct_tells path ids) hjob
  rw [direct_operation] at hcourse
  have hstops : (job.request.operation path).Course (eventsOf i (c.play ms).history) v at? := hcourse
  rw [hevents] at hstops
  obtain ⟨reply, hb, hreply⟩ := hstops.stops (job.request.operation_stops path)
  have hreplied : (i, .replied reply) ∈ (c.play ms).history := by
    rw [← mem_eventsOf, hevents, hb]
    simp
  obtain ⟨hover, hhanded⟩ := play_over hreplied
  have hfailed : .answered k (.error f) ∈ eventsOf i (c.play ms).history := by
    rw [hevents]
    simp
  refine ⟨⟨reply, _, hb, hreply, fun hr => ?_, fun hr => ?_⟩, ?_⟩
  · exact Request.reported_data ⟨hr, notClose⟩ k f
  · rw [hr]
    exact Request.reported_connect k f
  · refine ⟨fun s hs => ?_, play_told (c := c) (direct_tells path ids) ms, hover, hhanded, ?_, ?_⟩
    · by_cases hr : job.request = .connect
      · obtain ⟨v, hwhole, -⟩ := play_replied (direct_tells path ids) hjob hreplied
        rw [direct_operation, hr] at hwhole
        exact Operation.connect_keeps hwhole hfailed s (mem_eventsOf.2 hs)
      · exact (Request.course_uses ⟨hr, notClose⟩ hcourse).1 s (mem_eventsOf.2 hs)
    · rintro j job' m n hjob' hdata rfl hm
      obtain ⟨v, htold, hcalls⟩ := play_works_on hjob' hdata
        (a := a ++ (i, .answered k (.error f)) :: m) (b := n) (by rw [failed]; simp)
      have hkept : ∀ e ∈ (i, .answered k (.error f)) :: m, ∀ s, e.2 ≠ .became s :=
        List.forall_mem_cons.2 ⟨by simp, hm⟩
      rw [told_append hkept] at htold
      exact ⟨v, htold, hcalls⟩
    · exact fun hdata hl hc => play_serves_next hdata hl hc

/-- The engine fails to search while a table is to be defined, which then works on the same handle. -/
theorem play_failed_searching :
    let r := (Setup.direct "a.db" fun n => .ok (.int n)).play
      [.start ⟨.connect, []⟩, .turn 0, .start ⟨.find (.text "t") .null ⟨.null, .null, .null⟩,
          [{ ticks := 1, outcome := .error ⟨.engine .operational, "disk I/O error"⟩ }]⟩,
        .start ⟨.createTable (.text "u") (.map []), []⟩, .turn 0, .turn 0, .turn 0, .turn 0]
    ∃ a k f b, r.history = a ++ (1, .answered k (.error f)) :: b ∧
      (∃ reply failure, eventsOf 1 b = [.replied reply] ∧ reply.result = .error failure ∧ failure.Wraps f) ∧
      r.Unharmed (Setup.direct "a.db" fun n => .ok (.int n)) 1 a b ∧
      (2, .called (.execute (.text "h1") ⟨"CREATE TABLE IF NOT EXISTS u ()", []⟩)) ∈ r.history := by
  intro r
  have answered : r.history[10]? = some (1, .answered (.queryAll (.text "h1") ⟨"SELECT * FROM t", []⟩)
    (.error ⟨.engine .operational, "disk I/O error"⟩)) := rfl
  have defined : r.history[13]? =
    some (2, .called (.execute (.text "h1") ⟨"CREATE TABLE IF NOT EXISTS u ()", []⟩)) := rfl
  obtain ⟨a, b, failed, -⟩ := split_eraseIdx answered
  have hjob : r.jobs[1]? = some ⟨.find (.text "t") .null ⟨.null, .null, .null⟩,
    [{ ticks := 1, outcome := .error ⟨.engine .operational, "disk I/O error"⟩ }]⟩ := rfl
  obtain ⟨⟨reply, failure, hb, hreply, hdata, -⟩, hunharmed⟩ := play_failed hjob nofun failed
  exact ⟨a, _, _, b, failed, ⟨reply, failure, hb, hreply, (hdata nofun).2⟩, hunharmed,
    List.mem_of_getElem? defined⟩

end Setup

end RecordStore
