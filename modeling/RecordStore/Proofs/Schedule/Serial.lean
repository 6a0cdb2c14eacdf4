/-
Operations that start together on a client with a free lock have the effects of the same operations
served one after the other, in the order in which they start: the same replies, the same client,
and the same calls, drawn identifiers, changes of the client and log records in the same order. How
often each call is suspended makes no difference on either side.
-/
import RecordStore.Proofs.Schedule.Line
import Mathlib.Data.List.Nodup

namespace RecordStore

variable {B : Scripted}

/-! ## Suspensions -/

/-- The entry without its suspensions. -/
def Entry.prompt {R : Type} (e : Entry R) : Entry R := { e with ticks := 0 }

/-- The job with calls that are never suspended. -/
def Job.prompt {R : Type} (job : Job R) : Job R :=
  { job with script := job.script.map Entry.prompt }

/-- Scripts that differ in suspensions alone give a call entries that do. -/
theorem nextEntry_prompt (c : B.Call) {script script' : List (Entry B.Return)}
    (h : script.map Entry.prompt = script'.map Entry.prompt) :
    (B.nextEntry c script).1.outcome = (B.nextEntry c script').1.outcome ∧
      (B.nextEntry c script).2.map Entry.prompt = (B.nextEntry c script').2.map Entry.prompt := by
  cases script with
  | nil =>
    cases script' with
    | nil => exact ⟨rfl, rfl⟩
    | cons e es => cases h
  | cons e es =>
    cases script' with
    | nil => cases h
    | cons e' es' =>
      obtain ⟨he, hes⟩ := List.cons.inj h
      have outcome : e.prompt.outcome = e'.prompt.outcome := congrArg Entry.outcome he
      unfold Scripted.nextEntry
      dsimp only
      split
      · exact ⟨rfl, h⟩
      · exact ⟨outcome, hes⟩

/-- Alone, a program runs to its end without regard to suspensions. -/
theorem complete_prompt {α : Type} (ids : IdSource) (task : Nat) (p : Program B.toBoundary α)
    (w : World B.toBoundary) {script script' : List (Entry B.Return)}
    (h : script.map Entry.prompt = script'.map Entry.prompt) :
    (complete ids task w script p).1 = (complete ids task w script' p).1 ∧
      (complete ids task w script p).2.1 = (complete ids task w script' p).2.1 := by
  induction p generalizing w script script' with
  | done a => exact ⟨rfl, rfl⟩
  | log r next ih => exact ih _ h
  | draw next ih => exact ih _ _ h
  | connect handle next ih => exact ih _ h
  | close next ih => exact ih _ h
  | call c next ih =>
    obtain ⟨ho, hs⟩ := nextEntry_prompt c h
    have hr (n : Nat) : (B.nextEntry c script).1.result c n = (B.nextEntry c script').1.result c n := by
      unfold Entry.result
      rw [ho]
    unfold complete
    dsimp only
    rw [hr]
    exact ih _ _ hs

theorem Operation.alone_prompt (ids : IdSource) (task : Nat) (w : World B.toBoundary)
    (op : Operation B.toBoundary) {script script' : List (Entry B.Return)}
    (h : script.map Entry.prompt = script'.map Entry.prompt) :
    (op.alone ids task w script).1 = (op.alone ids task w script').1 ∧
      (op.alone ids task w script).2.1 = (op.alone ids task w script').2.1 := by
  cases op with
  | free start =>
    obtain ⟨hw, hr⟩ := complete_prompt ids task (start w.client.state)
      (w.record task (.began w.client.state)) h
    simp only [Operation.alone, hw, hr, and_self]
  | guarded refusal body =>
    cases hc : w.client with
    | mk state held =>
      cases state with
      | connected =>
        cases held with
        | some handle =>
          obtain ⟨hw, hr⟩ := complete_prompt ids task (body handle)
            ((w.record task (.began .connected)).record task (.entered .connected)) h
          simp only [Operation.alone, World.record_client, hc, hw, hr, and_self]
        | none => simp only [Operation.alone, World.record_client, hc, and_self]
      | _ => simp only [Operation.alone, World.record_client, hc, and_self]

/-! ## One after the other and together -/

namespace Session

/-- Serves requests one after the other; the replies are in the order of the jobs. -/
def serveEach (c : Setup B) (s : Session B.toBoundary) :
    List (Job B.Return) → Session B.toBoundary × List Reply
  | [] => (s, [])
  | job :: jobs =>
    let served := s.serve c job
    let rest := serveEach c served.1 jobs
    (rest.1, served.2.1 :: rest.2)

/-- Sessions that differ at most in when operations began and ended and in who holds the lock. -/
structure Alike {B : Boundary} (s t : Session B) : Prop where
  world : s.world.Alike t.world
  tasks : s.tasks = t.tasks
  reported : s.reported = t.reported

/-- Served alone, a job does what settling its task does; suspensions make no difference. -/
theorem serve_settles (c : Setup B) (hd : c.driver.Passive) {job job' : Job B.Return}
    (h : job.prompt = job'.prompt) (hc : job.request ≠ .connect) {s : Session B.toBoundary}
    {w : World B.toBoundary} (hw : w.Alike s.world) {t : Task B}
    (ht : t = { id := s.tasks, phase := .start (c.operation job.request), script := job.script }) :
    (t.settle c.ids w).1.Alike (s.serve c job').1.world ∧
      (t.settle c.ids w).2 = (s.serve c job').2.1 := by
  have request : job.prompt.request = job'.prompt.request := congrArg Job.request h
  have script : job.prompt.script = job'.prompt.script := congrArg Job.script h
  change job.request = job'.request at request
  have guards := (Request.operation_guards c.path hc).through hd
  obtain ⟨hw, hr⟩ := t.settle_alike c.ids hw
  obtain ⟨hp, hq⟩ := Operation.alone_prompt c.ids s.tasks s.world (c.operation job.request) script
  unfold serve
  rw [← request]
  dsimp only
  rw [← hp, ← hq]
  subst ht
  unfold Setup.operation at hw hr ⊢
  cases ho : (job.request.operation c.path).through c.driver with
  | free start =>
    rw [ho] at guards
    exact guards.elim
  | guarded refusal body =>
    rw [ho] at hw hr
    obtain ⟨ha, hb⟩ := Operation.alone_alike c.ids s.tasks s.world job.script refusal body
    exact ⟨hw.trans ha.symm, hr.trans hb.symm⟩

/-- Served one after the other, jobs do what settling their tasks does. -/
theorem serveEach_settles (c : Setup B) (hd : c.driver.Passive) :
    ∀ {jobs jobs' : List (Job B.Return)}, jobs.map Job.prompt = jobs'.map Job.prompt →
      (∀ job ∈ jobs, job.request ≠ .connect) → ∀ {s : Session B.toBoundary} {w : World B.toBoundary},
      w.Alike s.world →
      (settleAll c.ids w (tasksOf c s.tasks jobs)).1.Alike (s.serveEach c jobs').1.world ∧
        (settleAll c.ids w (tasksOf c s.tasks jobs)).2.map Prod.snd = (s.serveEach c jobs').2 ∧
        (s.serveEach c jobs').1.tasks = s.tasks + jobs.length ∧
        (s.serveEach c jobs').1.reported = s.reported
  | [], [], _, _, s, w, hw => ⟨hw, rfl, rfl, rfl⟩
  | [], _ :: _, h, _, _, _, _ => by cases h
  | _ :: _, [], h, _, _, _, _ => by cases h
  | job :: jobs, job' :: jobs', h, hc, s, w, hw => by
    obtain ⟨hj, hjs⟩ := List.cons.inj h
    obtain ⟨hw, hr⟩ := serve_settles c hd hj (hc job List.mem_cons_self) hw rfl
    obtain ⟨hws, hrs, htasks, hreported⟩ :=
      serveEach_settles c hd hjs (fun job hjob => hc job (List.mem_cons_of_mem _ hjob)) hw
    refine ⟨hws, ?_, htasks.trans ?_, hreported⟩
    · simp only [tasksOf, settleAll, List.map_cons, serveEach, hr]
      exact congrArg _ hrs
    · simp only [serve, List.length_cons]
      omega

theorem tasksOf_id (c : Setup B) :
    ∀ (first : Nat) (jobs : List (Job B.Return)),
      (tasksOf c first jobs).map Task.id = List.range' first jobs.length
  | _, [] => rfl
  | first, job :: jobs => by
    rw [tasksOf, List.map_cons, tasksOf_id c (first + 1) jobs]
    rfl

theorem settleAll_id (ids : IdSource) (w : World B.toBoundary) (ts : List (Task B)) :
    (settleAll ids w ts).2.map Prod.fst = ts.map Task.id := by
  induction ts generalizing w with
  | nil => rfl
  | cons t ts ih => simp only [settleAll, List.map_cons, ih]

theorem tasksOf_waits (c : Setup B) :
    ∀ (first : Nat) (jobs : List (Job B.Return)),
      ∀ t ∈ tasksOf c first jobs, t.waits = true ∧ t.delay = 0 ∧
        ∃ job ∈ jobs, t.phase = .start (c.operation job.request)
  | _, [] => List.forall_mem_nil _
  | first, job :: jobs => by
    intro t ht
    rcases List.mem_cons.1 ht with rfl | ht
    · exact ⟨rfl, rfl, job, List.mem_cons_self, rfl⟩
    · obtain ⟨hw, hdelay, job, hjob, hphase⟩ := tasksOf_waits c (first + 1) jobs t ht
      exact ⟨hw, hdelay, job, List.mem_cons_of_mem _ hjob, hphase⟩

/-- A pool of tasks that have not begun, on a free lock, leads where they settle to. -/
theorem tasksOf_leads (c : Setup B) (hd : c.driver.Passive) {w : World B.toBoundary}
    (hl : w.locked = false) {first : Nat} {jobs : List (Job B.Return)}
    (hc : ∀ job ∈ jobs, job.request ≠ .connect) :
    Pool.Leads c.ids { world := w, ready := tasksOf c first jobs }
      (settleAll c.ids w (tasksOf c first jobs)).1 (settleAll c.ids w (tasksOf c first jobs)).2 := by
  have hwaits := tasksOf_waits c first jobs
  have howner : (tasksOf c first jobs).filter (fun t => !t.waits) = [] :=
    List.filter_eq_nil_iff.2 fun t ht => by simp [(hwaits t ht).1]
  have hwaiting : (tasksOf c first jobs).filter Task.waits = tasksOf c first jobs :=
    List.filter_eq_self.2 fun t ht => (hwaits t ht).1
  have hline : Pool.line { world := w, ready := tasksOf c first jobs } = tasksOf c first jobs := by
    simp only [Pool.line, Pool.owner, Pool.waiting, howner, hwaiting, List.nil_append]
  refine ⟨⟨⟨fun t ht => ?_, fun t ht => ?_, List.forall_mem_nil _⟩, .inr ⟨hl, howner, rfl⟩⟩, ?_, ?_⟩
  · rw [List.append_nil] at ht
    obtain ⟨-, -, job, hjob, hphase⟩ := hwaits t ht
    rw [hphase]
    exact (Request.operation_guards c.path (hc job hjob)).through hd
  · exact (hwaits t (List.mem_filter.1 ht).1).2.1
  · rw [hline]
    exact .refl _
  · rw [hline]
    exact .refl _

/-- A pool finds each reply by its task. -/
theorem find_reply {p : Pool B} {rs : List (Nat × Reply)} (hp : p.replies.Perm rs)
    (hn : (rs.map Prod.fst).Nodup) {r : Nat × Reply} (hr : r ∈ rs) :
    (p.finished.find? (·.id == r.1)).map Finished.reply = some r.2 := by
  have hmem : r ∈ p.replies := hp.mem_iff.2 hr
  obtain ⟨f, hf, rfl⟩ := List.mem_map.1 hmem
  cases hfind : p.finished.find? (·.id == f.id) with
  | none => simpa using List.find?_eq_none.1 hfind f hf
  | some g =>
    have hid : g.id = f.id := by simpa using List.find?_some hfind
    have hg : (g.id, g.reply) ∈ rs :=
      hp.mem_iff.1 (List.mem_map.2 ⟨g, List.mem_of_find?_eq_some hfind, rfl⟩)
    have heq := List.inj_on_of_nodup_map hn hg hr hid
    rw [Option.map_some]
    exact congrArg (fun x => some x.2) heq

/-- Operations that start together on a client with a free lock have the effects of the same
operations served one after the other, however often each call is suspended on either side: the
same reply for each, the same client and counters, and the same calls, drawn identifiers, changes
of the client and log records in the same order. Afterwards the lock is free. Connecting is left
out, and the driver leaves the client alone, as both drivers do (`Driver.direct_passive`,
`Sqlite.driver_passive`). -/
theorem serveTogether_alike_serveEach (c : Setup B) (passive : c.driver.Passive)
    (s : Session B.toBoundary) (unlocked : s.world.locked = false)
    {jobs jobs' : List (Job B.Return)} (same : jobs.map Job.prompt = jobs'.map Job.prompt)
    (noConnect : ∀ job ∈ jobs, job.request ≠ .connect) :
    (s.serveTogether c jobs).2 = (s.serveEach c jobs').2 ∧
      (s.serveTogether c jobs).1.Alike (s.serveEach c jobs').1 ∧
      (s.serveTogether c jobs).1.world.locked = false := by
  obtain ⟨hw, hrs, htasks, hreported⟩ :=
    serveEach_settles c passive same noConnect (World.Alike.refl s.world)
  obtain ⟨hlocked, halike, hreplies⟩ := Pool.run_leads c.ids _ (tasksOf_leads c passive unlocked noConnect)
  have hid := (settleAll_id c.ids s.world (tasksOf c s.tasks jobs)).trans (tasksOf_id c s.tasks jobs)
  -- tasks end in another order than they began, but no two of them have one number
  have hnodup : ((settleAll c.ids s.world (tasksOf c s.tasks jobs)).2.map Prod.fst).Nodup := by
    rw [hid]
    exact List.nodup_range'
  refine ⟨?_, ⟨halike.trans hw, htasks.symm, hreported.symm⟩, hlocked⟩
  calc (s.serveTogether c jobs).2
      = ((tasksOf c s.tasks jobs).map Task.id).filterMap fun i =>
          ((Pool.run c.ids { world := s.world, ready := tasksOf c s.tasks jobs }).finished.find?
            (·.id == i)).map Finished.reply := by rw [List.filterMap_map]; rfl
    _ = (settleAll c.ids s.world (tasksOf c s.tasks jobs)).2.filterMap fun r => some r.2 := by
        rw [← settleAll_id c.ids s.world, List.filterMap_map]
        exact List.filterMap_congr fun r hr => find_reply hreplies hnodup hr
    _ = (s.serveEach c jobs').2 := by rw [← hrs]; exact congrFun List.filterMap_eq_map _

/-- A search that is suspended, a closing behind it, and a creation that finds the client closed. -/
theorem serveTogether_alike_serveEach_closing :
    let c : Setup ScriptedStorage := ⟨"a.db", Driver.direct, fun n => .ok (.int n)⟩
    let s : Session Storage := { world := { client := ⟨.connected, some (.text "h1")⟩ } }
    let jobs : List (Job Value) :=
      [⟨.find (.text "t") .null ⟨.null, .null, .null⟩, [{ ticks := 2 }]⟩, ⟨.close, [{ ticks := 1 }]⟩,
        ⟨.create (.text "t") (.map []), []⟩]
    c.driver.Passive ∧ s.world.locked = false ∧
      jobs.map Job.prompt = (jobs.map Job.prompt).map Job.prompt ∧
      (∀ job ∈ jobs, job.request ≠ .connect) ∧
      (s.serveTogether c jobs).2 =
        [⟨.ok (.list []), none⟩, ⟨.ok .null, none⟩, ⟨.error .notConnected, some (.map [])⟩] ∧
      (s.serveTogether c jobs).1.Alike (s.serveEach c (jobs.map Job.prompt)).1 ∧
      (s.serveTogether c jobs).1.world.locked = false := by
  intro c s jobs
  have noConnect : ∀ job ∈ jobs, job.request ≠ .connect := by
    simp [jobs]
  obtain ⟨replies, alike, free⟩ :=
    serveTogether_alike_serveEach c Driver.direct_passive s rfl
      (show jobs.map Job.prompt = (jobs.map Job.prompt).map Job.prompt from rfl) noConnect
  exact ⟨Driver.direct_passive, rfl, rfl, noConnect, replies.trans rfl, alike, free⟩

end Session

end RecordStore
