/-
Sessions whose steps differ in bound values only. The two sessions make the same calls in the same order,
with the same texts and as many parameters, write the same log records and pass through the same states,
and every step of theirs succeeds in both or fails in both with the same failure.
-/
import RecordStore.Proofs.Masking.Drivers

namespace RecordStore

/-! ## Steps that are alike -/

/-- Jobs with requests that are alike and the same script. -/
inductive Job.Alike {R : Type} : Job R → Job R → Prop where
  | intro {r r' : Request} (script : List (Entry R)) : r.Alike r' → Alike ⟨r, script⟩ ⟨r', script⟩

/-- Steps of the same kind whose jobs are alike. -/
inductive Step.Alike {R : Type} : Step R → Step R → Prop where
  | single {job job' : Job R} : job.Alike job' → Alike (.single job) (.single job')
  | together {jobs jobs' : List (Job R)} : List.Forall₂ Job.Alike jobs jobs' →
    Alike (.together jobs) (.together jobs')
  | block {body body' : List (Step R)} (signalled : Option Fault) (script : List (Entry R)) :
    List.Forall₂ Alike body body' → Alike (.block body signalled script) (.block body' signalled script)

/-! ## What is seen of a session -/

section Boundary

variable {B : Boundary} (m : Mask B)

/-- The report with its events masked. -/
def Report.masked (r : Report B) : Report B := ⟨r.state, r.events.map (Event.masked m)⟩

mutual

/-- The answer with its replies and events masked; failures stay. -/
def Answer.masked : Answer B → Answer B
  | .single reply report => .single reply.masked (report.masked m)
  | .together replies report => .together (replies.map Reply.masked) (report.masked m)
  | .refused failure report => .refused failure (report.masked m)
  | .block body failure report => .block (maskedAll body) failure (report.masked m)

def Answer.maskedAll : List (Answer B) → List (Answer B)
  | [] => []
  | a :: as => a.masked :: maskedAll as

end

theorem Answer.maskedAll_eq_map : ∀ as : List (Answer B), maskedAll m as = as.map (masked m)
  | [] => rfl
  | a :: as => congrArg (a.masked m :: ·) (maskedAll_eq_map as)

def Session.masked (s : Session B) : Session B := { s with world := s.world.masked m }

theorem Session.report_masked (s : Session B) :
    (s.masked m).report = (s.report.1.masked m, s.report.2.masked m) := by
  simp only [report, masked, Report.masked, World.masked, List.length_map, ← List.map_drop, List.map_map]
  rfl

end Boundary

/-! ## Two sessions -/

section Sessions

variable {B : Scripted} {c : Setup B} {m : Mask B.toBoundary}

theorem Setup.operation_masked (hd : c.driver.Hides m) {r r' : Request} (h : r.Alike r') :
    (c.operation r).masked m = (c.operation r').masked m :=
  Operation.masked_through hd (h.operation c.path)

/-- What a block is left with, by the reply to its end and what was signalled. -/
theorem left_alike {reply reply' : Reply} (h : reply.masked = reply'.masked) (signalled : Option Failure) :
    (match reply.result with
      | .error failure => some failure
      | .ok _ => signalled) =
    (match reply'.result with
      | .error failure => some failure
      | .ok _ => signalled) := by
  obtain ⟨result, data⟩ := reply
  obtain ⟨result', data'⟩ := reply'
  rcases errors_or_values (Reply.mk.inj h).1 with ⟨e, rfl, rfl⟩ | ⟨v, w, rfl, rfl, -⟩ <;> rfl

namespace Session

variable {s s' : Session B.toBoundary}

theorem report_alike (hs : s.masked m = s'.masked m) :
    s.report.1.masked m = s'.report.1.masked m ∧ s.report.2.masked m = s'.report.2.masked m := by
  have h := report_masked m s
  rw [hs, report_masked m s'] at h
  exact ⟨(Prod.mk.inj h).1.symm, (Prod.mk.inj h).2.symm⟩

theorem serve_alike (hd : c.driver.Hides m) (hm : m.Respected) (hs : s.masked m = s'.masked m)
    {job job' : Job B.Return} (h : job.Alike job') :
    (serve c s job).1.masked m = (serve c s' job').1.masked m ∧
      (serve c s job).2.1.masked = (serve c s' job').2.1.masked ∧
      (serve c s job).2.2 = (serve c s' job').2.2 := by
  obtain ⟨world, tasks, reported⟩ := s
  obtain ⟨world', tasks', reported'⟩ := s'
  obtain ⟨hworld, rfl, rfl⟩ := Session.mk.inj hs
  obtain ⟨script, hr⟩ := h
  rename_i r r'
  have halone := Operation.alone_masked hm c.ids tasks world script (c.operation r)
  rw [Setup.operation_masked hd hr, hworld, Operation.alone_masked hm] at halone
  obtain ⟨hafter, hrest⟩ := Prod.mk.inj halone
  obtain ⟨hreply, hscript⟩ := Prod.mk.inj hrest
  exact ⟨congrArg (Session.mk · (tasks + 1) reported) hafter.symm, hreply.symm, hscript.symm⟩

theorem tasksOf_alike (hd : c.driver.Hides m) {jobs jobs' : List (Job B.Return)}
    (h : List.Forall₂ Job.Alike jobs jobs') (first : Nat) :
    (tasksOf c first jobs).map (Task.masked m) = (tasksOf c first jobs').map (Task.masked m) := by
  induction h generalizing first with
  | nil => rfl
  | cons hjob _ ih =>
    obtain ⟨script, hr⟩ := hjob
    have htasks := congrArg₂ (fun op ts => Task.mk (B := B) first (.start op) 0 script :: ts)
      (Setup.operation_masked hd hr) (ih (first + 1))
    exact htasks

/-- The replies of masked tasks are the masked replies. -/
theorem replies_masked (m : Mask B.toBoundary) (ts : List (Task B)) (fs : List (Finished B)) :
    (ts.filterMap fun t => (fs.find? (·.id == t.id)).map Finished.reply).map Reply.masked =
      (ts.map (Task.masked m)).filterMap fun t =>
        ((fs.map Finished.masked).find? (·.id == t.id)).map Finished.reply := by
  simp only [List.map_filterMap, List.filterMap_map, List.find?_map, Option.map_map]
  rfl

theorem serveTogether_alike (hd : c.driver.Hides m) (hm : m.Respected) (hs : s.masked m = s'.masked m)
    {jobs jobs' : List (Job B.Return)} (h : List.Forall₂ Job.Alike jobs jobs') :
    (serveTogether c s jobs).1.masked m = (serveTogether c s' jobs').1.masked m ∧
      (serveTogether c s jobs).2.map Reply.masked = (serveTogether c s' jobs').2.map Reply.masked := by
  obtain ⟨world, tasks, reported⟩ := s
  obtain ⟨world', tasks', reported'⟩ := s'
  obtain ⟨hworld, rfl, rfl⟩ := Session.mk.inj hs
  have htasks := tasksOf_alike hd h tasks
  -- the two pools look the same when the jobs start, so they look the same when all have ended
  have hstart : Pool.masked m { world, ready := tasksOf c tasks jobs } =
      Pool.masked m { world := world', ready := tasksOf c tasks jobs' } := by
    have hstart := congrArg₂ (fun w ts => Pool.mk (B := B) w ts [] []) hworld htasks
    exact hstart
  have hend : (Pool.run c.ids { world, ready := tasksOf c tasks jobs }).masked m =
      (Pool.run c.ids { world := world', ready := tasksOf c tasks jobs' }).masked m := by
    rw [← Pool.run_masked hm, hstart, Pool.run_masked hm]
  constructor
  · show Session.mk _ (tasks + jobs.length) reported = Session.mk _ (tasks + jobs'.length) reported
    rw [h.length_eq]
    exact congrArg (Session.mk · (tasks + jobs'.length) reported) (congrArg Pool.world hend)
  · unfold serveTogether
    dsimp only
    rw [replies_masked m, replies_masked m, htasks]
    exact congrArg (fun fs => List.filterMap (fun t : Task B =>
      (fs.find? fun f : Finished B => f.id == t.id).map Finished.reply) _) (congrArg Pool.finished hend)

mutual

/-- Steps that are alike are answered alike, and alike sessions stay so. -/
theorem step_alike (hd : c.driver.Hides m) (hm : m.Respected) :
    ∀ {s s' : Session B.toBoundary}, s.masked m = s'.masked m →
      ∀ {st st' : Step B.Return}, st.Alike st' →
        (step c s st).1.masked m = (step c s' st').1.masked m ∧
          (step c s st).2.masked m = (step c s' st').2.masked m
  | s, s', hs, .single job, _, .single hjob => by
    obtain ⟨hafter, hreply, -⟩ := serve_alike hd hm hs hjob
    obtain ⟨hreported, hreport⟩ := report_alike hafter
    have hanswer := congrArg₂ Answer.single hreply hreport
    exact ⟨hreported, hanswer⟩
  | s, s', hs, .together jobs, _, .together hjobs => by
    obtain ⟨hafter, hreplies⟩ := serveTogether_alike hd hm hs hjobs
    obtain ⟨hreported, hreport⟩ := report_alike hafter
    have hanswer := congrArg₂ Answer.together hreplies hreport
    exact ⟨hreported, hanswer⟩
  | s, s', hs, .block body signalled script, .block body' _ _, .block _ _ hbody => by
    have hentry : Job.Alike (R := B.Return) ⟨.connect, script⟩ ⟨.connect, script⟩ := ⟨script, .same _⟩
    obtain ⟨hentered, hreply, hscript⟩ := serve_alike hd hm hs hentry
    unfold step
    generalize serve c s ⟨.connect, script⟩ = x at *
    generalize serve c s' ⟨.connect, script⟩ = y at *
    obtain ⟨t, ⟨result, data⟩, rest⟩ := x
    obtain ⟨t', ⟨result', data'⟩, rest'⟩ := y
    obtain rfl : rest = rest' := hscript
    dsimp only at *
    rcases errors_or_values (Reply.mk.inj hreply).1 with ⟨e, rfl, rfl⟩ | ⟨v, w, rfl, rfl, -⟩
    · -- neither block is entered
      obtain ⟨hreported, hreport⟩ := report_alike hentered
      have hanswer := congrArg (Answer.refused e) hreport
      exact ⟨hreported, hanswer⟩
    · -- both blocks are entered, and both are left
      obtain ⟨hthrough, hanswers⟩ := steps_alike hd hm hentered hbody
      have hexit : Job.Alike (R := B.Return) ⟨.close, rest⟩ ⟨.close, rest⟩ := ⟨rest, .same _⟩
      obtain ⟨hleft, hreply, -⟩ := serve_alike hd hm hthrough hexit
      obtain ⟨hreported, hreport⟩ := report_alike hleft
      have hfailure := left_alike hreply (signalled.map .passed)
      have hanswer := congr (congrArg₂ Answer.block hanswers hfailure) hreport
      exact ⟨hreported, hanswer⟩

theorem steps_alike (hd : c.driver.Hides m) (hm : m.Respected) :
    ∀ {s s' : Session B.toBoundary}, s.masked m = s'.masked m →
      ∀ {sts sts' : List (Step B.Return)}, List.Forall₂ Step.Alike sts sts' →
        (steps c s sts).1.masked m = (steps c s' sts').1.masked m ∧
          Answer.maskedAll m (steps c s sts).2 = Answer.maskedAll m (steps c s' sts').2
  | _, _, hs, _, _, .nil => ⟨hs, rfl⟩
  | s, s', hs, st :: sts, st' :: sts', .cons hst hsts => by
    obtain ⟨hafter, hanswer⟩ := step_alike hd hm hs hst
    obtain ⟨hend, hanswers⟩ := steps_alike hd hm hafter hsts
    have hall := congrArg₂ List.cons hanswer hanswers
    exact ⟨hend, hall⟩

end

end Session

/-- Behind a mask its driver respects, a fresh client answers alike to steps that are alike. -/
theorem Setup.run_masked (hd : c.driver.Hides m) (hm : m.Respected) {sts sts' : List (Step B.Return)}
    (h : List.Forall₂ Step.Alike sts sts') :
    (c.run sts).map (Answer.masked m) = (c.run sts').map (Answer.masked m) := by
  have hfresh : Session.masked m {} = Session.masked m {} := rfl
  obtain ⟨-, hanswers⟩ := Session.steps_alike hd hm hfresh h
  rwa [Answer.maskedAll_eq_map, Answer.maskedAll_eq_map] at hanswers

end Sessions

/-! ## Both drivers -/

/-- Sessions that differ in the values they bind do the same, and each of their steps ends the same, but
for the parameters of statements, the records and the results. This is so of the calls on the storage
and, through the SQLite driver, of the calls on the connection. -/
theorem Setup.run_alike (path : String) (ids : IdSource) :
    (∀ sts sts' : List (Step Value), List.Forall₂ Step.Alike sts sts' →
      let c : Setup ScriptedStorage := ⟨path, Driver.direct, ids⟩
      (c.run sts).map (Answer.masked storageMask) = (c.run sts').map (Answer.masked storageMask)) ∧
    ∀ (o : Sqlite.Options) (sts sts' : List (Step ConnectionReturn)), List.Forall₂ Step.Alike sts sts' →
      let c : Setup ScriptedConnection := ⟨path, Sqlite.driver o, ids⟩
      (c.run sts).map (Answer.masked connectionMask) = (c.run sts').map (Answer.masked connectionMask) :=
  ⟨fun _ _ h => run_masked (B := ScriptedStorage) Driver.direct_hides storageMask_respected h,
    fun o _ _ h => run_masked (B := ScriptedConnection) (Sqlite.driver_hides o) connectionMask_respected h⟩

/-- A session that binds a quoted text with statements in it, and one that binds a number. -/
theorem Setup.run_alike_quoted :
    let session (R : Type) (v : Value) : List (Step R) := [.single ⟨.connect, []⟩,
      .single ⟨.find (.text "users") (.map [(.text "name", v), (.text "age", .map [(.text "gt", v)])]) {},
        []⟩,
      .together [⟨.create (.text "users") (.map [(.text "id", v), (.text "name", v)]), []⟩,
        ⟨.delete (.text "users") (.map [(.text "name", .list [v])]), []⟩]]
    let quoted := Value.text "'; DROP TABLE users; --"
    let direct : Setup ScriptedStorage := ⟨"a.db", Driver.direct, fun n => .ok (.int n)⟩
    let sqlite : Setup ScriptedConnection := ⟨"a.db", Sqlite.driver {}, fun n => .ok (.int n)⟩
    (direct.run (session Value quoted)).map (Answer.masked storageMask) =
        (direct.run (session Value (.int 1))).map (Answer.masked storageMask) ∧
      (sqlite.run (session ConnectionReturn quoted)).map (Answer.masked connectionMask) =
        (sqlite.run (session ConnectionReturn (.int 1))).map (Answer.masked connectionMask) := by
  intro session quoted direct sqlite
  have hscalars : quoted.Alike (.int 1) := .scalars trivial trivial
  have halike (R : Type) : List.Forall₂ Step.Alike (session R quoted) (session R (.int 1)) := by
    have hfind : Condition.Alike (.map [(.text "name", quoted), (.text "age", .map [(.text "gt", quoted)])])
        (.map [(.text "name", .int 1), (.text "age", .map [(.text "gt", .int 1)])]) :=
      .maps (.cons ⟨rfl, hscalars⟩ (.cons ⟨rfl, .operators rfl⟩ .nil))
    have hid (v : Value) : Operation.identifier [(.text "id", v), (.text "name", v)] = v := by
      simp [Operation.identifier, Value.lookup?, Operation.idKey, Value.same]
    have hcreate : Record.Alike (.map [(.text "id", quoted), (.text "name", quoted)])
        (.map [(.text "id", .int 1), (.text "name", .int 1)]) :=
      .maps rfl (by rw [hid, hid]; rfl) (by rw [hid, hid]; exact hscalars)
    have hdelete : Condition.Alike (.map [(.text "name", .list [quoted])])
        (.map [(.text "name", .list [.int 1])]) := .maps (.cons ⟨rfl, .lists rfl⟩ .nil)
    exact .cons (.single ⟨_, .same _⟩) (.cons (.single ⟨_, .find _ _ hfind⟩)
      (.cons (.together (.cons ⟨_, .create _ hcreate⟩ (.cons ⟨_, .delete _ hdelete⟩ .nil))) .nil))
  exact ⟨(run_alike _ _).1 _ _ (halike Value), (run_alike _ _).2 {} _ _ (halike ConnectionReturn)⟩

end RecordStore
