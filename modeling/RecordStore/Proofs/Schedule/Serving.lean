/-
Requests served one after the other. An operation that is served alone runs from its beginning to its reply
with nothing in between, so what it adds to the history is what its program goes through. A session without
steps that start together serves its requests in this way, those at the ends of its blocks included, and each
of its reports tells of the world after one of them.
-/
import RecordStore.Proofs.Schedule.Serial
import RecordStore.Proofs.Schedule.Sessions

namespace RecordStore

/-! ## Operations -/

/-- What an operation that is served alone adds to the history of a client, the client afterwards, and the
reply. -/
inductive Operation.Lone {B : Boundary} (c : Client) :
    Operation B → List (Event B) → Client → Reply → Prop where
  | free {start : Lifecycle → Program B Reply} {es : List (Event B)} {c' : Client} {a : Reply} :
    (start c.state).Runs c es c' (.done a) →
      Lone c (.free start) (.began c.state :: (es ++ [.replied a])) c' a
  | refused {refusal : Reply} {body : Value → Program B Ending} : (∀ v, c ≠ ⟨.connected, some v⟩) →
    Lone c (.guarded refusal body) [.began c.state, .replied refusal] c refusal
  | served {refusal : Reply} {body : Value → Program B Ending} {v : Value} {es : List (Event B)} {c' : Client}
    {a : Ending} : c = ⟨.connected, some v⟩ → (body v).Runs c es c' (.done a) →
      Lone c (.guarded refusal body) (.began c.state :: .entered c.state :: (es ++ a.events)) c' a.reply

/-- Served alone, an operation ends with its reply. -/
theorem Operation.Lone.last {B : Boundary} {c c' : Client} {op : Operation B} {es : List (Event B)} {reply : Reply}
    (h : op.Lone c es c' reply) : es.getLast? = some (.replied reply) := by
  cases h with
  | free _ => rw [← List.cons_append, List.getLast?_concat]
  | refused _ => rfl
  | served _ _ => rw [Ending.events, ← List.append_assoc, ← List.cons_append, ← List.cons_append, List.getLast?_concat]

section Scripted

variable {B : Scripted}

/-- What a program that runs to its end without a break adds to the history. -/
theorem complete_runs {α : Type} (ids : IdSource) (task : Nat) (p : Program B.toBoundary α)
    (w : World B.toBoundary) (script : List (Entry B.Return)) :
    ∃ es, p.Runs w.client es (complete ids task w script p).1.client (.done (complete ids task w script p).2.1) ∧
      (complete ids task w script p).1.history = w.history ++ es.map fun e => (task, e) := by
  have grows {h h' : List (Nat × Event B.toBoundary)} {e : Event B.toBoundary} {es : List (Event B.toBoundary)}
      (hh : h' = h ++ [(task, e)] ++ es.map fun e => (task, e)) : h' = h ++ (e :: es).map fun e => (task, e) := by
    rw [hh, List.append_assoc]
    rfl
  induction p generalizing w script with
  | done a => exact ⟨[], .here _ _, (List.append_nil _).symm⟩
  | log r next ih =>
    obtain ⟨es, hruns, hh⟩ := ih (w.record task (.logged r)) script
    exact ⟨_, .log hruns, grows hh⟩
  | draw next ih =>
    obtain ⟨es, hruns, hh⟩ := ih _ (w.draw task ((ids (w.draws + 1)).mapError Fault.outside)) script
    exact ⟨_, .draw _ hruns, grows hh⟩
  | connect handle next ih =>
    obtain ⟨es, hruns, hh⟩ := ih (w.become task .connected (some handle)) script
    exact ⟨_, .connect hruns, grows hh⟩
  | close next ih =>
    obtain ⟨es, hruns, hh⟩ := ih (w.become task .closed none) script
    exact ⟨_, .close hruns, grows hh⟩
  | call k next ih =>
    obtain ⟨es, hruns, hh⟩ := ih _ ((w.ask task k).record task (.answered k _)) _
    exact ⟨_, .call _ hruns, grows (grows hh)⟩

/-- Served alone, an operation does what it does alone. -/
theorem Operation.alone_lone (ids : IdSource) (task : Nat) (w : World B.toBoundary)
    (script : List (Entry B.Return)) (op : Operation B.toBoundary) :
    ∃ es, op.Lone w.client es (op.alone ids task w script).1.client (op.alone ids task w script).2.1 ∧
      (op.alone ids task w script).1.history = w.history ++ es.map fun e => (task, e) := by
  obtain ⟨⟨state, handle⟩, locked, openings, draws, history⟩ := w
  have hrefused {refusal : Reply} {body : Value → Program B.toBoundary Ending}
      (hnot : ∀ v, (⟨state, handle⟩ : Client) ≠ ⟨.connected, some v⟩) :
      (Operation.guarded refusal body).Lone ⟨state, handle⟩ [.began state, .replied refusal] ⟨state, handle⟩ refusal :=
    .refused hnot
  cases op with
  | free start =>
    obtain ⟨es, hruns, hh⟩ := complete_runs ids task (start state)
      ⟨⟨state, handle⟩, locked, openings, draws, history ++ [(task, .began state)]⟩ script
    refine ⟨_, .free hruns, ?_⟩
    simp only [alone, World.record, hh]
    simp
  | guarded refusal body =>
    cases state with
    | unconnected | closed => exact ⟨_, hrefused (fun _ h => by cases h), by simp [alone, World.record]⟩
    | connected =>
      cases handle with
      | none => exact ⟨_, hrefused (fun _ h => by cases h), by simp [alone, World.record]⟩
      | some v =>
        obtain ⟨es, hruns, hh⟩ := complete_runs ids task (body v)
          ⟨⟨.connected, some v⟩, locked, openings, draws,
            history ++ [(task, .began .connected)] ++ [(task, .entered .connected)]⟩ script
        refine ⟨_, .served rfl hruns, ?_⟩
        simp only [alone, World.record, World.recordAll, hh, Ending.events]
        simp

/-! ## Sessions -/

mutual

/-- No requests start together, neither in this step nor inside of it. -/
def Step.Sequential {R : Type} : Step R → Prop
  | .single _ => True
  | .together _ => False
  | .block body _ _ => allSequential body

def Step.allSequential {R : Type} : List (Step R) → Prop
  | [] => True
  | st :: sts => st.Sequential ∧ allSequential sts

end

mutual

/-- The reports in an answer, in their order. -/
def Answer.reports {B : Boundary} : Answer B → List (Report B)
  | .single _ report => [report]
  | .together _ report => [report]
  | .refused _ report => [report]
  | .block body _ report => allReports body ++ [report]

def Answer.allReports {B : Boundary} : List (Answer B) → List (Report B)
  | [] => []
  | a :: as => a.reports ++ allReports as

end

theorem Step.allSequential_iff {R : Type} : ∀ sts : List (Step R), allSequential sts ↔ ∀ st ∈ sts, st.Sequential
  | [] => by simp [allSequential]
  | st :: sts => by rw [allSequential, allSequential_iff sts, List.forall_mem_cons]

namespace Session

variable {c : Setup B} {s t : Session B.toBoundary}

/-- Sessions that differ at most in what has been reported. -/
structure Level (s t : Session B.toBoundary) : Prop where
  world : s.world = t.world
  tasks : s.tasks = t.tasks

theorem Level.serve (h : s.Level t) (job : Job B.Return) :
    (s.serve c job).1.Level (t.serve c job).1 ∧ (s.serve c job).2 = (t.serve c job).2 := by
  obtain ⟨world, tasks, reported⟩ := s
  obtain ⟨world', tasks', reported'⟩ := t
  obtain ⟨rfl, rfl⟩ := h
  exact ⟨⟨rfl, rfl⟩, rfl⟩

theorem Level.serveEach (h : s.Level t) (js : List (Job B.Return)) :
    (s.serveEach c js).1.Level (t.serveEach c js).1 := by
  induction js generalizing s t with
  | nil => exact h
  | cons job js ih => exact ih (h.serve job).1

theorem serveEach_append (js ks : List (Job B.Return)) :
    (s.serveEach c (js ++ ks)).1 = ((s.serveEach c js).1.serveEach c ks).1 := by
  induction js generalizing s with
  | nil => rfl
  | cons job js ih => exact ih

mutual

/-- A sequential step serves its requests one after the other. -/
theorem step_level : ∀ {s : Session B.toBoundary} {st : Step B.Return}, st.Sequential →
    (step c s st).1.Level (s.serveEach c (stepJobs c s st)).1
  | s, .single job, _ => ⟨rfl, rfl⟩
  | s, .block body signalled script, h => by
    unfold step stepJobs
    generalize hentered : serve c s ⟨.connect, script⟩ = x
    obtain ⟨t, ⟨result, data⟩, rest⟩ := x
    cases result with
    | error failure =>
      simp only [serveEach, hentered]
      exact ⟨rfl, rfl⟩
    | ok v =>
      have hbody := steps_level (s := t) (show Step.allSequential body from h)
      obtain ⟨⟨hworld, htasks⟩, -⟩ := hbody.serve (c := c) ⟨.close, rest⟩
      simp only [serveEach, hentered, serveEach_append]
      exact ⟨hworld, htasks⟩

theorem steps_level : ∀ {s : Session B.toBoundary} {sts : List (Step B.Return)}, Step.allSequential sts →
    (steps c s sts).1.Level (s.serveEach c (jobs c s sts)).1
  | s, [], _ => ⟨rfl, rfl⟩
  | s, st :: sts, h => by
    have hstep := (step_level (s := s) h.1).serveEach (c := c) (jobs c (step c s st).1 sts)
    have hsteps := steps_level (s := (step c s st).1) h.2
    simp only [jobs, serveEach_append]
    exact ⟨hsteps.world.trans hstep.world, hsteps.tasks.trans hstep.tasks⟩

end

/-! ## Reports -/

/-- What has been reported so far. -/
def told (s : Session B.toBoundary) : List (Event B.toBoundary) := (s.world.history.take s.reported).map Prod.snd

/-- The report tells of a world of which `P` holds, and in which this is what happened since `past`. -/
def Tells (P : World B.toBoundary → Prop) (past : List (Event B.toBoundary)) (report : Report B.toBoundary) : Prop :=
  ∃ w, P w ∧ report.state = w.client.state ∧ w.history.map Prod.snd = past ++ report.events

/-- Each of the reports tells of a world of which `P` holds, after everything that was reported before. -/
def AllTell (P : World B.toBoundary → Prop) : List (Event B.toBoundary) → List (Report B.toBoundary) → Prop
  | _, [] => True
  | past, report :: reports => Tells P past report ∧ AllTell P (past ++ report.events) reports

variable {P : World B.toBoundary → Prop} {past : List (Event B.toBoundary)} {rs rs' : List (Report B.toBoundary)}

theorem AllTell.append (h : AllTell P past rs) (h' : AllTell P (past ++ rs.flatMap Report.events) rs') :
    AllTell P past (rs ++ rs') := by
  induction rs generalizing past with
  | nil => simpa using h'
  | cons r rs ih =>
    refine ⟨h.1, ih h.2 ?_⟩
    rw [List.append_assoc]
    exact h'

theorem AllTell.split {before after : List (Report B.toBoundary)} {report : Report B.toBoundary}
    (h : AllTell P past (before ++ report :: after)) : Tells P (past ++ before.flatMap Report.events) report := by
  induction before generalizing past with
  | nil => simpa using h.1
  | cons r before ih =>
    have htells := ih h.2
    rwa [List.append_assoc] at htells

/-- From `s` the session has come to `t`, where `P` holds again, and on the way it has made these reports. -/
structure Reports (P : World B.toBoundary → Prop) (s t : Session B.toBoundary) (rs : List (Report B.toBoundary)) :
    Prop where
  world : P t.world
  upTo : t.reported ≤ t.world.history.length
  tell : AllTell P s.told rs
  told : t.told = s.told ++ rs.flatMap Report.events

theorem Reports.trans {u : Session B.toBoundary} (h : Reports P s t rs) (h' : Reports P t u rs') :
    Reports P s u (rs ++ rs') := by
  refine ⟨h'.world, h'.upTo, h.tell.append (h.told ▸ h'.tell), ?_⟩
  rw [h'.told, h.told, List.flatMap_append, List.append_assoc]

theorem Reports.report (h : Reports P s t rs) : Reports P s t.report.1 (rs ++ [t.report.2]) := by
  have hwhole : t.report.1.told = t.told ++ t.report.2.events := by
    simp only [Session.told, Session.report, List.take_length]
    rw [← List.map_append, List.take_append_drop]
  refine h.trans ⟨h.world, Nat.le_refl _, ⟨⟨t.world, h.world, rfl, ?_⟩, trivial⟩, ?_⟩
  · rw [← hwhole]
    simp only [Session.told, Session.report, List.take_length]
  · rw [hwhole, List.flatMap_singleton]

/-- A request that is served alone is not reported yet. -/
theorem Reports.serve (hserve : ∀ (s : Session B.toBoundary) job, P s.world → P (s.serve c job).1.world)
    (h : Reports P s t rs) (job : Job B.Return) : Reports P s (t.serve c job).1 rs := by
  obtain ⟨es, -, hhistory⟩ := Operation.alone_lone c.ids t.tasks t.world job.script (c.operation job.request)
  have hgrown : (t.serve c job).1.world.history = t.world.history ++ es.map fun e => (t.tasks, e) := hhistory
  have htold : (t.serve c job).1.told = t.told := by
    have hreported : (t.serve c job).1.reported = t.reported := rfl
    rw [Session.told, hgrown, hreported, List.take_append_of_le_length h.upTo]
    rfl
  refine ⟨hserve t job h.world, ?_, h.tell, htold.trans h.told⟩
  rw [hgrown, List.length_append]
  exact Nat.le_add_right_of_le h.upTo

mutual

/-- What every request keeps when it is served alone holds at each report of a sequential step. -/
theorem step_reports (hserve : ∀ (s : Session B.toBoundary) job, P s.world → P (s.serve c job).1.world) :
    ∀ {t : Session B.toBoundary} {rs : List (Report B.toBoundary)} {st : Step B.Return}, st.Sequential →
      Reports P s t rs → Reports P s (step c t st).1 (rs ++ (step c t st).2.reports)
  | t, rs, .single job, _, h => (h.serve hserve job).report
  | t, rs, .block body signalled script, hst, h => by
    have hentered := h.serve hserve ⟨.connect, script⟩
    unfold step
    generalize serve c t ⟨.connect, script⟩ = x at *
    obtain ⟨u, ⟨result, data⟩, rest⟩ := x
    cases result with
    | error failure => exact hentered.report
    | ok v =>
      have hbody := steps_reports hserve (show Step.allSequential body from hst) hentered
      have hleft := (hbody.serve hserve ⟨.close, rest⟩).report
      rw [List.append_assoc] at hleft
      exact hleft

theorem steps_reports (hserve : ∀ (s : Session B.toBoundary) job, P s.world → P (s.serve c job).1.world) :
    ∀ {t : Session B.toBoundary} {rs : List (Report B.toBoundary)} {sts : List (Step B.Return)},
      Step.allSequential sts → Reports P s t rs →
        Reports P s (steps c t sts).1 (rs ++ Answer.allReports (steps c t sts).2)
  | t, rs, [], _, h => by
    simp only [steps, Answer.allReports, List.append_nil]
    exact h
  | t, rs, st :: sts, hsts, h => by
    have hstep := step_reports hserve hsts.1 h
    have hsteps := steps_reports hserve hsts.2 hstep
    rw [List.append_assoc] at hsteps
    exact hsteps

end

end Session

end Scripted

end RecordStore
