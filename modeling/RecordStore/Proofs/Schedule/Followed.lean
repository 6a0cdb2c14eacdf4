/-
Jobs followed through a run. The events of every job are its course so far, on the handle that the
client had when its task entered, and a job that has not replied stands in the pool. Jobs that need the
lock turn to the outside one at a time, so the first of two has replied once the second does so.
-/
import RecordStore.Proofs.Schedule.Exclusion
import RecordStore.Proofs.Schedule.Told

namespace RecordStore

/-! ## Turns -/

section Boundary

variable {B : Boundary} {came : (k : B.Call) → B.Answer k → Option Value}
  {ops : Nat → Operation B → Prop} {h : List (Nat × Event B)} {i j : Nat} {v : Value} {c c' : Client}
  {es : List (Event B)}

/-- The client had this handle when the task entered. -/
def Found (came : (k : B.Call) → B.Answer k → Option Value) (h : List (Nat × Event B)) (i : Nat)
    (v : Value) : Prop :=
  ∃ a b, h = a ++ (i, .entered .connected) :: b ∧ told came a = ⟨.connected, some v⟩

theorem Found.append (hv : Found came h i v) (k : List (Nat × Event B)) : Found came (h ++ k) i v := by
  obtain ⟨a, b, rfl, ha⟩ := hv
  exact ⟨a, b ++ k, by rw [List.append_assoc]; rfl, ha⟩

/-- The client is the one that the history tells of, and each task that has replied has gone through
the course of its operation. -/
structure Followed (came : (k : B.Call) → B.Answer k → Option Value) (ops : Nat → Operation B → Prop)
    (h : List (Nat × Event B)) (c : Client) : Prop where
  client : c = told came h
  live : c.Live
  ended : ∀ i a, (i, .replied a) ∈ h → ∃ op v, ops i op ∧ op.Course (eventsOf i h) v none ∧
    ∀ w ∈ v, Found came h i w

/-- The task stands where the course of its operation has got to. -/
structure Phase.Follows (came : (k : B.Call) → B.Answer k → Option Value)
    (ops : Nat → Operation B → Prop) (h : List (Nat × Event B)) (i : Nat) (ph : Phase B) : Prop where
  tells : ph.Tells came (lastCame came i h)
  course : ∃ op v, ops i op ∧ op.Course (eventsOf i h) v (some ph) ∧ ∀ w ∈ v, Found came h i w

/-- A handle that a task finds in its turn is the one the client has by the history before. -/
theorem Found.of_turn {before rest : List (Event B)}
    (hbefore : before = [] ∨ before = [.began .connected]) (hc : told came h = ⟨.connected, some v⟩) :
    Found came (h ++ (before ++ .entered .connected :: rest).map fun e => (i, e)) i v := by
  refine ⟨h ++ before.map fun e => (i, e), rest.map fun e => (i, e), by simp, ?_⟩
  rw [told_idle, hc]
  rcases hbefore with rfl | rfl
  · exact List.forall_mem_nil _
  · exact List.forall_mem_singleton.2 trivial

theorem upheld_followed (came : (k : B.Call) → B.Answer k → Option Value)
    (ops : Nat → Operation B → Prop) :
    Upheld ops (Followed came ops) (fun h i ph => ph.Follows came ops h i) where
  turn := by
    intro h c c' i _ ph under es after _ _ hj ⟨htells, op, v, hops, hcourse, hfound⟩ hturn
    obtain ⟨hclient, htells'⟩ := hturn.tells htells hj.client
    obtain ⟨v', hcourse', hv'⟩ := hcourse.turn hj.live hturn
    have hfound' : ∀ w ∈ v', Found came (h ++ es.map fun e => (i, e)) i w := by
      intro w hw
      rcases hv' w hw with hw | ⟨hc, before, rest, rfl, hbefore⟩
      · exact (hfound w hw).append _
      · exact .of_turn hbefore (hj.client.symm.trans hc)
    have hevents : eventsOf i (h ++ es.map fun e => (i, e)) = eventsOf i h ++ es := by
      rw [eventsOf_append, eventsOf_own]
    refine ⟨⟨hclient, hturn.live hj.live, fun j a ha => ?_⟩, fun ph' hph => ⟨htells' ph' hph, op, v', hops, ?_, hfound'⟩⟩
    · by_cases hij : j = i
      · subst hij
        rw [hevents]
        cases after with
        | none => exact ⟨op, v', hops, hcourse', hfound'⟩
        | some ph' =>
          rw [← mem_eventsOf, hevents] at ha
          exact absurd ha (hcourse'.unreplied a)
      · rw [← mem_eventsOf, eventsOf_append, eventsOf_other hij, List.append_nil, mem_eventsOf] at ha
        obtain ⟨op, v, hops, hcourse, hfound⟩ := hj.ended j a ha
        refine ⟨op, v, hops, ?_, fun w hw => (hfound w hw).append _⟩
        rwa [eventsOf_append, eventsOf_other hij, List.append_nil]
    · rw [hevents, ← Option.mem_def.1 hph]
      exact hcourse'
  aside := by
    intro h c c' i j _ ph ph' under es after _ _ _ _ _ hij hph _
    obtain ⟨op, v, hops, hcourse, hfound⟩ := hph.course
    refine ⟨?_, op, v, hops, ?_, fun w hw => (hfound w hw).append _⟩
    · rw [lastCame_other hij]
      exact hph.tells
    · rwa [eventsOf_append, eventsOf_other hij, List.append_nil]

theorem Phase.Turn.replies {ph : Phase B} {under : Bool} (hturn : ph.Turn c under es c' none) :
    ∃ a, .replied a ∈ es := by
  generalize hafter : none = after at hturn
  induction hturn with
  | passes | parks => cases hafter
  | refused | turnedAway => exact ⟨_, List.mem_cons_of_mem _ List.mem_cons_self⟩
  | atOnce _ _ ih =>
    obtain ⟨a, ha⟩ := ih hafter
    exact ⟨a, List.mem_cons_of_mem _ ha⟩
  | begins hturn | roams hturn =>
    rcases hturn.does with ⟨fs, a, -, rfl, -⟩ | ⟨fs, call, -, -, hwait⟩
    · exact ⟨a, List.mem_cons_of_mem _ (List.mem_append_right _ List.mem_cons_self)⟩
    · exact absurd (hafter.trans hwait) nofun
  | enters _ hturn | resumes hturn =>
    rcases hturn.does with ⟨fs, a, -, rfl, -⟩ | ⟨fs, call, -, -, hwait⟩
    · exact ⟨a.reply, List.mem_cons_of_mem _
        (List.mem_append_right _ (List.mem_append_right _ List.mem_cons_self))⟩
    · exact absurd (hafter.trans hwait) nofun

end Boundary

/-! ## Runs -/

section Play

variable {B : Scripted}

/-- What happened in the run so far, whatever the boundary. -/
abbrev Run.past (r : Run B) : List (Nat × Event B.toBoundary) := r.pool.world.history

/-- The job needs the lock. -/
def Run.Locking (r : Run B) (i : Nat) : Prop := ∃ job, r.jobs[i]? = some job ∧ job.request ≠ .connect

/-- The operation of the job. -/
def Run.Serving (c : Setup B) (r : Run B) (i : Nat) (op : Operation B.toBoundary) : Prop :=
  ∃ job, r.jobs[i]? = some job ∧ op = c.operation job.request

/-- Every job has replied or stands in the pool. -/
def Run.Accounts (r : Run B) : Prop :=
  ∀ n < r.jobs.length, (∃ ph, (n, ph) ∈ r.pool.standing) ∨ ∃ a, (n, .replied a) ∈ r.past

theorem Run.Accounts.start {c : Setup B} {r : Run B} (hr : r.Accounts) (job : Job B.Return) :
    (r.move c (.start job)).Accounts := by
  intro n hn
  have hstanding := Pool.standing_enqueue r.pool
    { id := r.jobs.length, phase := .start (c.operation job.request), script := job.script }
  have hlength : (r.move c (.start job)).jobs.length = r.jobs.length + 1 := List.length_append
  by_cases hlt : n < r.jobs.length
  · rcases hr n hlt with ⟨ph, hph⟩ | ha
    · exact .inl ⟨ph, hstanding.mem_iff.2 (List.mem_append_left _ hph)⟩
    · exact .inr ha
  · obtain rfl : n = r.jobs.length := by omega
    exact .inl ⟨_, hstanding.mem_iff.2 (List.mem_append_right _ List.mem_cons_self)⟩

theorem Run.Accounts.turn {c : Setup B} {r : Run B} (hr : r.Accounts) (horderly : r.pool.Orderly)
    (place : Nat) : (r.move c (.turn place)).Accounts := by
  unfold Run.move
  dsimp only
  split
  · exact hr
  · rename_i t hready
    obtain ⟨before, after, hsplit, herase⟩ := split_eraseIdx hready
    rw [herase]
    obtain ⟨under, es, ph?, hturn, hgrows, -⟩ := Pool.take_turn c.ids horderly hsplit
    intro n hn
    have hlater {a : Reply} (ha : (n, .replied a) ∈ r.past) :
        ∃ a, (n, .replied a) ∈ (Pool.take c.ids { r.pool with ready := before ++ after } t).world.history :=
      ⟨a, by rw [hgrows.history]; exact List.mem_append_left _ ha⟩
    rcases hr n hn with ⟨ph, hph⟩ | ⟨a, ha⟩
    · rcases List.mem_cons.1 ((Pool.standing_split hsplit).mem_iff.1 hph) with heq | hph
      · obtain ⟨rfl, rfl⟩ := Prod.mk.inj heq
        -- it is the task whose turn it is: it stands there afterwards or has replied
        cases ph? with
        | some ph' => exact .inl ⟨ph', hgrows.standing.mem_iff.2 (List.mem_append_right _ List.mem_cons_self)⟩
        | none =>
          obtain ⟨a, ha⟩ := hturn.replies
          refine .inr ⟨a, ?_⟩
          show _ ∈ (Pool.take c.ids _ t).world.history
          rw [hgrows.history]
          exact List.mem_append_right _ (List.mem_map_of_mem ha)
      · exact .inl ⟨ph, hgrows.standing.mem_iff.2 (List.mem_append_left _ hph)⟩
    · exact .inr (hlater ha)

namespace Setup

variable {c : Setup B} {came : (k : B.Call) → B.Answer k → Option Value} {ms : List (Move B.Return)}
  {i j : Nat} {job : Job B.Return}

theorem play_serving (c : Setup B) (ms : List (Move B.Return)) (n : Nat) (job : Job B.Return)
    (hjob : (c.play ms).jobs[n]? = some job) : (c.play ms).Serving c n (c.operation job.request) :=
  ⟨job, hjob, rfl⟩

/-- Jobs that need the lock turn to the outside one at a time. -/
theorem play_oneAtATime (c : Setup B) (ms : List (Move B.Return)) :
    (c.play ms).pool.Upholds ((c.play ms).Serving c) (fun h _ => OneAtATime (c.play ms).Locking h)
      (fun h i ph => ph.Apart (c.play ms).Locking h i) := by
  refine c.play_upholds (upheld_oneAtATime _ fun i op hop => ?_) ?_ ?_ ms (play_serving c ms)
  · obtain ⟨job, hjob, rfl⟩ := hop
    rw [c.operation_guarded_iff]
    constructor
    · rintro ⟨job', hjob', hne⟩
      rw [hjob] at hjob'
      cases hjob'
      exact hne
    · exact fun hne => ⟨job, hjob, hne⟩
  · intro i j e f e' hs
    cases List.sublist_nil.1 hs
  · intro h k n op _ _ hnew _ e he
    exact absurd rfl (hnew _ he)

/-- Whatever happens is done by a job that was started. -/
theorem play_started (c : Setup B) (ms : List (Move B.Return)) {e : Event B.toBoundary}
    (he : (i, e) ∈ (c.play ms).past) : ∃ job, (c.play ms).jobs[i]? = some job := by
  have rule : Upheld ((c.play ms).Serving c) (fun h _ => ∀ x ∈ h, ∃ op, (c.play ms).Serving c x.1 op)
      (fun _ _ _ => True) := by
    refine ⟨fun hops _ hj _ _ => ⟨fun x hx => ?_, fun _ _ => trivial⟩, fun _ _ _ _ _ _ _ _ => trivial⟩
    rcases List.mem_append.1 hx with hx | hx
    · exact hj x hx
    · obtain ⟨e, -, rfl⟩ := List.mem_map.1 hx
      exact ⟨_, hops⟩
  obtain ⟨op, job, hjob, -⟩ := (c.play_upholds rule (List.forall_mem_nil _) (fun _ _ _ => trivial) ms
    (play_serving c ms)).world (i, e) he
  exact ⟨job, hjob⟩

/-- A job that needs the lock turns to the outside only before or only behind another such one. -/
theorem play_apart (hi : (c.play ms).Locking i) (hj : (c.play ms).Locking j)
    {a b : List (Nat × Event B.toBoundary)} {e e' f : Event B.toBoundary}
    (hsplit : (c.play ms).past = a ++ (j, f) :: b) (hbefore : (i, e) ∈ a) (hbehind : (i, e') ∈ b)
    (he : e.Outward) (hf : f.Outward) (he' : e'.Outward) : j = i := by
  have hs : ([(i, e)] ++ [(j, f), (i, e')]).Sublist (c.play ms).past := by
    rw [hsplit]
    exact (List.singleton_sublist.2 hbefore).append ((List.singleton_sublist.2 hbehind).cons_cons _)
  exact (play_oneAtATime c ms).world i j e f e' hs hi hj he hf he'

/-- No other job that needs the lock turns to the outside between two turnings of one. -/
theorem play_between (hi : (c.play ms).Locking i) (hj : (c.play ms).Locking j)
    {a m b : List (Nat × Event B.toBoundary)} {e e' f : Event B.toBoundary}
    (hsplit : (c.play ms).past = a ++ (i, e) :: (m ++ (i, e') :: b)) (hm : (j, f) ∈ m)
    (he : e.Outward) (hf : f.Outward) (he' : e'.Outward) : j = i := by
  obtain ⟨m₁, m₂, rfl⟩ := List.append_of_mem hm
  have hsplit : (c.play ms).past = (a ++ (i, e) :: m₁) ++ (j, f) :: (m₂ ++ (i, e') :: b) := by
    rw [hsplit]
    simp
  exact play_apart hi hj hsplit (by simp) (by simp) he hf he'

/-- A job that turns to the outside behind a turning of another one that is not the last does so only behind
the last. -/
theorem play_behind (hi : (c.play ms).Locking i) (hj : (c.play ms).Locking j) (hij : j ≠ i)
    {a m b : List (Nat × Event B.toBoundary)} {e e' f g : Event B.toBoundary}
    (hsplit : (c.play ms).past = a ++ (i, e) :: (m ++ (i, e') :: b)) (he : e.Outward) (he' : e'.Outward)
    (hf : f.Outward) (hg : g.Outward) (hbehind : (j, f) ∈ m ++ (i, e') :: b) (hmem : (j, g) ∈ (c.play ms).past) :
    (j, g) ∈ b := by
  have hsplit' : (c.play ms).past = (a ++ (i, e) :: m) ++ (i, e') :: b := by
    rw [hsplit]
    simp
  have hown {x y : Event B.toBoundary} : (j, x) ≠ (i, y) := fun h => hij (Prod.mk.inj h).1
  have hb : (j, f) ∈ b := by
    rcases List.mem_append.1 hbehind with h | h
    · exact absurd (play_between hi hj hsplit h he hf he') hij
    · exact (List.mem_cons.1 h).resolve_left hown
  rw [hsplit'] at hmem
  rcases List.mem_append.1 hmem with h | h
  · exact absurd (play_apart hj hi hsplit' h hb hg he' hf).symm hij
  · exact (List.mem_cons.1 h).resolve_left hown

theorem play_accounts (c : Setup B) (ms : List (Move B.Return)) : (c.play ms).Accounts := by
  refine play_induct (P := Run.Accounts) (fun n hn => absurd hn (Nat.not_lt_zero n)) (fun ms m hr => ?_) ms
  cases m with
  | start job => exact hr.start job
  | turn place => exact hr.turn (play_oneAtATime c ms).orderly place

theorem play_followed (htells : ∀ r : Request, (c.operation r).Tells came none) (ms : List (Move B.Return)) :
    (c.play ms).pool.Upholds ((c.play ms).Serving c) (Followed came ((c.play ms).Serving c))
      (fun h i ph => ph.Follows came ((c.play ms).Serving c) h i) := by
  refine c.play_upholds (upheld_followed came _) ⟨rfl, nofun, fun _ _ ha => nomatch ha⟩ ?_ ms (play_serving c ms)
  rintro h k n _ - ⟨job, hjob, rfl⟩ hnew
  refine ⟨?_, _, none, ⟨job, hjob, rfl⟩, ?_, nofun⟩
  · rw [lastCame_fresh hnew]
    exact htells job.request
  · have hnone : eventsOf n h = [] := List.filterMap_eq_nil_iff.2 fun e he => if_neg (hnew e he)
    rw [hnone]
    exact .fresh _

/-- In every run, the client is the one that the history tells of. -/
theorem play_told (htells : ∀ r : Request, (c.operation r).Tells came none) (ms : List (Move B.Return)) :
    (c.play ms).pool.world.client = told came (c.play ms).past :=
  (play_followed htells ms).world.client

/-- In every run, the events of a job are its course so far, on the handle that the client had when its
task entered, and a job that has not ended stands where its course has got to. -/
theorem play_course (htells : ∀ r : Request, (c.operation r).Tells came none)
    (hjob : (c.play ms).jobs[i]? = some job) :
    ∃ v at?, (c.operation job.request).Course (eventsOf i (c.play ms).past) v at? ∧
      (∀ w ∈ v, Found came (c.play ms).past i w) ∧ ∀ ph ∈ at?, (i, ph) ∈ (c.play ms).pool.standing := by
  have hfollowed := play_followed htells ms
  obtain ⟨hlt, -⟩ := List.getElem?_eq_some_iff.1 hjob
  have hserving {op : Operation B.toBoundary} (hop : (c.play ms).Serving c i op) :
      op = c.operation job.request := by
    obtain ⟨job', hjob', rfl⟩ := hop
    rw [hjob] at hjob'
    cases hjob'
    rfl
  rcases play_accounts c ms i hlt with ⟨ph, hph⟩ | ⟨a, ha⟩
  · obtain ⟨op, v, hops, hcourse, hfound⟩ := (hfollowed.tasks _ hph).course
    refine ⟨v, some ph, hserving hops ▸ hcourse, hfound, fun ph' hph' => ?_⟩
    exact Option.some.inj hph' ▸ hph
  · obtain ⟨op, v, hops, hcourse, hfound⟩ := hfollowed.world.ended i a ha
    exact ⟨v, none, hserving hops ▸ hcourse, hfound, fun _ hph => nomatch hph⟩

/-- A task that entered on a connected client works on the handle that the client had then. -/
theorem play_entered (htells : ∀ r : Request, (c.operation r).Tells came none)
    (hjob : (c.play ms).jobs[i]? = some job) {a b : List (Nat × Event B.toBoundary)}
    (hentered : (c.play ms).past = a ++ (i, .entered .connected) :: b) :
    ∃ v at?, (c.operation job.request).Course (eventsOf i (c.play ms).past) (some v) at? ∧
      told came a = ⟨.connected, some v⟩ := by
  obtain ⟨v, at?, hcourse, hfound, -⟩ := play_course htells hjob
  have hevents (a b : List (Nat × Event B.toBoundary)) : eventsOf i (a ++ (i, .entered .connected) :: b) =
      eventsOf i a ++ .entered .connected :: eventsOf i b := by
    rw [eventsOf_append, eventsOf_cons_own]
  have honce {a b : List (Nat × Event B.toBoundary)}
      (h : (c.play ms).past = a ++ (i, .entered .connected) :: b) : eventsOf i a = [.began .connected] := by
    rw [h, hevents] at hcourse
    exact hcourse.entered_once
  cases v with
  | none =>
    refine absurd ?_ hcourse.not_entered
    rw [hentered, hevents]
    simp
  | some v =>
    obtain ⟨a', b', h', htold⟩ := hfound v rfl
    obtain ⟨rfl, -⟩ := eq_of_eventsOf (hentered.symm.trans h') ((honce hentered).trans (honce h').symm)
    exact ⟨v, at?, hcourse, htold⟩

/-- What happens behind an inner event of a job happens behind its entering. -/
theorem play_behind_entered (htells : ∀ r : Request, (c.operation r).Tells came none)
    (hjob : (c.play ms).jobs[i]? = some job) {a b a' b' : List (Nat × Event B.toBoundary)}
    {e : Event B.toBoundary} (hentered : (c.play ms).past = a ++ (i, .entered .connected) :: b)
    (hsplit : (c.play ms).past = a' ++ (i, e) :: b') (he : e.Inner) : ∀ x ∈ b', x ∈ b := by
  have hne {x : List (Nat × Event B.toBoundary)} : (i, .entered .connected) :: b ≠ (i, e) :: x := by
    intro h
    rw [← (Prod.mk.inj (List.cons.inj h).1).2] at he
    exact he
  rcases List.append_eq_append_iff.1 (hentered.symm.trans hsplit) with ⟨m, rfl, hm⟩ | ⟨m, rfl, hm⟩
  · cases m with
    | nil => exact absurd hm hne
    | cons x m =>
      rw [(List.cons.inj hm).2]
      exact fun x hx => by simp [hx]
  · cases m with
    | nil => exact absurd hm.symm hne
    | cons x m =>
      -- before its entering the job has only begun
      obtain ⟨rfl, -⟩ := List.cons.inj hm
      obtain ⟨v, at?, hcourse, -, -⟩ := play_course htells hjob
      rw [hentered, eventsOf_append, eventsOf_cons_own] at hcourse
      have hbegun := hcourse.entered_once
      rw [eventsOf_append, eventsOf_cons_own] at hbegun
      have hmem : e ∈ [Event.began .connected] := by
        rw [← hbegun]
        simp
      rw [List.mem_singleton.1 hmem] at he
      exact he.elim

/-- A job that has replied has gone through its whole course. -/
theorem play_replied (htells : ∀ r : Request, (c.operation r).Tells came none)
    (hjob : (c.play ms).jobs[i]? = some job) {a : Reply} (ha : (i, .replied a) ∈ (c.play ms).past) :
    ∃ v, (c.operation job.request).Course (eventsOf i (c.play ms).past) v none ∧
      ∀ w ∈ v, Found came (c.play ms).past i w := by
  obtain ⟨v, at?, hcourse, hfound, -⟩ := play_course htells hjob
  cases at? with
  | none => exact ⟨v, hcourse, hfound⟩
  | some ph => exact absurd (mem_eventsOf.2 ha) (hcourse.unreplied a)

/-- Once a job that needs the lock turns to the outside, every other one that did so before has gone
through its whole course. -/
theorem play_passed_on (htells : ∀ r : Request, (c.operation r).Tells came none)
    (hjob : (c.play ms).jobs[j]? = some job) (hj : job.request ≠ .connect) (hi : (c.play ms).Locking i)
    {a b : List (Nat × Event B.toBoundary)} {e f : Event B.toBoundary}
    (hsplit : (c.play ms).past = a ++ (i, f) :: b) (hbefore : (j, e) ∈ a) (he : e.Outward)
    (hf : f.Outward) (hij : i ≠ j) :
    ∃ v, (c.operation job.request).Course (eventsOf j (c.play ms).past) v none ∧
      ∀ w ∈ v, Found came (c.play ms).past j w := by
  obtain ⟨v, at?, hcourse, hfound, hstanding⟩ := play_course htells hjob
  cases at? with
  | none => exact ⟨v, hcourse, hfound⟩
  | some ph =>
    -- a task that still stands there would have been left undisturbed
    have hapart := (play_oneAtATime c ms).tasks _ (hstanding ph rfl)
    have hs : ([(j, e)] ++ [(i, f)]).Sublist (c.play ms).past := by
      rw [hsplit]
      exact (List.singleton_sublist.2 hbefore).append (List.singleton_sublist.2 List.mem_cons_self)
    exact absurd (hapart.undisturbed ⟨job, hjob, hj⟩ i e f hs hi he hf) hij

end Setup

end Play

end RecordStore
