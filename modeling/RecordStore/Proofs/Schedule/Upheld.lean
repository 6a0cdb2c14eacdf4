/-
Facts about runs, by two proofs: one about the task whose turn it is, and one about the tasks that
stand by. What both kinds of turns keep holds throughout every run of one client and for every pool
that runs to its end.
-/
import RecordStore.Proofs.Schedule.Turn
import Mathlib.Data.List.Induction

namespace RecordStore

/-! ## Events of one task -/

/-- Every event of the task is of this kind. -/
def Throughout {B : Boundary} (P : Event B → Prop) (h : List (Nat × Event B)) (i : Nat) : Prop :=
  ∀ e, (i, e) ∈ h → P e

namespace Throughout

variable {B : Boundary} {P Q : Event B → Prop} {h : List (Nat × Event B)} {i j : Nat}
  {es : List (Event B)}

theorem mono (hPQ : ∀ e, P e → Q e) (ho : Throughout P h i) : Throughout Q h i :=
  fun e he => hPQ e (ho e he)

theorem own (ho : Throughout P h i) (hes : ∀ e ∈ es, P e) :
    Throughout P (h ++ es.map fun e => (i, e)) i := by
  intro e he
  rcases List.mem_append.1 he with he | he
  · exact ho e he
  · obtain ⟨e', he', heq⟩ := List.mem_map.1 he
    exact (Prod.mk.inj heq).2 ▸ hes e' he'

theorem other (ho : Throughout P h j) (hij : j ≠ i) :
    Throughout P (h ++ es.map fun e => (i, e)) j := by
  intro e he
  rcases List.mem_append.1 he with he | he
  · exact ho e he
  · obtain ⟨_, -, heq⟩ := List.mem_map.1 he
    exact absurd (congrArg Prod.fst heq).symm hij

end Throughout

/-! ## What every turn keeps -/

/-- `J`, said of the history and the client, and `A`, said of each task and where it stands, are kept
by every turn. The turn of a task keeps what is said of that task, and it keeps what is said of
another one, which is not in a call under the lock if the turn is taken under the lock. `ops` tells
which operation each task serves. -/
structure Upheld {B : Boundary} (ops : Nat → Operation B → Prop)
    (J : List (Nat × Event B) → Client → Prop) (A : List (Nat × Event B) → Nat → Phase B → Prop) :
    Prop where
  turn : ∀ {h : List (Nat × Event B)} {c c' : Client} {i : Nat} {op : Operation B} {ph : Phase B}
    {under : Bool} {es : List (Event B)} {after : Option (Phase B)}, ops i op → ph.Of op → J h c →
    A h i ph → ph.Turn c under es c' after → J (h ++ es.map fun e => (i, e)) c' ∧
      ∀ ph' ∈ after, A (h ++ es.map fun e => (i, e)) i ph'
  aside : ∀ {h : List (Nat × Event B)} {c c' : Client} {i j : Nat} {op : Operation B}
    {ph ph' : Phase B} {under : Bool} {es : List (Event B)} {after : Option (Phase B)},
    ops i op → ph.Of op → J h c → A h i ph → ph.Turn c under es c' after → j ≠ i → A h j ph' →
    (under = true → ¬ ph'.Inside) → A (h ++ es.map fun e => (i, e)) j ph'

/-- What is upheld is upheld as well when it is said of what was added to some past alone. -/
theorem Upheld.since {B : Boundary} {ops : Nat → Operation B → Prop}
    {J : List (Nat × Event B) → Client → Prop} {A : List (Nat × Event B) → Nat → Phase B → Prop}
    (rule : Upheld ops J A) (past : List (Nat × Event B)) :
    Upheld ops (fun h c => ∃ new, h = past ++ new ∧ J new c)
      (fun h i ph => ∀ new, h = past ++ new → A new i ph) where
  turn := by
    rintro _ c c' i op ph under es after hops hop ⟨new, rfl, hj⟩ ha hturn
    obtain ⟨hj', ha'⟩ := rule.turn hops hop hj (ha new rfl) hturn
    refine ⟨⟨_, List.append_assoc .., hj'⟩, fun ph' hph new' hnew => ?_⟩
    rw [List.append_assoc] at hnew
    exact List.append_cancel_left hnew ▸ ha' ph' hph
  aside := by
    rintro _ c c' i j op ph ph' under es after hops hop ⟨new, rfl, hj⟩ ha hturn hij ha' hinside
      new' hnew
    rw [List.append_assoc] at hnew
    exact List.append_cancel_left hnew ▸
      rule.aside hops hop hj (ha new rfl) hturn hij (ha' new rfl) hinside

namespace Pool

variable {B : Scripted} {ops : Nat → Operation B.toBoundary → Prop}
  {J : List (Nat × Event B.toBoundary) → Client → Prop}
  {A : List (Nat × Event B.toBoundary) → Nat → Phase B.toBoundary → Prop} {p : Pool B}

/-- An orderly pool of tasks with different numbers that serve their operations, of which `J` and `A`
hold. -/
structure Upholds (ops : Nat → Operation B.toBoundary → Prop)
    (J : List (Nat × Event B.toBoundary) → Client → Prop)
    (A : List (Nat × Event B.toBoundary) → Nat → Phase B.toBoundary → Prop) (p : Pool B) : Prop where
  orderly : p.Orderly
  distinct : (p.standing.map Prod.fst).Nodup
  serves : ∀ s ∈ p.standing, ∃ op, ops s.1 op ∧ s.2.Of op
  world : J p.world.history p.world.client
  tasks : ∀ s ∈ p.standing, A p.world.history s.1 s.2

theorem standing_split {t : Task B} {l r : List (Task B)} (hr : p.ready = l ++ t :: r) :
    p.standing.Perm ((t.id, t.phase) :: standing { p with ready := l ++ r }) := by
  simp only [standing, Pool.tasks, hr, List.append_assoc, List.cons_append, List.map_append,
    List.map_cons]
  exact List.perm_middle

/-- The turn of any ready task keeps what is upheld. -/
theorem Upholds.take (ids : IdSource) (rule : Upheld ops J A) (h : p.Upholds ops J A) {t : Task B}
    {l r : List (Task B)} (hr : p.ready = l ++ t :: r) :
    (take ids { p with ready := l ++ r } t).Upholds ops J A := by
  have hsplit := standing_split hr
  obtain ⟨under, es, after, hturn, hgrows, hq, hinside⟩ := take_turn ids h.orderly hr
  have hmem {s : Nat × Phase B.toBoundary} (hs : s ∈ standing { p with ready := l ++ r }) :
      s ∈ p.standing := hsplit.mem_iff.2 (List.mem_cons_of_mem _ hs)
  have hself : (t.id, t.phase) ∈ p.standing := hsplit.mem_iff.2 List.mem_cons_self
  obtain ⟨op, hops, hop⟩ := h.serves _ hself
  obtain ⟨hworld, hafter⟩ := rule.turn hops hop h.world (h.tasks _ hself) hturn
  obtain ⟨hother, hdistinct⟩ := List.nodup_cons.1 ((hsplit.map Prod.fst).nodup_iff.1 h.distinct)
  -- who stands in the pool afterwards: those that stood there before, and perhaps the task itself
  have hstands {s : Nat × Phase B.toBoundary}
      (hs : s ∈ (Pool.take ids { p with ready := l ++ r } t).standing) :
      s ∈ standing { p with ready := l ++ r } ∨ ∃ ph ∈ after, s = (t.id, ph) := by
    rcases List.mem_append.1 (hgrows.standing.mem_iff.1 hs) with hs | hs
    · exact .inl hs
    · obtain ⟨ph, hph, rfl⟩ := Option.map_eq_some_iff.1 (Option.mem_toList.1 hs)
      exact .inr ⟨ph, hph, rfl⟩
  refine ⟨hq, ?_, fun s hs => ?_, hgrows.history ▸ hworld, fun s hs => ?_⟩
  · refine ((hgrows.standing.map Prod.fst).nodup_iff).2 ?_
    cases after with
    | none => simpa using hdistinct
    | some ph =>
      have hmoved := List.perm_append_singleton t.id ((standing { p with ready := l ++ r }).map Prod.fst)
      simpa using (hmoved.nodup_iff).2 (List.nodup_cons.2 ⟨hother, hdistinct⟩)
  · rcases hstands hs with hs | ⟨ph, hph, rfl⟩
    · exact h.serves s (hmem hs)
    · cases Option.mem_def.1 hph
      exact ⟨op, hops, hturn.of hop⟩
  · rw [hgrows.history]
    rcases hstands hs with hs | ⟨ph, hph, rfl⟩
    · have hne : s.1 ≠ t.id := fun heq => hother (List.mem_map.2 ⟨s, hs, heq⟩)
      exact rule.aside hops hop h.world (h.tasks _ hself) hturn hne (h.tasks s (hmem hs))
        fun hunder => hinside hunder s hs
    · exact hafter ph hph

/-- A pool that ran to its end upholds what it upheld before. -/
theorem Upholds.run (ids : IdSource) (rule : Upheld ops J A) (h : p.Upholds ops J A) :
    (p.run ids).Upholds ops J A := by
  induction p using Pool.run.induct ids with
  | case1 p hr =>
    rw [run_nil ids hr]
    exact h
  | case2 p t ts hr ih =>
    rw [run_cons ids hr]
    exact ih (h.take ids rule (l := []) hr)

/-- An orderly pool that ran to its end has ended every task once; its lock is free and nobody waits
for it. -/
theorem run_ends (ids : IdSource) (hp : p.Orderly) :
    (p.run ids).tasks = [] ∧ (p.run ids).world.locked = false ∧
      (p.run ids).gone.Perm (p.gone ++ p.standing.map Prod.fst) := by
  induction p using Pool.run.induct ids with
  | case1 p hr =>
    rw [run_nil ids hr]
    -- no task is ready, so none has the lock, and then none is parked
    rcases hp.owned with ⟨-, t, ht⟩ | ⟨hl, -, hparked⟩
    · simp [holders, hr] at ht
    · have htasks : p.tasks = [] := by rw [Pool.tasks, hr, hparked]; rfl
      exact ⟨htasks, hl, by simp [standing, htasks]⟩
  | case2 p t ts hr ih =>
    rw [run_cons ids hr]
    obtain ⟨-, _, after, -, hgrows, hq, -⟩ := take_turn ids hp (l := []) hr
    have hsplit := (standing_split (l := []) hr).map Prod.fst
    rw [List.nil_append] at hgrows hq hsplit
    obtain ⟨htasks, hl, hgone⟩ := ih hq
    refine ⟨htasks, hl, hgone.trans ?_⟩
    have hstanding := hgrows.standing.map Prod.fst
    rw [hgrows.gone]
    refine ((hstanding.append_left _).trans ?_).trans (hsplit.symm.append_left _)
    cases after with
    | none => simp [gone]
    | some ph =>
      have hmoved := List.perm_append_singleton t.id ((standing { p with ready := ts }).map Prod.fst)
      simpa [gone] using hmoved.append_left p.gone

end Pool

/-! ## Runs -/

section Play

variable {B : Scripted} {ops : Nat → Operation B.toBoundary → Prop}
  {J : List (Nat × Event B.toBoundary) → Client → Prop}
  {A : List (Nat × Event B.toBoundary) → Nat → Phase B.toBoundary → Prop}

/-- The numbers of tasks and of events are numbers of jobs. -/
structure Run.Numbered (r : Run B) : Prop where
  standing : ∀ s ∈ r.pool.standing, s.1 < r.jobs.length
  history : ∀ e ∈ r.pool.world.history, e.1 < r.jobs.length

/-- Where an element stands in a list. -/
theorem split_getElem? {α : Type} {l : List α} {i : Nat} {a : α} (h : l[i]? = some a) :
    l = l.take i ++ a :: l.drop (i + 1) := by
  obtain ⟨hi, rfl⟩ := List.getElem?_eq_some_iff.1 h
  rw [List.getElem_cons_drop, List.take_append_drop]

/-- Where an element stands in a list, and the list without it. -/
theorem split_eraseIdx {α : Type} {l : List α} {i : Nat} {a : α} (h : l[i]? = some a) :
    ∃ before after, l = before ++ a :: after ∧ l.eraseIdx i = before ++ after :=
  ⟨l.take i, l.drop (i + 1), split_getElem? h, List.eraseIdx_eq_take_drop_succ l i⟩

theorem Run.upholds_start (c : Setup B)
    (start : ∀ {h : List (Nat × Event B.toBoundary)} {k : Client} {n : Nat}
      {op : Operation B.toBoundary}, J h k → ops n op → (∀ e ∈ h, e.1 ≠ n) → A h n (.start op))
    {r : Run B} (h : r.pool.Upholds ops J A) (hn : r.Numbered) (job : Job B.Return)
    (hops : ops r.jobs.length (c.operation job.request)) :
    (r.move c (.start job)).pool.Upholds ops J A ∧ (r.move c (.start job)).Numbered := by
  have hstanding := Pool.standing_enqueue r.pool
    { id := r.jobs.length, phase := .start (c.operation job.request), script := job.script }
  have hstands {s : Nat × Phase B.toBoundary} (hs : s ∈ (r.move c (.start job)).pool.standing) :
      s ∈ r.pool.standing ∨ s = (r.jobs.length, .start (c.operation job.request)) := by
    rcases List.mem_append.1 (hstanding.mem_iff.1 hs) with hs | hs
    · exact .inl hs
    · exact .inr (List.mem_singleton.1 hs)
  have hlength : (r.move c (.start job)).jobs.length = r.jobs.length + 1 := List.length_append
  refine ⟨⟨h.orderly.enqueue rfl, ?_, fun s hs => ?_, h.world, fun s hs => ?_⟩,
    fun s hs => ?_, fun e he => ?_⟩
  · refine ((hstanding.map Prod.fst).nodup_iff).2 ?_
    rw [List.map_append, List.nodup_append]
    refine ⟨h.distinct, by simp, fun n hn' m hm heq => ?_⟩
    obtain ⟨s, hs, rfl⟩ := List.mem_map.1 hn'
    exact absurd (hn.standing s hs) (by simp at hm; omega)
  · rcases hstands hs with hs | rfl
    · exact h.serves s hs
    · exact ⟨_, hops, rfl⟩
  · rcases hstands hs with hs | rfl
    · exact h.tasks s hs
    · exact start h.world hops fun e he => Nat.ne_of_lt (hn.history e he)
  · rw [hlength]
    rcases hstands hs with hs | rfl
    · exact Nat.lt_succ_of_lt (hn.standing s hs)
    · exact Nat.lt_succ_self _
  · rw [hlength]
    exact Nat.lt_succ_of_lt (hn.history e he)

theorem Run.upholds_turn (c : Setup B) (rule : Upheld ops J A) {r : Run B}
    (h : r.pool.Upholds ops J A) (hn : r.Numbered) (place : Nat) :
    (r.move c (.turn place)).pool.Upholds ops J A ∧ (r.move c (.turn place)).Numbered := by
  unfold Run.move
  dsimp only
  split
  · exact ⟨h, hn⟩
  · rename_i t hready
    obtain ⟨before, after, hr, herase⟩ := split_eraseIdx hready
    rw [herase]
    have hsplit := Pool.standing_split hr
    obtain ⟨-, es, _, -, hgrows, -⟩ := Pool.take_turn c.ids h.orderly hr
    have hid : t.id < r.jobs.length := hn.standing _ (hsplit.mem_iff.2 List.mem_cons_self)
    refine ⟨h.take c.ids rule hr, fun s hs => ?_, fun e he => ?_⟩
    · rcases List.mem_append.1 (hgrows.standing.mem_iff.1 hs) with hs | hs
      · exact hn.standing s (hsplit.mem_iff.2 (List.mem_cons_of_mem _ hs))
      · obtain ⟨ph, -, rfl⟩ := Option.map_eq_some_iff.1 (Option.mem_toList.1 hs)
        exact hid
    · rw [hgrows.history] at he
      rcases List.mem_append.1 he with he | he
      · exact hn.history e he
      · obtain ⟨_, -, rfl⟩ := List.mem_map.1 he
        exact hid

/-- What is upheld by turns and holds of a run, and of each task that starts, holds however the run goes on. -/
theorem Run.upholds_moves (c : Setup B) (rule : Upheld ops J A)
    (start : ∀ {h : List (Nat × Event B.toBoundary)} {k : Client} {n : Nat}
      {op : Operation B.toBoundary}, J h k → ops n op → (∀ e ∈ h, e.1 ≠ n) → A h n (.start op))
    {r : Run B} (h : r.pool.Upholds ops J A) (hn : r.Numbered) (ms : List (Move B.Return))
    (hops : ∀ n job, (ms.foldl (Run.move c) r).jobs[n]? = some job → ops n (c.operation job.request)) :
    (ms.foldl (Run.move c) r).pool.Upholds ops J A ∧ (ms.foldl (Run.move c) r).Numbered := by
  induction ms using List.reverseRecOn with
  | nil => exact ⟨h, hn⟩
  | append_singleton ms m ih =>
    rw [List.foldl_concat] at hops ⊢
    generalize ms.foldl (Run.move c) r = r' at ih hops ⊢
    cases m with
    | start job =>
      obtain ⟨h, hn⟩ := ih fun n job' hjob => by
        obtain ⟨hlt, -⟩ := List.getElem?_eq_some_iff.1 hjob
        exact hops n job' ((List.getElem?_append_left hlt).trans hjob)
      exact Run.upholds_start c start h hn job (hops _ job List.getElem?_concat_length)
    | turn place =>
      have hjobs : (r'.move c (.turn place)).jobs = r'.jobs := by
        unfold Run.move
        dsimp only
        split <;> rfl
      rw [hjobs] at hops
      obtain ⟨h, hn⟩ := ih hops
      exact Run.upholds_turn c rule h hn place

/-- What is upheld by turns and holds of a fresh client, and of each task that starts, holds
throughout every run. -/
theorem Setup.play_upholds (c : Setup B) (rule : Upheld ops J A) (fresh : J [] {})
    (start : ∀ {h : List (Nat × Event B.toBoundary)} {k : Client} {n : Nat}
      {op : Operation B.toBoundary}, J h k → ops n op → (∀ e ∈ h, e.1 ≠ n) → A h n (.start op))
    (ms : List (Move B.Return))
    (hops : ∀ n job, (c.play ms).jobs[n]? = some job → ops n (c.operation job.request)) :
    (c.play ms).pool.Upholds ops J A := by
  refine (Run.upholds_moves c rule start ?_ ?_ ms hops).1
  · exact ⟨⟨List.forall_mem_nil _, .inr ⟨rfl, rfl, rfl⟩⟩, List.nodup_nil, List.forall_mem_nil _, fresh,
      List.forall_mem_nil _⟩
  · exact ⟨List.forall_mem_nil _, List.forall_mem_nil _⟩

/-- The numbers of tasks and events are numbers of jobs throughout every run. -/
theorem Setup.play_numbered (c : Setup B) (ms : List (Move B.Return)) : (c.play ms).Numbered := by
  have rule : Upheld (fun _ _ => True) (fun (_ : List (Nat × Event B.toBoundary)) _ => True)
      (fun _ _ _ => True) :=
    ⟨fun _ _ _ _ _ => ⟨trivial, fun _ _ => trivial⟩, fun _ _ _ _ _ _ _ _ => trivial⟩
  refine (Run.upholds_moves c rule (fun _ _ _ => trivial) ?_ ?_ ms fun _ _ _ => trivial).2
  · exact ⟨⟨List.forall_mem_nil _, .inr ⟨rfl, rfl, rfl⟩⟩, List.nodup_nil, List.forall_mem_nil _, trivial,
      List.forall_mem_nil _⟩
  · exact ⟨List.forall_mem_nil _, List.forall_mem_nil _⟩

end Play

end RecordStore
