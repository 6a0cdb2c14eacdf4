/-
Operations under the lock exclude each other and always finish. From the first call of one to its
last answer no other one makes a call or draws an identifier, whatever fails meanwhile and however
often calls are suspended; connecting, which needs no lock, may happen in between. A pool that ran to
its end has ended every task once, its lock is free and nobody waits for it.
-/
import RecordStore.Proofs.Schedule.Upheld
import RecordStore.Proofs.Schedule.Serial

namespace RecordStore

/-! ## One at a time -/

section Boundary

variable {B : Boundary} {guarded : Nat → Prop} {h : List (Nat × Event B)} {i j : Nat}

/-- The task turns to the outside: it makes a call, gets an answer or draws an identifier. -/
def Event.Outward : Event B → Prop
  | .called _ => True
  | .answered _ _ => True
  | .drew _ => True
  | _ => False

/-- No guarded task turns to the outside between two events in which another one does. -/
def OneAtATime (guarded : Nat → Prop) (h : List (Nat × Event B)) : Prop :=
  ∀ i j e f e', [(i, e), (j, f), (i, e')].Sublist h → guarded i → guarded j →
    e.Outward → f.Outward → e'.Outward → j = i

/-- The task has not turned to the outside. -/
def Untouched : List (Nat × Event B) → Nat → Prop := Throughout fun e => ¬ e.Outward

/-- Since the task first turned to the outside no other guarded one has. -/
def Undisturbed (guarded : Nat → Prop) (h : List (Nat × Event B)) (i : Nat) : Prop :=
  ∀ j e f, [(i, e), (j, f)].Sublist h → guarded j → e.Outward → f.Outward → j = i

theorem mem_of_pair {x y : Nat × Event B} (hs : [x, y].Sublist h) : x ∈ h ∧ y ∈ h :=
  ⟨hs.subset List.mem_cons_self, hs.subset (List.mem_cons_of_mem _ List.mem_cons_self)⟩

theorem Untouched.undisturbed (hu : Untouched h i) : Undisturbed guarded h i :=
  fun _ e _ hs _ he _ => absurd he (hu e (mem_of_pair hs).1)

theorem fst_of_mem {es : List (Event B)} {x : Nat × Event B}
    (hx : x ∈ es.map fun e => (i, e)) : x.1 = i ∧ x.2 ∈ es := by
  obtain ⟨e, he, rfl⟩ := List.mem_map.1 hx
  exact ⟨rfl, he⟩

theorem pair_append {k : List (Nat × Event B)} {x y : Nat × Event B} (hs : [x, y].Sublist (h ++ k)) :
    [x, y].Sublist h ∨ x ∈ h ∧ y ∈ k ∨ x ∈ k ∧ y ∈ k := by
  obtain ⟨l₁, l₂, hl, h₁, h₂⟩ := List.sublist_append_iff.1 hs
  rcases l₁ with _ | ⟨u, _ | ⟨v, _ | ⟨w, l₁⟩⟩⟩ <;> simp at hl
  · exact .inr (.inr (mem_of_pair (hl ▸ h₂)))
  · obtain ⟨rfl, rfl⟩ := hl
    exact .inr (.inl ⟨h₁.subset List.mem_cons_self, h₂.subset List.mem_cons_self⟩)
  · obtain ⟨rfl, rfl, rfl⟩ := hl
    exact .inl h₁

theorem Undisturbed.own (hu : Undisturbed guarded h i) (es : List (Event B)) :
    Undisturbed guarded (h ++ es.map fun e => (i, e)) i := by
  intro j e f hs hj he hf
  rcases pair_append hs with hs | ⟨-, hf'⟩ | ⟨-, hf'⟩
  · exact hu j e f hs hj he hf
  · exact (fst_of_mem hf').1
  · exact (fst_of_mem hf').1

/-- Another task that adds nothing outward, or is no guarded one, does not disturb. -/
theorem Undisturbed.other (hu : Undisturbed guarded h j) (hij : j ≠ i) {es : List (Event B)}
    (hes : guarded i → ∀ e ∈ es, ¬ e.Outward) :
    Undisturbed guarded (h ++ es.map fun e => (i, e)) j := by
  intro k e f hs hk he hf
  rcases pair_append hs with hs | ⟨-, hf'⟩ | ⟨he', -⟩
  · exact hu k e f hs hk he hf
  · obtain ⟨rfl, hmem⟩ := fst_of_mem hf'
    exact absurd hf (hes hk f hmem)
  · exact absurd (fst_of_mem he').1 hij

/-- An undisturbed task goes on alone; one that is no guarded one or adds nothing outward makes no
difference. -/
theorem OneAtATime.append (ho : OneAtATime guarded h) {es : List (Event B)}
    (hes : Undisturbed guarded h i ∨ (guarded i → ∀ e ∈ es, ¬ e.Outward)) :
    OneAtATime guarded (h ++ es.map fun e => (i, e)) := by
  intro k j e f e' hs hk hj he hf he'
  obtain ⟨l₁, l₂, hl, h₁, h₂⟩ := List.sublist_append_iff.1 hs
  -- the last of the three events is an old one, or one of those that the task adds
  rcases List.eq_nil_or_concat l₂ with rfl | ⟨l₂, z, rfl⟩
  · rw [List.append_nil] at hl
    exact ho k j e f e' (hl ▸ h₁) hk hj he hf he'
  · rw [List.concat_eq_append] at hl h₂
    rw [← List.append_assoc] at hl
    have hlast : [(k, e), (j, f)] ++ [(k, e')] = (l₁ ++ l₂) ++ [z] := hl
    obtain ⟨hpair, hz⟩ := List.append_inj' hlast rfl
    obtain rfl := List.singleton_inj.1 hz
    obtain ⟨rfl, hmem⟩ := fst_of_mem (h₂.subset (List.mem_append_right _ List.mem_cons_self))
    rcases hes with hu | hes
    · have hpair' : [(k, e), (j, f)].Sublist (h ++ es.map fun e => (k, e)) :=
        List.sublist_append_iff.2 ⟨l₁, l₂, hpair, h₁, (List.sublist_append_left _ _).trans h₂⟩
      exact hu.own es j e f hpair' hj he hf
    · exact absurd he' (hes hk e' hmem)

end Boundary

/-! ## Turns -/

section Turns

variable {B : Boundary} {guarded : Nat → Prop} {ops : Nat → Operation B → Prop}

/-- What is said of a guarded task: it has not turned to the outside, or it is in a call under the
lock and has not been disturbed since it first did. -/
def Phase.Apart (guarded : Nat → Prop) (h : List (Nat × Event B)) (i : Nat) : Phase B → Prop
  | .holding _ => Undisturbed guarded h i
  | _ => guarded i → Untouched h i

/-- A turn of a guarded operation that is not taken under the lock adds nothing outward. -/
theorem Phase.Turn.inward {op : Operation B} {c c' : Client} {ph : Phase B} {es : List (Event B)}
    {after : Option (Phase B)} (hturn : ph.Turn c false es c' after) (hop : ph.Of op)
    (hguarded : ∃ refusal body, op = .guarded refusal body) : ∀ e ∈ es, ¬ e.Outward := by
  obtain ⟨refusal, body, rfl⟩ := hguarded
  cases hturn with
  | passes ph => exact List.forall_mem_nil _
  | begins => cases hop
  | roams => obtain ⟨_, _, hfree, -⟩ := hop; cases hfree
  | refused => simp [Event.Outward]
  | parks => simp [Event.Outward]

theorem Phase.Apart.undisturbed {h : List (Nat × Event B)} {i : Nat} {ph : Phase B}
    (ha : ph.Apart guarded h i) (hi : guarded i) : Undisturbed guarded h i := by
  cases ph with
  | holding call => exact ha
  | _ => exact (ha hi).undisturbed

theorem Phase.Turn.guarded_of_under {op : Operation B} {c c' : Client} {ph : Phase B}
    {es : List (Event B)} {after : Option (Phase B)} (hturn : ph.Turn c true es c' after)
    (hop : ph.Of op) : ∃ refusal body, op = .guarded refusal body := by
  cases hturn with
  | atOnce => exact ⟨_, _, hop.symm⟩
  | enters => exact ⟨_, _, hop⟩
  | turnedAway => exact ⟨_, _, hop⟩
  | resumes =>
    obtain ⟨refusal, body, -, hop, -⟩ := hop
    exact ⟨refusal, body, hop⟩

theorem Phase.Turn.holding_of_under {c c' : Client} {ph ph' : Phase B} {es : List (Event B)}
    (hturn : ph.Turn c true es c' (some ph')) : ∃ call, ph' = .holding call := by
  generalize hu : true = under at hturn
  generalize hafter : some ph' = after at hturn
  induction hturn with
  | atOnce _ _ ih => exact ih hu hafter
  | enters _ hturn =>
    obtain ⟨call, rfl, -⟩ := (hafter ▸ hturn).leaves
    exact ⟨call, rfl⟩
  | resumes hturn =>
    obtain ⟨call, rfl, -⟩ := (hafter ▸ hturn).leaves
    exact ⟨call, rfl⟩
  | turnedAway => cases hafter
  | _ => cases hu

/-- Every turn leaves guarded tasks one at a time. -/
theorem upheld_oneAtATime (guarded : Nat → Prop)
    (hguarded : ∀ i op, ops i op → (guarded i ↔ ∃ refusal body, op = .guarded refusal body)) :
    Upheld ops (fun h _ => OneAtATime guarded h) (fun h i ph => ph.Apart guarded h i) where
  turn := by
    intro h c c' i op ph under es after hops hop ho ha hturn
    have hop' := hguarded i op hops
    cases under with
    | true =>
      have hu := ha.undisturbed (hop'.2 (hturn.guarded_of_under hop))
      refine ⟨ho.append (.inl hu), fun ph' hph => ?_⟩
      cases Option.mem_def.1 hph
      obtain ⟨call, rfl⟩ := hturn.holding_of_under
      exact hu.own es
    | false =>
      refine ⟨ho.append (.inr fun hi => hturn.inward hop (hop'.1 hi)), fun ph' hph => ?_⟩
      -- an operation without the lock is not guarded
      have hfree {start : Lifecycle → Program B Reply} (heq : op = .free start) : ¬ guarded i := by
        intro hi
        obtain ⟨_, _, hg⟩ := hop'.1 hi
        rw [heq] at hg
        cases hg
      cases Option.mem_def.1 hph
      cases hturn with
      | passes ph => simpa using ha
      | parks => exact fun hi => Throughout.own (ha hi) (by simp [Event.Outward])
      | begins hturn =>
        obtain ⟨call, rfl, -⟩ := hturn.leaves
        exact fun hi => absurd hi (hfree hop.symm)
      | roams hturn =>
        obtain ⟨call, rfl, -⟩ := hturn.leaves
        obtain ⟨_, _, heq, -⟩ := hop
        exact fun hi => absurd hi (hfree heq)
  aside := by
    intro h c c' i j op ph ph' under es after hops hop ho ha hturn hij hj hinside
    cases ph' with
    | holding call =>
      have hunder : under = false := Bool.eq_false_iff.2 fun hu => hinside hu trivial
      subst hunder
      exact hj.other hij fun hi => hturn.inward hop ((hguarded i op hops).1 hi)
    | _ => exact fun hi => Throughout.other (hj hi) hij

end Turns

/-! ## Requests started together -/

/-- Every request but connecting is served by a guarded operation. -/
theorem Setup.operation_guarded_iff {B : Scripted} (c : Setup B) (r : Request) :
    (∃ refusal body, c.operation r = .guarded refusal body) ↔ r ≠ .connect := by
  cases r with
  | connect =>
    refine ⟨?_, fun h => absurd rfl h⟩
    rintro ⟨_, _, h⟩
    cases h
  | _ => exact ⟨fun _ => nofun, fun _ => ⟨_, _, rfl⟩⟩

namespace Session

variable {B : Scripted}

/-- The jobs' tasks are numbered from `first` on: the numbers of those that need the lock. -/
def Locking {R : Type} (first : Nat) (jobs : List (Job R)) (n : Nat) : Prop :=
  ∃ k job, n = first + k ∧ jobs[k]? = some job ∧ job.request ≠ .connect

/-- The operation of the task with this number. -/
def Serving (c : Setup B) (first : Nat) (jobs : List (Job B.Return)) (n : Nat)
    (op : Operation B.toBoundary) : Prop :=
  ∃ k job, n = first + k ∧ jobs[k]? = some job ∧ op = c.operation job.request

theorem locking_iff {c : Setup B} {first : Nat} {jobs : List (Job B.Return)} {n : Nat}
    {op : Operation B.toBoundary} (h : Serving c first jobs n op) :
    Locking first jobs n ↔ ∃ refusal body, op = .guarded refusal body := by
  obtain ⟨k, job, rfl, hjob, rfl⟩ := h
  rw [c.operation_guarded_iff]
  constructor
  · rintro ⟨k', job', hk, hjob', hne⟩
    obtain rfl : k = k' := Nat.add_left_cancel hk
    rw [hjob] at hjob'
    cases hjob'
    exact hne
  · exact fun hne => ⟨k, job, rfl, hjob, hne⟩

theorem tasksOf_serving (c : Setup B) :
    ∀ (first : Nat) (jobs : List (Job B.Return)), ∀ t ∈ tasksOf c first jobs,
      ∃ op, Serving c first jobs t.id op ∧ t.phase = .start op
  | _, [] => List.forall_mem_nil _
  | first, job :: jobs => by
    intro t ht
    rcases List.mem_cons.1 ht with rfl | ht
    · exact ⟨_, ⟨0, job, rfl, rfl, rfl⟩, rfl⟩
    · obtain ⟨op, ⟨k, job', hk, hjob, hop⟩, hphase⟩ := tasksOf_serving c (first + 1) jobs t ht
      exact ⟨op, ⟨k + 1, job', by omega, hjob, hop⟩, hphase⟩

theorem tasksOf_orderly (c : Setup B) {w : World B.toBoundary} (hl : w.locked = false) (first : Nat)
    (jobs : List (Job B.Return)) : Pool.Orderly { world := w, ready := tasksOf c first jobs } := by
  refine ⟨List.forall_mem_nil _, .inr ⟨hl, List.filter_eq_nil_iff.2 fun t ht => ?_, rfl⟩⟩
  obtain ⟨op, -, hphase⟩ := tasksOf_serving c first jobs t ht
  simp [hphase, Phase.claims]

theorem tasksOf_standing (c : Setup B) (w : World B.toBoundary) (first : Nat)
    (jobs : List (Job B.Return)) :
    (Pool.standing { world := w, ready := tasksOf c first jobs }).map Prod.fst =
      List.range' first jobs.length := by
  simp only [Pool.standing, Pool.tasks, List.append_nil, List.map_map]
  exact tasksOf_id c first jobs

/-- Each of the jobs gets a reply once all its tasks have ended. -/
theorem length_replies {p : Pool B} {ts : List (Task B)} (h : ∀ t ∈ ts, t.id ∈ p.gone) :
    (ts.filterMap fun t => (p.finished.find? (·.id == t.id)).map Finished.reply).length =
      ts.length := by
  refine List.filterMap_length_eq_length.2 fun t ht => ?_
  obtain ⟨f, hf, hid⟩ := List.mem_map.1 (h t ht)
  rw [Option.isSome_map, List.find?_isSome]
  exact ⟨f, hf, by simp [hid]⟩

/-- How jobs that start together are served. -/
structure ServedApart (c : Setup B) (s : Session B.toBoundary) (jobs : List (Job B.Return)) : Prop where
  /-- Those that need the lock turn to the outside one at a time. -/
  apart : ∃ new, (s.serveTogether c jobs).1.world.history = s.world.history ++ new ∧
    OneAtATime (Locking s.tasks jobs) new
  /-- Every one is replied to. -/
  replied : (s.serveTogether c jobs).2.length = jobs.length
  /-- Every task has ended once. -/
  ended : (Pool.run c.ids { world := s.world, ready := tasksOf c s.tasks jobs }).gone.Perm
    (List.range' s.tasks jobs.length)
  /-- The lock is free again. -/
  free : (s.serveTogether c jobs).1.world.locked = false
  /-- No task is left, not even one that waits for the lock. -/
  left : (Pool.run c.ids { world := s.world, ready := tasksOf c s.tasks jobs }).tasks = []

/-- Requests of any kind that start together on a client with a free lock: between the first call of
one that needs the lock and its last answer no other such one makes a call or draws an identifier;
every request gets its reply, and at the end the lock is free and nobody waits for it. -/
theorem serveTogether_apart (c : Setup B) (s : Session B.toBoundary)
    (unlocked : s.world.locked = false) (jobs : List (Job B.Return)) : s.ServedApart c jobs := by
  have horderly := tasksOf_orderly c unlocked s.tasks jobs
  have hnumbers := tasksOf_standing c s.world s.tasks jobs
  have hupholds : Pool.Upholds (Serving c s.tasks jobs)
      (fun h _ => ∃ new, h = s.world.history ++ new ∧ OneAtATime (Locking s.tasks jobs) new)
      (fun h i ph => ∀ new, h = s.world.history ++ new → ph.Apart (Locking s.tasks jobs) new i)
      { world := s.world, ready := tasksOf c s.tasks jobs } := by
    refine ⟨horderly, ?_, fun x hx => ?_, ⟨[], (List.append_nil _).symm, ?_⟩, fun x hx => ?_⟩
    · rw [hnumbers]
      exact List.nodup_range'
    · obtain ⟨t, ht, rfl⟩ := List.mem_map.1 hx
      obtain ⟨op, hserving, hphase⟩ := tasksOf_serving c s.tasks jobs t (by simpa [Pool.tasks] using ht)
      exact ⟨op, hserving, by rw [hphase]; rfl⟩
    · intro i j e f e' h
      cases List.sublist_nil.1 h
    · obtain ⟨t, ht, rfl⟩ := List.mem_map.1 hx
      obtain ⟨op, -, hphase⟩ := tasksOf_serving c s.tasks jobs t (by simpa [Pool.tasks] using ht)
      intro new hnew
      obtain rfl : new = [] := List.append_cancel_left (hnew.symm.trans (List.append_nil _).symm)
      rw [hphase]
      intro _ e he
      cases he
  have rule : Upheld (Serving c s.tasks jobs) _ _ :=
    upheld_oneAtATime (Locking s.tasks jobs) fun _ _ => locking_iff
  have hone := hupholds.run c.ids (rule.since s.world.history)
  obtain ⟨htasks, hl, hgone⟩ := Pool.run_ends c.ids horderly
  rw [hnumbers] at hgone
  refine ⟨hone.world, ?_, hgone, hl, htasks⟩
  have hlength : (tasksOf c s.tasks jobs).length = jobs.length := by
    simpa using congrArg List.length (tasksOf_id c s.tasks jobs)
  rw [← hlength]
  refine length_replies fun t ht => hgone.mem_iff.2 (List.mem_append_right _ ?_)
  rw [← tasksOf_id c]
  exact List.mem_map_of_mem ht

/-- A creation that is suspended and fails, a connecting client, a deletion that is refused, a closing
whose call fails, and a search that finds the client closed. -/
theorem serveTogether_apart_failing :
    let c : Setup ScriptedStorage := ⟨"a.db", Driver.direct, fun n => .ok (.int n)⟩
    let s : Session Storage := { world := { client := ⟨.connected, some (.text "h1")⟩ } }
    let jobs : List (Job Value) :=
      [⟨.create (.text "t") (.map []),
          [{ ticks := 2 }, { ticks := 1, outcome := .error ⟨.missingKey, "k"⟩ }]⟩,
        ⟨.connect, []⟩, ⟨.delete (.text "t") .null, []⟩,
        ⟨.close, [{ ticks := 1, outcome := .error ⟨.engine .general, "e"⟩ }]⟩,
        ⟨.find (.text "t") .null ⟨.null, .null, .null⟩, []⟩]
    let failed : Reply → Option String := fun reply =>
      match reply.result with
      | .ok _ => none
      | .error failure => some failure.message
    s.world.locked = false ∧ s.ServedApart c jobs ∧
      (s.serveTogether c jobs).2.map failed =
        [some "'k'", none, some "Delete operation requires where clause", some "e",
          some "Database not connected. Call connect() first."] := by
  refine ⟨rfl, serveTogether_apart _ _ rfl _, ?_⟩
  unfold serveTogether
  dsimp only
  rw [Pool.run_eq_turns _ 12 (List.isEmpty_iff.1 (by decide +kernel))]
  decide +kernel

end Session

end RecordStore
