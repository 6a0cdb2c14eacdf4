/-
Where answers come from. In every run, a call comes back with what an entry of a script makes of it, by
the number of openings that were asked for until then. The openings are counted in the history, so no two
of them have the same number.
-/
import RecordStore.Proofs.Schedule.Upheld

namespace RecordStore

variable {B : Scripted} {h : List (Nat × Event B.toBoundary)} {i j : Nat}

/-- How many openings were asked for. -/
def asked (h : List (Nat × Event B.toBoundary)) : Nat :=
  h.countP fun e => match e.2 with
    | .called k => B.opening k
    | _ => false

theorem asked_append (h k : List (Nat × Event B.toBoundary)) : asked (h ++ k) = asked h + asked k :=
  List.countP_append

/-- The event belongs to a call: it is made, or it comes back. -/
def Event.Exchanges {B : Boundary} : Event B → Prop
  | .called _ => True
  | .answered _ _ => True
  | _ => False

/-- The task made the call, and an entry of a script makes this of it. -/
def Answers (h : List (Nat × Event B.toBoundary)) (i : Nat) (k : B.Call) (r : Except Fault (B.Answer k)) :
    Prop :=
  ∃ a b, h = a ++ (i, .called k) :: b ∧ ∃ e : Entry B.Return, r = e.result k (asked (a ++ [(i, .called k)]))

theorem Answers.append {k : B.Call} {r : Except Fault (B.Answer k)} (ha : Answers h i k r)
    (k' : List (Nat × Event B.toBoundary)) : Answers (h ++ k') i k r := by
  obtain ⟨a, b, rfl, he⟩ := ha
  exact ⟨a, b ++ k', by rw [List.append_assoc]; rfl, he⟩

/-- Two openings with the same number are one. -/
theorem eq_of_asked {k k' : B.Call} {a a' b b' : List (Nat × Event B.toBoundary)}
    (ha : h = a ++ (i, .called k) :: b) (ha' : h = a' ++ (j, .called k') :: b') (hk : B.opening k = true)
    (hk' : B.opening k' = true) (hasked : asked (a ++ [(i, .called k)]) = asked (a' ++ [(j, .called k')])) :
    i = j := by
  -- a later opening has a greater number
  have hlater {i j : Nat} {k k' : B.Call} {a c : List (Nat × Event B.toBoundary)}
      (hk' : B.opening k' = true) :
      asked (a ++ [(i, .called k)]) < asked (a ++ (i, .called k) :: c ++ [(j, .called k')]) := by
    simp [asked, List.countP_append, List.countP_cons, hk']
  rcases List.append_eq_append_iff.1 (ha.symm.trans ha') with ⟨c, rfl, hc⟩ | ⟨c, rfl, hc⟩
  · cases c with
    | nil => exact (Prod.mk.inj (List.cons.inj hc).1).1
    | cons x c =>
      obtain ⟨rfl, -⟩ := List.cons.inj hc
      exact absurd hasked (Nat.ne_of_lt (hlater hk'))
  · cases c with
    | nil => exact (Prod.mk.inj (List.cons.inj hc).1).1.symm
    | cons x c =>
      obtain ⟨rfl, -⟩ := List.cons.inj hc
      exact absurd hasked.symm (Nat.ne_of_lt (hlater hk))

/-! ## Worlds -/

/-- The world counts the openings, and every answer comes from a script. -/
structure World.Answered (w : World B.toBoundary) : Prop where
  openings : w.openings = asked w.history
  history : ∀ i k r, (i, .answered k r) ∈ w.history → Answers w.history i k r

namespace World.Answered

variable {w w' : World B.toBoundary} {k : List (Nat × Event B.toBoundary)}

/-- Events that belong to no call make no difference. -/
theorem quiet (hw : w.Answered) (ho : w'.openings = w.openings) (hh : w'.history = w.history ++ k)
    (hk : ∀ x ∈ k, ¬ x.2.Exchanges) : w'.Answered := by
  have hnone : asked k = 0 := by
    refine List.countP_eq_zero.2 fun x hx => ?_
    obtain ⟨i, e⟩ := x
    have he := hk _ hx
    cases e with
    | called c => exact absurd trivial he
    | _ => exact Bool.false_ne_true
  refine ⟨?_, fun i c r hmem => ?_⟩
  · rw [ho, hh, hw.openings, asked_append, hnone]
    rfl
  · rw [hh] at hmem ⊢
    rcases List.mem_append.1 hmem with hmem | hmem
    · exact (hw.history i c r hmem).append k
    · exact absurd trivial (hk _ hmem)

theorem step (hw : w.Answered) (id : Nat) (e : Event B.toBoundary) (he : ¬ e.Exchanges)
    (ho : w'.openings = w.openings) (hh : w'.history = w.history ++ [(id, e)]) : w'.Answered :=
  hw.quiet ho hh (List.forall_mem_singleton.2 he)

/-- An answer from a script. -/
theorem answer (hw : w.Answered) {id : Nat} {c : B.Call} {r : Except Fault (B.Answer c)}
    (hr : Answers w.history id c r) : (w.record id (.answered c r)).Answered := by
  refine ⟨?_, fun i c' r' hmem => ?_⟩
  · show w.openings = asked (w.history ++ [(id, .answered c r)])
    rw [asked_append, hw.openings]
    rfl
  · refine RecordStore.Answers.append ?_ [(id, .answered c r)]
    rcases List.mem_append.1 hmem with hmem | hmem
    · exact hw.history i c' r' hmem
    · cases List.mem_singleton.1 hmem
      exact hr

/-- A call is counted, and whatever entry it takes, its answer comes from a script. -/
theorem ask (hw : w.Answered) (id : Nat) (c : B.Call) :
    (w.ask id c).Answered ∧
      ∀ e : Entry B.Return, Answers (w.ask id c).history id c (e.result c (w.ask id c).openings) := by
  have hopenings : (w.ask id c).openings = asked (w.ask id c).history := by
    show w.openings + _ = asked (w.history ++ [(id, .called c)])
    rw [asked_append, hw.openings]
    simp [asked]
  refine ⟨⟨hopenings, fun i k r hmem => ?_⟩, fun e => ⟨w.history, [], rfl, e, ?_⟩⟩
  · have hold : (i, .answered k r) ∈ w.history := by
      rcases List.mem_append.1 hmem with hmem | hmem
      · exact hmem
      · cases List.mem_singleton.1 hmem
    exact (hw.history i k r hold).append _
  · rw [hopenings]
    rfl

end World.Answered

theorem advance_answered {α : Type} (ids : IdSource) (id : Nat) (p : Program B.toBoundary α)
    {w : World B.toBoundary} (hw : w.Answered) (script : List (Entry B.Return)) :
    (advance ids id w script p).1.Answered ∧
      ∀ call delay script', (advance ids id w script p).2 = .suspended call delay script' →
        Answers (advance ids id w script p).1.history id call.call call.result := by
  induction p generalizing w script with
  | done a => exact ⟨hw, fun _ _ _ hs => nomatch hs⟩
  | log r next ih =>
    refine ih ?_ script
    exact hw.step id (.logged r) (fun h => h) rfl rfl
  | draw next ih =>
    refine ih _ ?_ script
    exact hw.step id (.drew _) (fun h => h) rfl rfl
  | connect v next ih =>
    refine ih ?_ script
    exact hw.step id (.became .connected) (fun h => h) rfl rfl
  | close next ih =>
    refine ih ?_ script
    exact hw.step id (.became .closed) (fun h => h) rfl rfl
  | call c next ih =>
    obtain ⟨hasked, hanswers⟩ := hw.ask id c
    unfold advance
    cases ht : (B.nextEntry c script).1.ticks with
    | zero =>
      simp only [ht]
      exact ih _ (hasked.answer (hanswers _)) _
    | succ n =>
      simp only [ht]
      refine ⟨hasked, fun call delay script' hs => ?_⟩
      cases hs
      exact hanswers _

/-! ## Pools -/

/-- A call that the task is in will come back with an answer from a script. -/
def Phase.Answers (h : List (Nat × Event B.toBoundary)) (i : Nat) : Phase B.toBoundary → Prop
  | .holding call => RecordStore.Answers h i call.call call.result
  | .free call => RecordStore.Answers h i call.call call.result
  | _ => True

theorem Phase.Answers.append {ph : Phase B.toBoundary} (ha : ph.Answers h i)
    (k : List (Nat × Event B.toBoundary)) : ph.Answers (h ++ k) i := by
  cases ph with
  | holding | free => exact RecordStore.Answers.append ha k
  | _ => trivial

namespace Pool

variable {p q : Pool B}

/-- Answers come from scripts, and so will those that are still to come. -/
structure Answered (p : Pool B) : Prop where
  world : p.world.Answered
  tasks : ∀ t ∈ p.tasks, t.phase.Answers p.world.history t.id

/-- The pool goes on with some of its tasks, in a world that has grown. -/
theorem Answered.grow (hp : p.Answered) (hw : q.world.Answered)
    (hh : ∃ k, q.world.history = p.world.history ++ k) (ht : ∀ t ∈ q.tasks, t ∈ p.tasks) : q.Answered := by
  obtain ⟨k, hk⟩ := hh
  exact ⟨hw, fun t hmem => hk ▸ (hp.tasks t (ht t hmem)).append k⟩

theorem Answered.release (hp : p.Answered) : p.release.Answered := by
  refine hp.grow ?_ ⟨[], by rw [history_release, List.append_nil]⟩ (by rw [tasks_release]; exact fun _ ht => ht)
  unfold Pool.release
  split
  · exact hp.world.quiet rfl (List.append_nil _).symm (List.forall_mem_nil _)
  · exact hp.world

theorem Answered.record (hp : p.Answered) (id : Nat) (e : Event B.toBoundary) (he : ¬ e.Exchanges) :
    Answered { p with world := p.world.record id e } :=
  hp.grow (hp.world.step id e he rfl rfl) ⟨_, rfl⟩ fun _ ht => ht

theorem Answered.finish (hp : p.Answered) (id : Nat) (reply : Reply) (script : List (Entry B.Return)) :
    (p.finish id reply script).Answered :=
  hp.grow (hp.world.step id (.replied reply) (fun h => h) rfl rfl) ⟨_, rfl⟩ fun _ ht => ht

theorem Answered.enqueue (hp : p.Answered) {t : Task B} (ht : t.phase.Answers p.world.history t.id) :
    (p.enqueue t).Answered := by
  refine ⟨hp.world, fun u hu => ?_⟩
  simp only [Pool.tasks, Pool.enqueue, List.append_assoc, List.mem_append, List.mem_singleton] at hu
  rcases hu with hu | rfl | hu
  · exact hp.tasks u (List.mem_append_left _ hu)
  · exact ht
  · exact hp.tasks u (List.mem_append_right _ hu)

/-- A program that went on in its turn. -/
theorem Answered.advance {α : Type} (hp : p.Answered) (ids : IdSource) (id : Nat)
    (script : List (Entry B.Return)) (program : Program B.toBoundary α) :
    Answered { p with world := (advance ids id p.world script program).1 } := by
  obtain ⟨es, -, hh⟩ := advance_runs ids id program p.world script
  exact hp.grow (advance_answered ids id program hp.world script).1 ⟨_, hh⟩ fun _ ht => ht

theorem goFree_answered (ids : IdSource) (id : Nat) (hp : p.Answered) (script : List (Entry B.Return))
    (program : Program B.toBoundary Reply) : (goFree ids p id script program).Answered := by
  have hgone := hp.advance ids id script program
  have hanswers := (advance_answered ids id program hp.world script).2
  unfold goFree
  split
  · rename_i ha
    rw [ha] at hgone
    exact hgone.finish id _ _
  · rename_i ha
    rw [ha] at hgone hanswers
    exact hgone.enqueue (hanswers _ _ _ rfl)

theorem goHolding_answered (ids : IdSource) (id : Nat) (hp : p.Answered) (script : List (Entry B.Return))
    (program : Program B.toBoundary Ending) : (goHolding ids p id script program).Answered := by
  have hgone := hp.advance ids id script program
  have hanswers := (advance_answered ids id program hp.world script).2
  unfold goHolding
  split
  · rename_i w ending script' ha
    rw [ha] at hgone
    have hlogged : (({ p with world := w } : Pool B).release.logAll id ending.afterwards).Answered :=
      hgone.release.grow (hgone.release.world.quiet rfl rfl fun x hx => by
        obtain ⟨e, he, rfl⟩ := List.mem_map.1 hx
        obtain ⟨r, -, rfl⟩ := List.mem_map.1 he
        exact fun h => h) ⟨_, rfl⟩ fun _ ht => ht
    exact hlogged.finish id _ _
  · rename_i ha
    rw [ha] at hgone hanswers
    exact hgone.enqueue (hanswers _ _ _ rfl)

theorem enter_answered (ids : IdSource) (id : Nat) (hp : p.Answered) (script : List (Entry B.Return))
    (g : Guarded B.toBoundary) : (enter ids p id script g).Answered := by
  have hentered := hp.record id (.entered p.world.client.state) fun h => h
  unfold enter
  dsimp only
  split
  · exact goHolding_answered ids id hentered script _
  · exact hentered.release.finish id _ _

/-- A call that comes back to a task in its turn brings the answer that was to come. -/
theorem Answered.resume (hp : p.Answered) {id : Nat} {α : Type} {call : Pending B.toBoundary α}
    (hcall : RecordStore.Answers p.world.history id call.call call.result) :
    Answered { p with world := p.world.record id call.event } :=
  hp.grow (hp.world.answer hcall) ⟨_, rfl⟩ fun _ ht => ht

/-- The turn of a task leaves answers to come from scripts. -/
theorem take_answered (ids : IdSource) (hp : p.Answered) {t : Task B}
    (ht : t.phase.Answers p.world.history t.id) : (take ids p t).Answered := by
  obtain ⟨id, phase, delay, script⟩ := t
  cases delay with
  | succ delay => exact hp.enqueue ht
  | zero =>
    cases phase with
    | free call => exact goFree_answered ids id (hp.resume ht) script _
    | holding call => exact goHolding_answered ids id (hp.resume ht) script _
    | claiming g => exact enter_answered ids id hp script g
    | start op =>
      have hbegan := hp.record id (.began p.world.client.state) fun h => h
      cases op with
      | free start => exact goFree_answered ids id hbegan script _
      | guarded refusal body =>
        simp only [take]
        split
        · exact hbegan.finish id _ _
        · split
          · refine ⟨hbegan.world, fun u hu => ?_⟩
            simp only [Pool.tasks, ← List.append_assoc, List.mem_append (s := p.ready ++ p.parked),
              List.mem_singleton] at hu
            rcases hu with hu | rfl
            · exact hbegan.tasks u hu
            · trivial
          · refine enter_answered ids id ?_ script _
            exact hbegan.grow (hbegan.world.quiet rfl (List.append_nil _).symm (List.forall_mem_nil _))
              ⟨[], (List.append_nil _).symm⟩ fun _ ht => ht

end Pool

/-! ## Runs -/

/-- In every run, each answer comes from a script, by the openings that were asked for. -/
theorem Setup.play_answered (c : Setup B) (ms : List (Move B.Return)) : (c.play ms).pool.Answered := by
  refine play_induct (P := fun r => r.pool.Answered) ⟨⟨rfl, fun _ _ _ h => nomatch h⟩, List.forall_mem_nil _⟩
    (fun ms m hr => ?_) ms
  cases m with
  | start job => exact hr.enqueue trivial
  | turn place =>
    unfold Run.move
    dsimp only
    split
    · exact hr
    · rename_i t hready
      have ht : t ∈ (c.play ms).pool.tasks := List.mem_append_left _ (List.mem_of_getElem? hready)
      refine Pool.take_answered c.ids ?_ (hr.tasks t ht)
      refine hr.grow hr.world ⟨[], (List.append_nil _).symm⟩ fun u hu => ?_
      rcases List.mem_append.1 hu with hu | hu
      · exact List.mem_append_left _ (List.mem_of_mem_eraseIdx hu)
      · exact List.mem_append_right _ hu

end RecordStore
