/-
The calls that tasks hand over, each with the identifiers its task drew before it. What is true of
the calls of a program, whatever answers it gets, is true of them in every run in which a task runs
that program among others: what the others do meanwhile makes no difference to it.
-/
import RecordStore.Proofs.Schedule.Upheld

namespace RecordStore

/-! ## Programs -/

section Boundary

variable {B : Boundary} {α : Type} {P : List Value → B.Call → Prop} {Q : List Value → Prop}
  {drawn : List Value} {c c' : Client} {es fs : List (Event B)}

/-- The identifier that was drawn. -/
def Event.drawn? : Event B → Option Value
  | .drew (.ok id) => some id
  | _ => none

/-- `P` holds of each call of the program and the identifiers drawn before it, the first of which
were drawn before the program began. -/
def Program.Hands (P : List Value → B.Call → Prop) : List Value → Program B α → Prop
  | _, .done _ => True
  | drawn, .call k next => P drawn k ∧ ∀ r, (next r).Hands P drawn
  | drawn, .draw next => ∀ r, (next r).Hands P (drawn ++ (Event.drew (B := B) r).drawn?.toList)
  | drawn, .log _ next => next.Hands P drawn
  | drawn, .connect _ next => next.Hands P drawn
  | drawn, .close next => next.Hands P drawn

theorem Program.Hands.mono {P' : List Value → B.Call → Prop} (hPP : ∀ d k, P d k → P' d k) :
    ∀ {p : Program B α} {drawn : List Value}, p.Hands P drawn → p.Hands P' drawn
  | .done _, _, _ => trivial
  | .call _ next, _, h => ⟨hPP _ _ h.1, fun r => Program.Hands.mono hPP (p := next r) (h.2 r)⟩
  | .draw next, _, h => fun r => Program.Hands.mono hPP (p := next r) (h r)
  | .log _ next, _, h => Program.Hands.mono hPP (p := next) h
  | .connect _ next, _, h => Program.Hands.mono hPP (p := next) h
  | .close next, _, h => Program.Hands.mono hPP (p := next) h

/-- `P` holds of each call among the events and the identifiers drawn before it, and `Q` of those that
are drawn in the end. -/
def HandedTo (P : List Value → B.Call → Prop) (Q : List Value → Prop) :
    List Value → List (Event B) → Prop
  | drawn, [] => Q drawn
  | drawn, e :: es => (∀ k, e = .called k → P drawn k) ∧ HandedTo P Q (drawn ++ e.drawn?.toList) es

/-- The event neither makes a call nor draws an identifier. -/
def Event.Silent (e : Event B) : Prop := e.drawn? = none ∧ ∀ k, e ≠ .called k

theorem HandedTo.cons {e : Event B} (he : e.drawn? = none) (hk : ∀ k, e = .called k → P drawn k)
    (hes : HandedTo P Q drawn es) : HandedTo P Q drawn (e :: es) := by
  refine ⟨hk, ?_⟩
  rw [he, Option.toList_none, List.append_nil]
  exact hes

theorem HandedTo.silent (he : ∀ e ∈ es, e.Silent) (hq : Q drawn) : HandedTo P Q drawn es := by
  induction es with
  | nil => exact hq
  | cons e es ih =>
    obtain ⟨⟨hdrawn, hcall⟩, hes⟩ := List.forall_mem_cons.1 he
    exact .cons hdrawn (fun k hk => absurd hk (hcall k)) (ih hes)

theorem HandedTo.append (hes : HandedTo P (fun d => HandedTo P Q d fs) drawn es) :
    HandedTo P Q drawn (es ++ fs) := by
  induction es generalizing drawn with
  | nil => exact hes
  | cons e es ih => exact ⟨hes.1, ih hes.2⟩

theorem HandedTo.mono {R : List Value → Prop} (hqr : ∀ d, Q d → R d) (hes : HandedTo P Q drawn es) :
    HandedTo P R drawn es := by
  induction es generalizing drawn with
  | nil => exact hqr _ hes
  | cons e es ih => exact ⟨hes.1, ih hes.2⟩

/-- What runs hands over the calls of its program, and what is left hands over the others. -/
theorem Program.Runs.hands {p q : Program B α} (h : p.Runs c es c' q) (hp : p.Hands P drawn) :
    HandedTo P (fun d => q.Hands P d) drawn es := by
  induction h generalizing drawn with
  | here c p => exact hp
  | call r _ ih =>
    refine .cons rfl (fun k hk => ?_) (.cons rfl nofun (ih (hp.2 r)))
    cases hk
    exact hp.1
  | draw r _ ih => exact ⟨nofun, ih (hp r)⟩
  | log _ ih => exact .cons rfl nofun (ih hp)
  | connect _ ih => exact .cons rfl nofun (ih hp)
  | close _ ih => exact .cons rfl nofun (ih hp)

/-! ## Tasks -/

def Operation.Hands (P : List Value → B.Call → Prop) (drawn : List Value) : Operation B → Prop
  | .free start => ∀ s, (start s).Hands P drawn
  | .guarded _ body => ∀ v, (body v).Hands P drawn

theorem Operation.Hands.mono {P' : List Value → B.Call → Prop} (hPP : ∀ d k, P d k → P' d k)
    {op : Operation B} (h : op.Hands P drawn) : op.Hands P' drawn := by
  cases op with
  | free start => exact fun s => (h s).mono hPP
  | guarded refusal body => exact fun v => (h v).mono hPP

/-- `P` holds of the calls that a task still makes. -/
def Phase.Hands (P : List Value → B.Call → Prop) (drawn : List Value) : Phase B → Prop
  | .start op => op.Hands P drawn
  | .claiming g => ∀ v, (g.body v).Hands P drawn
  | .holding call => ∀ r, (call.next r).Hands P drawn
  | .free call => ∀ r, (call.next r).Hands P drawn

/-- In one turn a program hands over calls of its own; `hwait` says that what is left is still to
hand over the others. -/
theorem Program.Turn.hands {p : Program B α} {last : α → List (Event B)} {wait : Pending B α → Phase B}
    {after : Option (Phase B)} (h : p.Turn last wait c es c' after) (hp : p.Hands P drawn)
    (hlast : ∀ a, ∀ e ∈ last a, e.Silent)
    (hwait : ∀ call d, (∀ r, (call.next r).Hands P d) → (wait call).Hands P d) :
    HandedTo P (fun d => ∀ ph ∈ after, ph.Hands P d) drawn es := by
  cases h with
  | ends hruns =>
    exact ((hruns.hands hp).mono fun d _ => .silent (hlast _) fun _ hph => nomatch hph).append
  | waits call hruns =>
    refine ((hruns.hands hp).mono fun d hcall => .cons rfl (fun k hk => ?_) fun ph hph => ?_).append
    · cases hk
      exact hcall.1
    · exact Option.mem_some.1 hph ▸ hwait call d hcall.2

theorem Ending.events_silent : ∀ (a : Ending), ∀ e ∈ a.events (B := B), e.Silent :=
  Ending.events_all (fun _ => ⟨rfl, nofun⟩) fun _ => ⟨rfl, nofun⟩

theorem Phase.Turn.hands {under : Bool} {ph : Phase B} {after : Option (Phase B)}
    (h : ph.Turn c under es c' after) (hph : ph.Hands P drawn) :
    HandedTo P (fun d => ∀ ph' ∈ after, ph'.Hands P d) drawn es := by
  have hreply : ∀ a : Reply, ∀ e ∈ [Event.replied (B := B) a], e.Silent :=
    fun a => List.forall_mem_singleton.2 ⟨rfl, nofun⟩
  induction h with
  | passes ph => exact fun ph' hph' => Option.mem_some.1 hph' ▸ hph
  | begins hturn => exact .cons rfl nofun (hturn.hands (hph _) hreply fun _ _ => id)
  | roams hturn => exact .cons rfl nofun (hturn.hands (hph _) hreply fun _ _ => id)
  | refused => exact .silent (by simp [Event.Silent, Event.drawn?]) fun _ hph => nomatch hph
  | parks => exact .cons rfl nofun fun ph' hph' => Option.mem_some.1 hph' ▸ hph
  | atOnce _ _ ih => exact .cons rfl nofun (ih hph)
  | enters _ hturn => exact .cons rfl nofun (hturn.hands (hph _) Ending.events_silent fun _ _ => id)
  | turnedAway => exact .silent (by simp [Event.Silent, Event.drawn?]) fun _ hph => nomatch hph
  | resumes hturn => exact .cons rfl nofun (hturn.hands (hph _) Ending.events_silent fun _ _ => id)

/-! ## Histories -/

/-- The identifiers a task drew. -/
def drawnBy (i : Nat) (h : List (Nat × Event B)) : List Value :=
  h.filterMap fun e => if e.1 = i then e.2.drawn? else none

/-- `P` holds of each call in the history, its task, and the identifiers that the task drew before. -/
def Handed (P : Nat → List Value → B.Call → Prop) (h : List (Nat × Event B)) : Prop :=
  ∀ (n i : Nat) (k : B.Call), h[n]? = some (i, .called k) → P i (drawnBy i (h.take n)) k

section Histories

variable {P : Nat → List Value → B.Call → Prop} {h : List (Nat × Event B)} {i j : Nat}

theorem drawnBy_own (e : Event B) : drawnBy i (h ++ [(i, e)]) = drawnBy i h ++ e.drawn?.toList := by
  cases he : e.drawn? <;> simp [drawnBy, he]

theorem drawnBy_other (hij : j ≠ i) : drawnBy j (h ++ es.map fun e => (i, e)) = drawnBy j h := by
  simp [drawnBy, Ne.symm hij]

theorem drawnBy_eq_nil (hi : ∀ e ∈ h, e.1 ≠ i) : drawnBy i h = [] :=
  List.filterMap_eq_nil_iff.2 fun e he => if_neg (hi e he)

theorem Handed.concat (hh : Handed P h) {e : Event B}
    (he : ∀ k, e = .called k → P i (drawnBy i h) k) : Handed P (h ++ [(i, e)]) := by
  intro n j k hn
  by_cases hlt : n < h.length
  · rw [List.getElem?_append_left hlt] at hn
    rw [List.take_append_of_le_length (Nat.le_of_lt hlt)]
    exact hh n j k hn
  · obtain ⟨hle, hlast⟩ := List.getElem?_eq_some_iff.1 hn
    obtain rfl : n = h.length := by
      rw [List.length_append, List.length_singleton] at hle
      omega
    rw [List.getElem_concat_length rfl] at hlast
    cases hlast
    rw [List.take_left]
    exact he k rfl

theorem Handed.append (hh : Handed P h) (hes : HandedTo (P i) Q (drawnBy i h) es) :
    Handed P (h ++ es.map fun e => (i, e)) ∧ Q (drawnBy i (h ++ es.map fun e => (i, e))) := by
  induction es generalizing h with
  | nil =>
    rw [List.map_nil, List.append_nil]
    exact ⟨hh, hes⟩
  | cons e es ih =>
    rw [List.map_cons, List.append_cons]
    refine ih (hh.concat hes.1) ?_
    rw [drawnBy_own]
    exact hes.2

/-- Every turn keeps what is true of the calls of each operation. -/
theorem upheld_handed (P : Nat → List Value → B.Call → Prop) :
    Upheld (fun n op => op.Hands (P n) []) (fun h _ => Handed P h)
      (fun h i ph => ph.Hands (P i) (drawnBy i h)) where
  turn := fun _ _ hh hph hturn => hh.append (hturn.hands hph)
  aside := by
    intro h c c' i j op ph ph' under es after _ _ _ _ _ hij hph _
    rw [drawnBy_other hij]
    exact hph

end Histories

end Boundary

/-- What is true of the calls of each job's operation holds throughout the run. -/
theorem Setup.play_handed {B : Scripted} (c : Setup B) (P : Nat → List Value → B.Call → Prop)
    (ms : List (Move B.Return))
    (hops : ∀ n job, (c.play ms).jobs[n]? = some job → (c.operation job.request).Hands (P n) []) :
    Handed P (c.play ms).pool.world.history :=
  (c.play_upholds (upheld_handed P) (fun _ _ _ hn => nomatch hn)
    (fun _ hop hnew => by rw [drawnBy_eq_nil hnew]; exact hop) ms hops).world

end RecordStore
