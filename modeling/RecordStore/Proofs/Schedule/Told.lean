/-
The client that a history tells of. The handle that an operation makes the client a connected one on
is the last that came back to its own task, so the history alone says which handle the client has at
every point. A task under the lock works on the handle that the client had when it entered.
-/
import Mathlib.Data.List.Induction
import RecordStore.Proofs.Schedule.Course

namespace RecordStore

/-! ## Handles that come back -/

section Boundary

variable {B : Boundary} {α : Type} {came : (k : B.Call) → B.Answer k → Option Value}
  {h : List (Nat × Event B)} {i j : Nat} {c c' : Client} {es : List (Event B)}

/-- The handle that an event brings in, where `came` says which handles answers bring in. -/
def Event.came? (came : (k : B.Call) → B.Answer k → Option Value) : Event B → Option Value
  | .answered k (.ok x) => came k x
  | _ => none

/-- The handle that came back to a task last. -/
def lastCame (came : (k : B.Call) → B.Answer k → Option Value) (i : Nat) (h : List (Nat × Event B)) :
    Option Value :=
  ((eventsOf i h).filterMap (Event.came? came)).getLast?

theorem lastCame_own (e : Event B) :
    lastCame came i (h ++ [(i, e)]) = (e.came? came).or (lastCame came i h) := by
  have hone : eventsOf i [(i, e)] = [e] := eventsOf_own [e]
  unfold lastCame
  rw [eventsOf_append, hone, List.filterMap_append, List.getLast?_append]
  cases he : e.came? came <;> simp [he]

theorem lastCame_other (hij : j ≠ i) (es : List (Event B)) :
    lastCame came j (h ++ es.map fun e => (i, e)) = lastCame came j h := by
  unfold lastCame
  rw [eventsOf_append, eventsOf_other hij, List.append_nil]

theorem lastCame_fresh (hi : ∀ e ∈ h, e.1 ≠ i) : lastCame came i h = none := by
  have hnone : eventsOf i h = [] := List.filterMap_eq_nil_iff.2 fun e he => if_neg (hi e he)
  rw [lastCame, hnone]
  rfl

/-! ## The client -/

/-- The client after an event of a task that `last` came back to last. -/
def Client.next (c : Client) (last : Option Value) : Event B → Client
  | .became .connected => ⟨.connected, last⟩
  | .became s => ⟨s, none⟩
  | _ => c

def toldFrom (came : (k : B.Call) → B.Answer k → Option Value) (past : List (Nat × Event B))
    (c : Client) : List (Nat × Event B) → Client
  | [] => c
  | (i, e) :: h => toldFrom came (past ++ [(i, e)]) (c.next (lastCame came i past) e) h

/-- The client that a history tells of. -/
def told (came : (k : B.Call) → B.Answer k → Option Value) (h : List (Nat × Event B)) : Client :=
  toldFrom came [] {} h

theorem told_concat (i : Nat) (e : Event B) :
    told came (h ++ [(i, e)]) = (told came h).next (lastCame came i h) e := by
  have hfrom : ∀ (past : List (Nat × Event B)) (c : Client), toldFrom came past c (h ++ [(i, e)]) =
      (toldFrom came past c h).next (lastCame came i (past ++ h)) e := by
    induction h with
    | nil =>
      intro past c
      rw [List.append_nil]
      rfl
    | cons x h ih =>
      intro past c
      rw [List.append_cons past x h]
      exact ih _ _
  exact hfrom [] {}

/-- Only events that change the client make a difference to it. -/
theorem told_append {k : List (Nat × Event B)} (hk : ∀ e ∈ k, ∀ s, e.2 ≠ .became s) :
    told came (h ++ k) = told came h := by
  induction k generalizing h with
  | nil => rw [List.append_nil]
  | cons x k ih =>
    obtain ⟨hx, hk⟩ := List.forall_mem_cons.1 hk
    rw [List.append_cons, ih hk]
    obtain ⟨i, e⟩ := x
    rw [told_concat]
    cases e with
    | became s => exact absurd rfl (hx s)
    | _ => rfl

theorem came_of_lastCame {v : Value} (h' : lastCame came i h = some v) :
    ∃ e, (i, e) ∈ h ∧ e.came? came = some v := by
  obtain ⟨e, he, hv⟩ := List.mem_filterMap.1 (List.mem_of_getLast? h')
  exact ⟨e, mem_eventsOf.1 he, hv⟩

/-- A client that is a connected one was made so by a task, on what had come back to it last. -/
theorem made_of_told {v : Value} (h' : told came h = ⟨.connected, some v⟩) :
    ∃ k a b, h = a ++ (k, .became .connected) :: b ∧ lastCame came k a = some v := by
  induction h using List.reverseRecOn with
  | nil => cases h'
  | append_singleton h x ih =>
    obtain ⟨k, e⟩ := x
    rw [told_concat] at h'
    have hearlier (h' : told came h = ⟨.connected, some v⟩) : ∃ j a b,
        h ++ [(k, e)] = a ++ (j, .became .connected) :: b ∧ lastCame came j a = some v := by
      obtain ⟨j, a, b, rfl, hlast⟩ := ih h'
      exact ⟨j, a, b ++ [(k, e)], by simp, hlast⟩
    cases e with
    | became s =>
      cases s with
      | connected => exact ⟨k, h, [], rfl, congrArg Client.handle h'⟩
      | unconnected | closed => cases h'
    | _ => exact hearlier h'

/-! ## Programs and tasks -/

/-- The program makes the client a connected one on the last handle that came back, `last` before it
begins. -/
def Program.Tells (came : (k : B.Call) → B.Answer k → Option Value) :
    Option Value → Program B α → Prop
  | _, .done _ => True
  | last, .call k next => ∀ r, (next r).Tells came (((Event.answered k r).came? came).or last)
  | last, .draw next => ∀ r, (next r).Tells came last
  | last, .log _ next => next.Tells came last
  | last, .connect v next => last = some v ∧ next.Tells came last
  | last, .close next => next.Tells came last

theorem Program.NeverConnects.tells : ∀ {p : Program B α} {last : Option Value},
    p.NeverConnects → p.Tells came last
  | .done _, _, _ => trivial
  | .call _ next, _, hp => fun r => tells (p := next r) (hp r)
  | .draw next, _, hp => fun r => tells (p := next r) (hp r)
  | .log _ next, _, hp => tells (p := next) hp
  | .close next, _, hp => tells (p := next) hp

/-- A program that goes on with another one, `last` being the handle that came back before both. -/
theorem Program.Passive.tells_bind {β : Type} {p : Program B α} {f : α → Program B β} (hp : p.Passive)
    {last : Option Value} (hf : ∀ es a, p.Ends es a →
      (f a).Tells came ((es.filterMap (Event.came? came)).getLast?.or last)) :
    (p.bind f).Tells came last := by
  induction p generalizing last with
  | done a => exact hf [] a ⟨rfl, rfl⟩
  | call k next ih =>
    intro r
    refine ih r (hp r) fun es a hends => ?_
    have htells := hf _ a ⟨r, es, rfl, hends⟩
    rw [List.filterMap_cons_none rfl] at htells
    cases hr : (Event.answered k r).came? came with
    | none =>
      rw [List.filterMap_cons_none hr] at htells
      exact htells
    | some v =>
      rw [List.filterMap_cons_some hr, List.getLast?_cons] at htells
      cases hlast : (es.filterMap (Event.came? came)).getLast? <;> simpa [hlast] using htells
  | log r next ih => exact ih hp fun es a hends => hf (.logged r :: es) a ⟨es, rfl, hends⟩
  | draw | connect | close => exact hp.elim

/-- What runs changes the client as its events tell, and what is left goes on so. -/
theorem Program.Runs.tells {p q : Program B α} (hruns : p.Runs c es c' q)
    (hp : p.Tells came (lastCame came i h)) (hc : c = told came h) :
    c' = told came (h ++ es.map fun e => (i, e)) ∧
      q.Tells came (lastCame came i (h ++ es.map fun e => (i, e))) := by
  induction hruns generalizing h with
  | here c p => simpa using And.intro hc hp
  | @call c c' k next es q r _ ih =>
    rw [List.map_cons, List.map_cons, List.append_cons, List.append_cons]
    refine ih ?_ ?_
    · rw [lastCame_own, lastCame_own]
      exact hp r
    · rw [told_concat, told_concat]
      exact hc
  | draw r _ ih =>
    rw [List.map_cons, List.append_cons]
    exact ih (by rw [lastCame_own]; exact hp r) (by rw [told_concat]; exact hc)
  | log _ ih =>
    rw [List.map_cons, List.append_cons]
    exact ih (by rw [lastCame_own]; exact hp) (by rw [told_concat]; exact hc)
  | connect _ ih =>
    rw [List.map_cons, List.append_cons]
    refine ih (by rw [lastCame_own]; exact hp.2) ?_
    rw [told_concat, hp.1]
    rfl
  | close _ ih =>
    rw [List.map_cons, List.append_cons]
    exact ih (by rw [lastCame_own]; exact hp) (by rw [told_concat]; rfl)

def Operation.Tells (came : (k : B.Call) → B.Answer k → Option Value) (last : Option Value) :
    Operation B → Prop
  | .free start => ∀ s, (start s).Tells came last
  | .guarded _ body => ∀ v, (body v).Tells came last

/-- What the task still does makes the client a connected one on the last handle that came back. -/
def Phase.Tells (came : (k : B.Call) → B.Answer k → Option Value) (last : Option Value) :
    Phase B → Prop
  | .start op => op.Tells came last
  | .claiming g => ∀ v, (g.body v).Tells came last
  | .holding call => ∀ r, (call.next r).Tells came (((Event.answered call.call r).came? came).or last)
  | .free call => ∀ r, (call.next r).Tells came (((Event.answered call.call r).came? came).or last)

/-- The event is no call that comes back and does not change the client. -/
def Event.Idle : Event B → Prop
  | .answered _ _ => False
  | .became _ => False
  | _ => True

theorem told_idle (hes : ∀ e ∈ es, e.Idle) :
    told came (h ++ es.map fun e => (i, e)) = told came h :=
  told_append fun x hx s hs => by
    obtain ⟨e, he, rfl⟩ := List.mem_map.1 hx
    obtain rfl : e = .became s := hs
    exact hes _ he

theorem lastCame_idle (hes : ∀ e ∈ es, e.Idle) :
    lastCame came i (h ++ es.map fun e => (i, e)) = lastCame came i h := by
  induction es generalizing h with
  | nil => simp
  | cons e es ih =>
    obtain ⟨he, hes⟩ := List.forall_mem_cons.1 hes
    rw [List.map_cons, List.append_cons, ih hes, lastCame_own]
    cases e with
    | answered k r => exact he.elim
    | _ => rfl

theorem Program.Turn.tells {p : Program B α} {last : α → List (Event B)} {wait : Pending B α → Phase B}
    {after : Option (Phase B)} (hturn : p.Turn last wait c es c' after)
    (hp : p.Tells came (lastCame came i h)) (hc : c = told came h)
    (hlast : ∀ a, ∀ e ∈ last a, e.Idle)
    (hwait : ∀ call last, (∀ r, (call.next r).Tells came (((Event.answered call.call r).came? came).or last)) →
      (wait call).Tells came last) :
    c' = told came (h ++ es.map fun e => (i, e)) ∧
      ∀ ph ∈ after, ph.Tells came (lastCame came i (h ++ es.map fun e => (i, e))) := by
  cases hturn with
  | ends hruns =>
    obtain ⟨rfl, -⟩ := hruns.tells hp hc
    refine ⟨?_, fun _ hph => nomatch hph⟩
    rw [List.map_append, ← List.append_assoc, told_idle (hlast _)]
  | waits call hruns =>
    obtain ⟨rfl, hcall⟩ := hruns.tells hp hc
    have hidle : ∀ e ∈ [Event.called (B := B) call.call], e.Idle := List.forall_mem_singleton.2 trivial
    rw [List.map_append, ← List.append_assoc, told_idle hidle, lastCame_idle hidle]
    exact ⟨rfl, fun ph hph => Option.mem_some.1 hph ▸ hwait call _ hcall⟩

/-- A turn changes the client as its events tell. -/
theorem Phase.Turn.tells {ph : Phase B} {under : Bool} {after : Option (Phase B)}
    (hturn : ph.Turn c under es c' after) (hph : ph.Tells came (lastCame came i h))
    (hc : c = told came h) :
    c' = told came (h ++ es.map fun e => (i, e)) ∧
      ∀ ph' ∈ after, ph'.Tells came (lastCame came i (h ++ es.map fun e => (i, e))) := by
  have hreply : ∀ a : Reply, ∀ e ∈ [Event.replied (B := B) a], e.Idle :=
    fun a => List.forall_mem_singleton.2 trivial
  -- an event in front of what a program does, after which the last handle is `last`
  have hfirst {e : Event B} (he : ∀ s, e ≠ .became s) : c = told came (h ++ [(i, e)]) := by
    rw [told_append (List.forall_mem_singleton.2 he)]
    exact hc
  induction hturn generalizing h with
  | passes ph => simpa using And.intro hc hph
  | begins hturn =>
    rw [List.map_cons, List.append_cons]
    exact hturn.tells (by rw [lastCame_own]; exact hph _) (hfirst nofun) hreply fun _ _ => id
  | roams hturn =>
    rw [List.map_cons, List.append_cons]
    exact hturn.tells (by rw [lastCame_own]; exact hph _) (hfirst nofun) hreply fun _ _ => id
  | refused hs =>
    have hidle : (Event.began (B := B) c.state).Idle := trivial
    rw [told_idle (List.forall_mem_cons.2 ⟨hidle, hreply _⟩)]
    exact ⟨hc, fun _ hph => nomatch hph⟩
  | parks hs =>
    have hidle : ∀ e ∈ [Event.began (B := B) c.state], e.Idle := List.forall_mem_singleton.2 trivial
    rw [told_idle hidle, lastCame_idle hidle]
    exact ⟨hc, fun ph hph' => Option.mem_some.1 hph' ▸ hph⟩
  | atOnce _ _ ih =>
    rw [List.map_cons, List.append_cons]
    refine ih (by rw [lastCame_own]; exact hph) (hfirst nofun) fun he => ?_
    rw [told_append (List.forall_mem_singleton.2 he)]
    exact hfirst nofun
  | enters _ hturn =>
    rw [List.map_cons, List.append_cons]
    exact hturn.tells (by rw [lastCame_own]; exact hph _) (hfirst nofun)
      (Ending.events_all (fun _ => trivial) fun _ => trivial) fun _ _ => id
  | turnedAway hnot =>
    have hidle : (Event.entered (B := B) c.state).Idle := trivial
    rw [told_idle (List.forall_mem_cons.2 ⟨hidle, hreply _⟩)]
    exact ⟨hc, fun _ hph => nomatch hph⟩
  | resumes hturn =>
    rw [List.map_cons, List.append_cons]
    exact hturn.tells (by rw [lastCame_own]; exact hph _) (hfirst nofun)
      (Ending.events_all (fun _ => trivial) fun _ => trivial) fun _ _ => id

end Boundary

end RecordStore
