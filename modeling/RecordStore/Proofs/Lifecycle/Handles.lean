/-
No call is made on a dead handle. Whatever the client calls on a handle, an opening came back with
that handle before and it has not been passed back to be closed: the handle a connected client holds
is alive, a task under the lock works on the handle it found there, and only a task under the lock
passes one back. So no handle is closed twice, and each task makes all its calls on one handle, even
if the client gets another one meanwhile.
-/
import RecordStore.Proofs.Lifecycle.Custody
import RecordStore.Proofs.Schedule.Upheld
import Mathlib.Data.List.Nodup

namespace RecordStore

/-! ## The handles of calls -/

/-- The handle that a call is made on; an opening has none. -/
def StorageCall.handle? : StorageCall → Option Value
  | .open _ => none
  | .execute handle _ => some handle
  | .queryAll handle _ => some handle
  | .queryOne handle _ => some handle
  | .close handle => some handle

/-- A call on a handle is made on one of these. -/
def StorageCall.Within (S : Value → Prop) (k : StorageCall) : Prop := ∀ v ∈ k.handle?, S v

/-- The event is no call on other handles than these. -/
def Event.Within (S : Value → Prop) : Event Storage → Prop
  | .called k => k.Within S
  | _ => True

/-- Whether the event is neither a call nor an opening that comes back with a handle. -/
def Event.idle : Event Storage → Bool
  | .called _ => false
  | .answered (.open _) (.ok _) => false
  | _ => true

/-- All calls of the program are on these handles. -/
abbrev Program.Within {α : Type} (S : Value → Prop) (p : Program Storage α) : Prop := p.Calls (StorageCall.Within S)

abbrev noHandle : Value → Prop := fun _ => False

theorem StorageCall.Uses.within {v : Value} {k : StorageCall} (h : k.Uses v) : k.Within (· = v) := by
  cases k with
  | «open» path => exact nofun
  | close handle => exact h.elim
  | _ => exact fun w hw => (Option.some.inj hw).symm.trans h

theorem Event.Within.mono {S T : Value → Prop} (hST : ∀ v, S v → T v) {e : Event Storage}
    (h : e.Within S) : e.Within T := by
  cases e with
  | called k => exact fun v hv => hST v (h v hv)
  | _ => trivial

namespace Program

variable {α : Type} {S : Value → Prop} {v : Value} {c c' : Client} {p q : Program Storage α}
  {es : List (Event Storage)}

theorem Uses.within (h : p.Uses v) : p.Within (· = v) := h.mono (fun _ => StorageCall.Uses.within) False.elim

theorem Runs.within (h : p.Runs c es c' q) (hp : p.Within S) : ∀ e ∈ es, e.Within S := by
  induction h with
  | here c p => exact List.forall_mem_nil _
  | call r _ ih => exact List.forall_mem_cons.2 ⟨hp.1, List.forall_mem_cons.2 ⟨trivial, ih (hp.2 r)⟩⟩
  | draw r _ ih => exact List.forall_mem_cons.2 ⟨trivial, ih (hp r)⟩
  | log _ ih => exact List.forall_mem_cons.2 ⟨trivial, ih hp⟩
  | connect _ ih => exact List.forall_mem_cons.2 ⟨trivial, ih hp.2⟩
  | close _ ih => exact List.forall_mem_cons.2 ⟨trivial, ih hp.2⟩

theorem Turn.within {last : α → List (Event Storage)} {wait : Pending Storage α → Phase Storage}
    {after : Option (Phase Storage)} (h : p.Turn last wait c es c' after) (hp : p.Within S)
    (hlast : ∀ a, ∀ e ∈ last a, e.Within S) :
    (∀ e ∈ es, e.Within S) ∧
      ∀ ph ∈ after, ∃ call, ph = wait call ∧ ∀ r, (call.next r).Within S := by
  cases h with
  | @ends es _ a hruns =>
    refine ⟨fun e he => ?_, fun _ h => nomatch h⟩
    rcases List.mem_append.1 he with he | he
    · exact hruns.within hp e he
    · exact hlast a e he
  | @waits es _ call hruns =>
    obtain ⟨hcall, hnext⟩ := hp.of_leaves hruns.leaves
    refine ⟨fun e he => ?_, fun ph hph => ⟨call, (Option.mem_some.1 hph).symm, hnext⟩⟩
    rcases List.mem_append.1 he with he | he
    · exact hruns.within hp e he
    · obtain rfl := List.mem_singleton.1 he
      exact hcall

end Program

theorem Ending.events_within {S : Value → Prop} : ∀ (a : Ending), ∀ e ∈ a.events (B := Storage), e.Within S :=
  Ending.events_all (fun _ => trivial) fun _ => trivial

theorem Operation.connecting_within (path : String) (s : Lifecycle) :
    (connecting path s).Within noHandle := by
  cases s with
  | unconnected =>
    refine ⟨nofun, fun r => ?_⟩
    cases r <;> trivial
  | connected => trivial
  | closed => trivial

/-- What runs under the lock makes all its calls on the handle it finds there. -/
theorem Request.body_within {path : String} {r : Request} {refusal : Reply}
    {body : Value → Program Storage Ending} (hop : r.operation path = .guarded refusal body)
    (handle : Value) : (body handle).Within (· = handle) := by
  rcases Request.body_cases hop handle with huses | ⟨next, hbody, hends⟩
  · exact huses.within
  · rw [hbody]
    refine ⟨trivial, fun w hw => (Option.some.inj hw).symm, fun result => ?_⟩
    obtain ⟨a, ha⟩ := hends result
    rw [ha]
    trivial

/-! ## Each task has one handle -/

/-- The operation serves a request. -/
def Serves (path : String) (_ : Nat) (op : Operation Storage) : Prop :=
  ∃ r : Request, op = r.operation path

/-- All calls of the task are on these handles. -/
abbrev History.On (S : Value → Prop) : History → Nat → Prop := Throughout (Event.Within S)

section OneHandle

variable {path : String} {r : Request} {h : History} {i : Nat} {c c' : Client} {under : Bool}
  {ph : Phase Storage} {es : List (Event Storage)} {after : Option (Phase Storage)}

/-- A task has made no call on a handle, or it is in a call under the lock, and all its calls are on
one handle. -/
def Phase.HasOne (h : History) (i : Nat) : Phase Storage → Prop
  | .holding call => ∃ v, h.On (· = v) i ∧ ∀ r, (call.next r).Within (· = v)
  | _ => h.On noHandle i

/-- A turn under the lock makes calls on the one handle of the task. -/
theorem Phase.Turn.one_under (hturn : ph.Turn c true es c' after) (hop : ph.Of (r.operation path))
    (ha : ph.HasOne h i) :
    ∃ v, h.On (· = v) i ∧ (∀ e ∈ es, e.Within (· = v)) ∧
      ∀ ph' ∈ after, ∃ call, ph' = .holding call ∧ ∀ r, (call.next r).Within (· = v) := by
  generalize hu : true = under at hturn
  have honly {v : Value} (hn : h.On noHandle i) : h.On (· = v) i := hn.mono fun _ => .mono fun _ => False.elim
  induction hturn with
  | passes => cases hu
  | begins => cases hu
  | roams => cases hu
  | refused => cases hu
  | parks => cases hu
  | atOnce _ _ ih =>
    obtain ⟨v, hon, hes, hafter⟩ := ih hop.symm ha hu
    exact ⟨v, hon, List.forall_mem_cons.2 ⟨trivial, hes⟩, hafter⟩
  | @enters g handle _ _ _ _ hturn =>
    obtain ⟨hes, hafter⟩ := hturn.within (Request.body_within hop handle) Ending.events_within
    exact ⟨handle, honly ha, List.forall_mem_cons.2 ⟨trivial, hes⟩, hafter⟩
  | turnedAway => exact ⟨.null, honly ha, by simp [Event.Within], fun _ h => nomatch h⟩
  | @resumes call _ _ _ hturn =>
    obtain ⟨v, hon, hnext⟩ := ha
    obtain ⟨hes, hafter⟩ := hturn.within (hnext call.result) Ending.events_within
    exact ⟨v, hon, List.forall_mem_cons.2 ⟨trivial, hes⟩, hafter⟩

/-- A turn without the lock makes no call on a handle. -/
theorem Phase.Turn.none_without (hturn : ph.Turn c false es c' after)
    (hop : ph.Of (r.operation path)) : ∀ e ∈ es, e.Within noHandle := by
  have hreplied : ∀ a : Reply, ∀ e ∈ [Event.replied (B := Storage) a], e.Within noHandle := by
    simp [Event.Within]
  cases hturn with
  | passes => exact List.forall_mem_nil _
  | begins hturn =>
    obtain ⟨-, rfl⟩ := Request.eq_connect hop.symm
    obtain ⟨hes, -⟩ := hturn.within (Operation.connecting_within path c.state) hreplied
    exact List.forall_mem_cons.2 ⟨trivial, hes⟩
  | roams hturn =>
    obtain ⟨start, state, hop, hcall⟩ := hop
    obtain ⟨-, rfl⟩ := Request.eq_connect hop
    have hrest := (Operation.connecting_within path state).of_leaves (Pending.leaves_rest hcall)
    exact List.forall_mem_cons.2 ⟨trivial, (hturn.within hrest hreplied).1⟩
  | refused => simp [Event.Within]
  | parks => simp [Event.Within]

/-- Every turn leaves each task with one handle. -/
theorem upheld_hasOne (path : String) :
    Upheld (Serves path) (fun h _ => ∀ i, ∃ v, History.On (· = v) h i) (fun h i ph => ph.HasOne h i) where
  turn := by
    rintro h c c' i _ ph under es after ⟨r, rfl⟩ hop hj ha hturn
    -- what the others called is what they called before
    have hothers {v : Value} (hown : History.On (· = v) (h ++ es.map fun e => (i, e)) i) (j : Nat) :
        ∃ v, History.On (· = v) (h ++ es.map fun e => (i, e)) j := by
      by_cases hij : j = i
      · exact ⟨v, hij ▸ hown⟩
      · obtain ⟨w, hw⟩ := hj j
        exact ⟨w, hw.other hij⟩
    cases under with
    | true =>
      obtain ⟨v, hon, hes, hafter⟩ := hturn.one_under hop ha
      refine ⟨hothers (hon.own hes), fun ph' hph => ?_⟩
      obtain ⟨call, rfl, hnext⟩ := hafter ph' hph
      exact ⟨v, hon.own hes, hnext⟩
    | false =>
      have hes := hturn.none_without hop
      have hnone (hn : History.On noHandle h i) :
          ∀ j, ∃ v, History.On (· = v) (h ++ es.map fun e => (i, e)) j :=
        hothers ((hn.own hes).mono fun _ => .mono fun v hno => (hno.elim : v = .null))
      cases hturn with
      | passes => simpa using And.intro hj ha
      | begins hturn =>
        refine ⟨hnone ha, fun ph' hph => ?_⟩
        obtain ⟨call, rfl, -⟩ := (Option.mem_def.1 hph ▸ hturn).leaves
        exact Throughout.own ha hes
      | roams hturn =>
        refine ⟨hnone ha, fun ph' hph => ?_⟩
        obtain ⟨call, rfl, -⟩ := (Option.mem_def.1 hph ▸ hturn).leaves
        exact Throughout.own ha hes
      | refused => exact ⟨hnone ha, fun _ h => nomatch h⟩
      | parks => exact ⟨hnone ha, fun ph' hph => Option.mem_some.1 hph ▸ Throughout.own ha hes⟩
  aside := by
    intro h c c' i j op ph ph' under es after _ _ _ _ _ hij ha _
    cases ph' with
    | holding call =>
      obtain ⟨v, hon, hnext⟩ := ha
      exact ⟨v, hon.other hij, hnext⟩
    | _ => exact Throughout.other ha hij

end OneHandle

/-! ## Handles that are alive -/

namespace History

variable {h : History} {held : Option Value} {i : Nat} {v : Value}

/-- An opening came back with the handle, and it has not been passed back to be closed. -/
def Alive (h : History) (v : Value) : Prop := v ∈ h.opened ∧ v ∉ h.passed

/-- Every call on a handle is made while that handle is alive. -/
def Careful (h : History) : Prop :=
  ∀ (a : History) (i : Nat) (k : StorageCall) (b : History) (v : Value),
    h = a ++ (i, .called k) :: b → k.handle? = some v → a.Alive v

/-- A careful history: the handle that the client holds after it is alive, every handle that was
passed back was opened, and none was passed back twice. -/
structure Keeps (h : History) (held : Option Value) : Prop where
  careful : h.Careful
  alive : ∀ v ∈ held, h.Alive v
  known : h.passed ⊆ h.opened
  once : h.passed.Nodup

theorem Careful.concat (hc : h.Careful) {e : Event Storage} (he : e.Within h.Alive) :
    Careful (h ++ [(i, e)]) := by
  intro a j k b v hab hv
  rcases List.eq_nil_or_concat b with rfl | ⟨b, x, rfl⟩
  · obtain ⟨rfl, hlast⟩ := List.append_inj' hab rfl
    cases hlast
    exact he v hv
  · rw [List.concat_eq_append, ← List.cons_append, ← List.append_assoc] at hab
    obtain ⟨rfl, -⟩ := List.append_inj' hab rfl
    exact hc a j k b v rfl hv

theorem opened_sublist (h k : History) : h.opened.Sublist (opened (h ++ k)) := by
  rw [opened_append]
  exact List.sublist_append_left _ _

theorem alive_concat {e : Event Storage} (hopened : e.opened? = none) (hpassed : e.passed? = none) :
    Alive (h ++ [(i, e)]) = h.Alive := by
  funext w
  simp [Alive, opened_concat, passed_concat, hopened, hpassed]

/-- What neither brings a handle in nor passes one back, on handles that are alive. -/
structure Still (alive : Value → Prop) (e : Event Storage) : Prop where
  opened : e.opened? = none
  passed : e.passed? = none
  within : e.Within alive

theorem Still.of_idle {S : Value → Prop} {e : Event Storage} (he : e.idle = true) : Still S e := by
  cases e with
  | called k => cases he
  | answered k r =>
    cases k with
    | «open» path =>
      cases r with
      | error f => exact ⟨rfl, rfl, trivial⟩
      | ok v => cases he
    | _ => exact ⟨rfl, rfl, trivial⟩
  | _ => exact ⟨rfl, rfl, trivial⟩

theorem Keeps.still (hk : h.Keeps held) {e : Event Storage} (he : Still h.Alive e) :
    Keeps (h ++ [(i, e)]) held where
  careful := hk.careful.concat he.within
  alive := by
    rw [alive_concat he.opened he.passed]
    exact hk.alive
  known := by simpa [opened_concat, passed_concat, he.opened, he.passed] using hk.known
  once := by simpa [passed_concat, he.passed] using hk.once

theorem Keeps.stillAll (i : Nat) {es : List (Event Storage)} (hk : h.Keeps held)
    (hes : ∀ e ∈ es, Still h.Alive e) :
    Keeps (h ++ es.map fun e => (i, e)) held ∧ Alive (h ++ es.map fun e => (i, e)) = h.Alive := by
  induction es generalizing h with
  | nil => simpa using hk
  | cons e es ih =>
    have he := hes e List.mem_cons_self
    have halive : Alive (h ++ [(i, e)]) = h.Alive := alive_concat he.opened he.passed
    rw [List.map_cons, List.append_cons, ← halive]
    exact ih (hk.still he) fun e' he' => halive ▸ hes e' (List.mem_cons_of_mem _ he')

theorem Keeps.idle (i : Nat) {es : List (Event Storage)} (hk : h.Keeps held)
    (hes : es.all Event.idle = true) :
    Keeps (h ++ es.map fun e => (i, e)) held ∧ Alive (h ++ es.map fun e => (i, e)) = h.Alive :=
  hk.stillAll i fun e he => .of_idle (List.all_eq_true.1 hes e he)

/-- An opening comes back with a handle that no opening came back with before. -/
theorem Keeps.opens (hk : h.Keeps held) (path : Value)
    (distinct : (opened (h ++ [(i, .answered (.open path) (.ok v))])).Nodup) :
    Keeps (h ++ [(i, .answered (.open path) (.ok v))]) (some v) := by
  have hopened : opened (h ++ [(i, .answered (.open path) (.ok v))]) = h.opened ++ [v] := opened_concat ..
  have hpassed : passed (h ++ [(i, .answered (.open path) (.ok v))]) = h.passed :=
    (passed_concat ..).trans (List.append_nil _)
  rw [hopened] at distinct
  obtain ⟨-, -, hnew⟩ := List.nodup_append.1 distinct
  refine ⟨hk.careful.concat trivial, fun w hw => ?_, ?_, ?_⟩
  · cases Option.mem_some.1 hw
    refine ⟨by simp [hopened], fun hmem => ?_⟩
    exact hnew v (hk.known (hpassed ▸ hmem)) v List.mem_cons_self rfl
  · rw [hopened, hpassed]
    exact fun w hw => List.mem_append_left _ (hk.known hw)
  · rw [hpassed]
    exact hk.once

theorem Keeps.passes (hk : h.Keeps held) (hv : h.Alive v) :
    Keeps (h ++ [(i, .called (.close v))]) none := by
  have hopened : opened (h ++ [(i, .called (.close v))]) = h.opened :=
    (opened_concat ..).trans (List.append_nil _)
  have hpassed : passed (h ++ [(i, .called (.close v))]) = h.passed ++ [v] := passed_concat ..
  refine ⟨hk.careful.concat fun w hw => Option.some.inj hw ▸ hv, (fun _ hw => nomatch hw),
    ?_, ?_⟩
  · rw [hopened, hpassed]
    intro w hw
    rcases List.mem_append.1 hw with hw | hw
    · exact hk.known hw
    · exact List.mem_singleton.1 hw ▸ hv.1
  · rw [hpassed, List.nodup_append]
    refine ⟨hk.once, List.nodup_singleton v, fun w hw u hu heq => hv.2 ?_⟩
    rwa [← List.mem_singleton.1 hu, ← heq]

/-- A handle stays alive as long as none is passed back. -/
theorem Alive.append {k : History} (hv : h.Alive v) (hk : ∀ e ∈ k, e.2.passed? = none) :
    Alive (h ++ k) v := by
  have hnone : passed k = [] := List.filterMap_eq_nil_iff.2 hk
  refine ⟨?_, ?_⟩
  · rw [opened_append]
    exact List.mem_append_left _ hv.1
  · rw [passed_append, hnone, List.append_nil]
    exact hv.2

end History

/-! ## Turns -/

section Turns

variable {path : String} {h : History} {i : Nat} {v : Value} {c c' : Client} {es : List (Event Storage)}

theorem Event.Within.passed?_eq {e : Event Storage} (h : e.Within noHandle) : e.passed? = none := by
  cases e with
  | called k =>
    cases k with
    | close v => exact (h v rfl).elim
    | _ => rfl
  | _ => rfl

/-- A program that uses a handle leaves the client alone and does nothing else with handles. -/
theorem Program.Runs.uses {α : Type} {p q : Program Storage α} (h : p.Runs c es c' q) (hp : p.Uses v) :
    c' = c ∧ ∀ e ∈ es, History.Still (· = v) e := by
  induction h with
  | here c p => exact ⟨rfl, List.forall_mem_nil _⟩
  | @call c c' k next es q r _ ih =>
    obtain ⟨hc, hes⟩ := ih (hp.2 r)
    obtain ⟨hcalled, hanswered⟩ := hp.1.quiet
    exact ⟨hc, List.forall_mem_cons.2 ⟨⟨hcalled.opened?_eq, hcalled.passed?_eq, hp.1.within⟩,
      List.forall_mem_cons.2 ⟨⟨(hanswered r).opened?_eq, rfl, trivial⟩, hes⟩⟩⟩
  | draw r _ ih => exact ⟨(ih (hp r)).1, List.forall_mem_cons.2 ⟨⟨rfl, rfl, trivial⟩, (ih (hp r)).2⟩⟩
  | log _ ih => exact ⟨(ih hp).1, List.forall_mem_cons.2 ⟨⟨rfl, rfl, trivial⟩, (ih hp).2⟩⟩
  | connect _ _ => exact hp.1.elim
  | close _ _ => exact hp.1.elim

theorem Ending.events_idle (a : Ending) : a.events.all Event.idle = true :=
  List.all_eq_true.2 (Ending.events_all (fun _ => rfl) (fun _ => rfl) a)

/-- A program that uses a handle takes its turn under the lock: it leaves the client alone, and what is left of it
uses the handle as well. -/
theorem Program.Turn.uses {p : Program Storage Ending} {after : Option (Phase Storage)}
    (h : p.Turn Ending.events .holding c es c' after) (hp : p.Uses v) :
    c' = c ∧ (∀ e ∈ es, History.Still (· = v) e) ∧
      ∀ ph ∈ after, ∃ call, ph = .holding call ∧ ∀ r, (call.next r).Uses v := by
  cases h with
  | @ends es' _ a hruns =>
    obtain ⟨hc, hes⟩ := hruns.uses hp
    refine ⟨hc, fun e he => ?_, fun _ h => nomatch h⟩
    rcases List.mem_append.1 he with he | he
    · exact hes e he
    · exact .of_idle (List.all_eq_true.1 a.events_idle e he)
  | @waits es' _ call hruns =>
    obtain ⟨hc, hes⟩ := hruns.uses hp
    obtain ⟨hcalled, hnext⟩ := hp.of_leaves hruns.leaves
    refine ⟨hc, fun e he => ?_, fun ph hph => ⟨call, (Option.mem_some.1 hph).symm, hnext⟩⟩
    rcases List.mem_append.1 he with he | he
    · exact hes e he
    · obtain rfl := List.mem_singleton.1 he
      exact ⟨rfl, hcalled.quiet.1.passed?_eq, hcalled.within⟩

/-- Closing takes its turn under the lock: it closes the client and passes the handle back, which comes back in
this turn or in a later one. -/
theorem Program.Turn.closes {next : Except Fault Value → Program Storage Ending} {after : Option (Phase Storage)}
    (hnext : ∀ r, ∃ a, next r = .done a)
    (h : Program.Turn (B := Storage) Ending.events .holding c (.close (.call (.close v) next)) es c' after) :
    c' = ⟨.closed, none⟩ ∧ ∃ rest : List (Event Storage), es = .became .closed :: .called (.close v) :: rest ∧
      rest.all Event.idle = true ∧
      ∀ ph ∈ after, ∃ call, ph = .holding call ∧ ∀ r, ∃ a, call.next r = .done a := by
  obtain ⟨es, rfl, hcall⟩ := h.of_close
  rcases hcall.of_call with ⟨rfl, rfl, result, rfl⟩ | ⟨r, es, rfl, hrest⟩
  · refine ⟨rfl, [], rfl, rfl, fun ph hph => ?_⟩
    exact ⟨_, (Option.mem_some.1 hph).symm, hnext⟩
  · obtain ⟨a, ha⟩ := hnext r
    rw [ha] at hrest
    obtain ⟨rfl, rfl, rfl⟩ := hrest.of_done
    exact ⟨rfl, _, rfl, a.events_idle, fun _ h => nomatch h⟩

/-- The program ends without doing anything, or uses a handle that is alive. -/
def Program.SafeAfter {α : Type} (h : History) (p : Program Storage α) : Prop :=
  (∃ a, p = .done a) ∨ ∃ v, h.Alive v ∧ p.Uses v

/-- What goes on when a call under the lock comes back uses a handle that is alive. -/
def Phase.Safe (h : History) : Phase Storage → Prop
  | .holding call => ∀ r, (call.next r).SafeAfter h
  | _ => True

/-- What is left of such a program is such a program as long as no handle is passed back. -/
theorem Program.SafeAfter.append {α : Type} {p : Program Storage α} {k : History} (hp : p.SafeAfter h)
    (hk : ∀ e ∈ k, e.2.passed? = none) : p.SafeAfter (h ++ k) := by
  rcases hp with hdone | ⟨v, hv, huses⟩
  · exact .inl hdone
  · exact .inr ⟨v, hv.append hk, huses⟩

namespace History.Keeps

variable {after : Option (Phase Storage)}

/-- A program on a handle that is alive takes its turn under the lock. -/
theorem turn_uses {p : Program Storage Ending} (hk : h.Keeps c.handle) (hp : p.SafeAfter h)
    (hturn : p.Turn Ending.events .holding c es c' after) :
    Keeps (h ++ es.map fun e => (i, e)) c'.handle ∧
      ∀ ph ∈ after, ph.Safe (h ++ es.map fun e => (i, e)) := by
  rcases hp with ⟨a, rfl⟩ | ⟨v, hv, huses⟩
  · obtain ⟨rfl, rfl, rfl⟩ := hturn.of_done
    exact ⟨(hk.idle i a.events_idle).1, fun _ h => nomatch h⟩
  · obtain ⟨rfl, hes, hafter⟩ := hturn.uses huses
    obtain ⟨hkeeps, halive⟩ := hk.stillAll i fun e he =>
      ⟨(hes e he).opened, (hes e he).passed, (hes e he).within.mono fun w hw => hw ▸ hv⟩
    refine ⟨hkeeps, fun ph hph => ?_⟩
    obtain ⟨call, rfl, hnext⟩ := hafter ph hph
    exact fun r => .inr ⟨v, halive ▸ hv, hnext r⟩

theorem turn_close {next : Except Fault Value → Program Storage Ending} (hk : h.Keeps c.handle)
    (hv : h.Alive v) (hnext : ∀ r, ∃ a, next r = .done a)
    (hturn : Program.Turn (B := Storage) Ending.events .holding c (.close (.call (.close v) next)) es c'
      after) :
    Keeps (h ++ es.map fun e => (i, e)) c'.handle ∧
      ∀ ph ∈ after, ph.Safe (h ++ es.map fun e => (i, e)) := by
  obtain ⟨rfl, rest, rfl, hrest, hafter⟩ := hturn.closes hnext
  have hidle : [Event.became (B := Storage) .closed].all Event.idle = true := rfl
  obtain ⟨hclosed, halive⟩ := hk.idle i hidle
  have hpassed : Keeps (h ++ [(i, .became .closed)] ++ [(i, .called (.close v))]) none :=
    hclosed.passes (halive ▸ hv)
  refine ⟨by simpa using (hpassed.idle i hrest).1, fun ph hph => ?_⟩
  obtain ⟨call, rfl, hends⟩ := hafter ph hph
  exact fun r => .inl (hends r)

/-- An opening comes back to a connecting client, which takes the handle over. -/
theorem turn_opened (hk : h.Keeps c.handle) {r : Except Fault Value}
    (hturn : (Operation.afterOpening path r).Turn (fun a => [.replied a]) .free c es c' after)
    (distinct : (opened (h ++ (.answered (.open (.text path)) r :: es).map fun e => (i, e))).Nodup) :
    Keeps (h ++ (.answered (.open (.text path)) r :: es).map fun e => (i, e)) c'.handle ∧ after = none := by
  cases r with
  | error f =>
    obtain ⟨rfl, rfl, rfl⟩ := hturn.of_done
    exact ⟨(hk.idle i rfl).1, rfl⟩
  | ok v =>
    obtain ⟨es, rfl, hconnected⟩ := hturn.of_connect
    obtain ⟨es, rfl, hlogged⟩ := hconnected.of_log
    obtain ⟨rfl, rfl, rfl⟩ := hlogged.of_done
    rw [List.map_cons, List.append_cons] at distinct ⊢
    have hopened := hk.opens (.text path) (distinct.sublist (opened_sublist _ _))
    exact ⟨(hopened.idle i rfl).1, rfl⟩

theorem turn_connecting (hk : h.Keeps c.handle) {s : Lifecycle}
    (hturn : (Operation.connecting path s).Turn (fun a => [.replied a]) .free c es c' after)
    (distinct : (opened (h ++ es.map fun e => (i, e))).Nodup) :
    Keeps (h ++ es.map fun e => (i, e)) c'.handle := by
  have hreplies {a : Reply} (hturn : (Program.done a).Turn (fun a => [.replied a]) .free c es c' after) :
      Keeps (h ++ es.map fun e => (i, e)) c'.handle := by
    obtain ⟨rfl, rfl, -⟩ := hturn.of_done
    exact (hk.idle i rfl).1
  cases s with
  | connected => exact hreplies hturn
  | closed => exact hreplies hturn
  | unconnected =>
    have hasked : Keeps (h ++ [(i, .called (.open (.text path)))]) c.handle :=
      hk.still ⟨rfl, rfl, nofun⟩
    rcases hturn.of_call with ⟨rfl, rfl, -⟩ | ⟨r, es, rfl, hrest⟩
    · exact hasked
    · rw [List.map_cons, List.append_cons] at distinct ⊢
      exact (hasked.turn_opened hrest distinct).1

end History.Keeps

theorem History.Keeps.turn_claiming {r : Request} {g : Guarded Storage}
    {after : Option (Phase Storage)} (hk : h.Keeps c.handle)
    (hop : r.operation path = .guarded g.refusal g.body)
    (hturn : (Phase.claiming g).Turn c true es c' after) :
    Keeps (h ++ es.map fun e => (i, e)) c'.handle ∧
      ∀ ph ∈ after, ph.Safe (h ++ es.map fun e => (i, e)) := by
  cases hturn with
  | turnedAway => exact ⟨(hk.idle i rfl).1, fun _ h => nomatch h⟩
  | @enters _ handle _ _ _ hc hturn =>
    have hentered : Keeps (h ++ [(i, .entered c.state)]) c.handle := hk.still ⟨rfl, rfl, trivial⟩
    have hv : Alive (h ++ [(i, .entered c.state)]) handle := hentered.alive _ (by rw [hc]; rfl)
    rw [List.map_cons, List.append_cons]
    rcases Request.body_cases hop handle with huses | ⟨next, hbody, hends⟩
    · exact hentered.turn_uses (.inr ⟨handle, hv, huses⟩) hturn
    · rw [hbody] at hturn
      exact hentered.turn_close hv hends hturn

/-- Every turn keeps the calls on handles that are alive. -/
theorem upheld_safe (path : String) :
    Upheld (Serves path) (fun h c => (History.opened h).Nodup → History.Keeps h c.handle)
      (fun h _ ph => (History.opened h).Nodup → ph.Safe h) where
  turn := by
    rintro h c c' i _ ph under es after ⟨r, rfl⟩ hop hj ha hturn
    have hbefore (distinct : (History.opened (h ++ es.map fun e => (i, e))).Nodup) :
        (History.opened h).Nodup := distinct.sublist (History.opened_sublist h _)
    suffices hboth : (History.opened (h ++ es.map fun e => (i, e))).Nodup →
        History.Keeps (h ++ es.map fun e => (i, e)) c'.handle ∧
          ∀ ph ∈ after, ph.Safe (h ++ es.map fun e => (i, e)) from
      ⟨fun distinct => (hboth distinct).1, fun ph hph distinct => (hboth distinct).2 ph hph⟩
    intro distinct
    have hk := hj (hbefore distinct)
    have hsafe := ha (hbefore distinct)
    cases hturn with
    | passes => simpa using And.intro hk hsafe
    | begins hturn =>
      obtain ⟨-, rfl⟩ := Request.eq_connect hop.symm
      rw [List.map_cons, List.append_cons] at distinct ⊢
      have hbegan : History.Keeps (h ++ [(i, .began c.state)]) c.handle := hk.still ⟨rfl, rfl, trivial⟩
      refine ⟨hbegan.turn_connecting hturn distinct, fun ph hph => ?_⟩
      obtain ⟨call, rfl, -⟩ := (Option.mem_def.1 hph ▸ hturn).leaves
      trivial
    | roams hturn =>
      obtain ⟨result, rfl⟩ := Request.free_opens hop
      obtain ⟨hkeeps, rfl⟩ := hk.turn_opened hturn distinct
      exact ⟨hkeeps, fun _ h => nomatch h⟩
    | refused => exact ⟨(hk.idle i rfl).1, fun _ h => nomatch h⟩
    | parks => exact ⟨(hk.idle i rfl).1, fun ph hph => Option.mem_some.1 hph ▸ trivial⟩
    | atOnce _ hturn =>
      rw [List.map_cons, List.append_cons]
      have hbegan : History.Keeps (h ++ [(i, .began c.state)]) c.handle := hk.still ⟨rfl, rfl, trivial⟩
      exact hbegan.turn_claiming hop.symm hturn
    | enters hc hturn => exact hk.turn_claiming hop (.enters hc hturn)
    | turnedAway hc => exact hk.turn_claiming hop (.turnedAway hc)
    | @resumes call _ _ _ hturn =>
      obtain ⟨hquiet, -⟩ := Request.holding_quiet hop
      rw [List.map_cons, List.append_cons]
      have hback : History.Keeps (h ++ [(i, call.event)]) c.handle :=
        hk.still ⟨hquiet.opened?_eq, rfl, trivial⟩
      exact hback.turn_uses ((hsafe call.result).append (List.forall_mem_singleton.2 rfl)) hturn
  aside := by
    rintro h c c' i j _ ph ph' under es after ⟨r, rfl⟩ hop _ _ hturn _ ha hinside distinct
    cases ph' with
    | holding call =>
      obtain rfl : under = false := Bool.eq_false_iff.2 fun hu => hinside hu trivial
      have hes := hturn.none_without hop
      have hsafe := ha (distinct.sublist (History.opened_sublist h _))
      refine fun r => (hsafe r).append fun x hx => ?_
      obtain ⟨e, he, rfl⟩ := List.mem_map.1 hx
      exact (hes e he).passed?_eq
    | _ => trivial

end Turns

/-! ## Runs -/

theorem Setup.direct_serves (path : String) (ids : IdSource) {jobs : List (Job Value)} (n : Nat)
    (job : Job Value) (_ : jobs[n]? = some job) :
    Serves path n ((Setup.direct path ids).operation job.request) :=
  ⟨job.request, Setup.direct_operation path ids job.request⟩

/-- In every run whose openings come back with different handles, each call on a handle is made on one
that an opening came back with before and that was not passed back to be closed; no handle is passed
back twice, a connected client has a handle, and all calls of one task are on one handle. -/
theorem Setup.play_careful (path : String) (ids : IdSource) (ms : List (Move Value))
    (distinct : ((Setup.direct path ids).play ms).history.opened.Nodup) :
    let r := (Setup.direct path ids).play ms
    r.history.Careful ∧ r.history.passed.Nodup ∧
      (r.pool.world.client.state = .connected → ∃ v, r.pool.world.client.handle = some v) ∧
      ∀ i, ∃ v, ∀ k, (i, .called k) ∈ r.history → ∀ w ∈ k.handle?, w = v := by
  have hkeeps := (Setup.direct path ids).play_upholds (upheld_safe path)
    (fun _ => ⟨fun a i k b v hab => by simp at hab, (fun _ hw => nomatch hw), List.Subset.refl _,
      List.nodup_nil⟩)
    (fun _ _ _ _ => trivial) ms (Setup.direct_serves path ids)
  have hone := (Setup.direct path ids).play_upholds (upheld_hasOne path)
    (fun _ => ⟨.null, fun _ he => nomatch he⟩)
    (fun _ _ hnew e he => absurd rfl (hnew _ he)) ms (Setup.direct_serves path ids)
  obtain ⟨hcareful, -, -, honce⟩ := hkeeps.world distinct
  refine ⟨hcareful, honce, fun hs => ?_, fun i => ?_⟩
  · rcases (play_lived path ids ms).handle_eq with ⟨-, hheld⟩ | ⟨hnot, -⟩
    · exact hheld
    · exact absurd hs hnot
  · obtain ⟨v, hv⟩ := hone.world i
    exact ⟨v, fun k hk => hv _ hk⟩

/-- Two clients connect at once. The second opening comes back between the two statements of a creation,
which stays with the first handle; the client closes the second one. -/
theorem Setup.play_careful_replaced :
    let r := (Setup.direct "a.db" fun n => .ok (.int n)).play
      [.start ⟨.connect, [{ ticks := 1 }]⟩, .start ⟨.connect, [{ ticks := 2 }]⟩, .turn 0, .turn 0, .turn 0,
        .start ⟨.create (.text "t") (.map []), [{ ticks := 1 }, { ticks := 1 }]⟩, .start ⟨.close, []⟩,
        .turn 1, .turn 0, .turn 0, .turn 1, .turn 0, .turn 0, .turn 0]
    r.history.opened.Nodup ∧ r.history.Careful ∧
      (r.history.filterMap fun e => match e.2 with
        | .called k => k.handle?.map fun v => (e.1, v)
        | _ => none) = [(2, .text "h1"), (2, .text "h1"), (3, .text "h2")] := by
  intro r
  have hopened : r.history.opened = [.text "h1", .text "h2"] := by with_unfolding_all rfl
  have distinct : r.history.opened.Nodup := by simp [hopened]
  refine ⟨distinct, (play_careful _ _ _ distinct).1, ?_⟩
  with_unfolding_all rfl

end RecordStore
