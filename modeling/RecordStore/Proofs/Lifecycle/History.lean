/-
The histories that the runs of one client leave behind. Of all events only four touch the life of
the client: an operation begins and sees the state; a closed client refuses the operation that
begins; an opening returns a handle and the client takes it over at once, whatever its state is by
then; a connected client closes and passes its handle to the storage. `Lived` builds a history and
the client after it from these steps, and every run builds its history so.
-/
import RecordStore.Schedule.Session

namespace RecordStore

/-- The history of a client on a storage. -/
abbrev History := List (Nat × Event Storage)

/-- What a closed client answers. -/
def Request.whenClosed : Request → Reply
  | .connect => ⟨.error .closedForGood, none⟩
  | .close => ⟨.ok .null, none⟩
  | .create _ record => ⟨.error .notConnected, some record⟩
  | _ => ⟨.error .notConnected, none⟩

/-- The event does not begin an operation, and it neither changes the client nor brings a handle
in or passes one back. -/
def Event.Quiet : Event Storage → Prop
  | .began _ => False
  | .became _ => False
  | .called (.close _) => False
  | .answered (.open _) (.ok _) => False
  | _ => True

/-! ## Histories -/

/-- How the history of a client goes on and what the client is then, `jobs` being the jobs that its
tasks serve. -/
inductive Lived (jobs : List (Job Value)) : History → Client → Prop where
  | fresh : Lived jobs [] {}
  | quiet {h : History} {c : Client} (i : Nat) {e : Event Storage} : Lived jobs h c → e.Quiet →
    Lived jobs (h ++ [(i, e)]) c
  | began {h : History} {c : Client} (i : Nat) : Lived jobs h c → c.state ≠ .closed →
    Lived jobs (h ++ [(i, .began c.state)]) c
  | refused {h : History} {c : Client} {i : Nat} {job : Job Value} : Lived jobs h c →
    c.state = .closed → jobs[i]? = some job →
    Lived jobs (h ++ [(i, .began .closed), (i, .replied job.request.whenClosed)]) c
  | opened {h : History} {c : Client} (i : Nat) (path handle : Value) : Lived jobs h c →
    Lived jobs (h ++ [(i, .answered (.open path) (.ok handle)), (i, .became .connected)])
      ⟨.connected, some handle⟩
  | closed {h : History} {handle : Value} (i : Nat) : Lived jobs h ⟨.connected, some handle⟩ →
    Lived jobs (h ++ [(i, .became .closed), (i, .called (.close handle))]) ⟨.closed, none⟩

namespace Lived

variable {jobs : List (Job Value)} {h : History} {c : Client}

/-- Starting another job makes no difference to what was lived before. -/
theorem start (hl : Lived jobs h c) (job : Job Value) : Lived (jobs ++ [job]) h c := by
  induction hl with
  | fresh => exact .fresh
  | quiet i _ he ih => exact .quiet i ih he
  | began i _ hs ih => exact .began i ih hs
  | refused _ hs hjob ih =>
    obtain ⟨hlt, -⟩ := List.getElem?_eq_some_iff.1 hjob
    exact .refused ih hs ((List.getElem?_append_left hlt).trans hjob)
  | opened i path handle _ ih => exact .opened i path handle ih
  | closed i _ ih => exact .closed i ih

theorem quietAll (hl : Lived jobs h c) (i : Nat) : ∀ {es : List (Event Storage)},
    (∀ e ∈ es, e.Quiet) → Lived jobs (h ++ es.map fun e => (i, e)) c := by
  intro es
  induction es generalizing h with
  | nil => simpa using hl
  | cons e es ih =>
    intro hq
    have hl : Lived jobs (h ++ [(i, e)]) c := hl.quiet i (hq e List.mem_cons_self)
    rw [List.map_cons, List.append_cons]
    exact ih hl fun e he => hq e (List.mem_cons_of_mem _ he)

end Lived

/-! ## What a history tells of the client -/

/-- The state an event leaves a client in that was in state `s`. -/
def Event.state {B : Boundary} (s : Lifecycle) : Event B → Lifecycle
  | .became s' => s'
  | _ => s

/-- The handle that an opening came back with. -/
def Event.opened? : Event Storage → Option Value
  | .answered (.open _) (.ok handle) => some handle
  | _ => none

/-- The handle that was passed back to be closed. -/
def Event.passed? : Event Storage → Option Value
  | .called (.close handle) => some handle
  | _ => none

theorem Event.Quiet.state_eq {e : Event Storage} (he : e.Quiet) (s : Lifecycle) : e.state s = s := by
  cases e with
  | became s' => exact he.elim
  | _ => rfl

theorem Event.Quiet.opened?_eq {e : Event Storage} (he : e.Quiet) : e.opened? = none := by
  unfold Event.opened?
  split
  · exact he.elim
  · rfl

theorem Event.Quiet.passed?_eq {e : Event Storage} (he : e.Quiet) : e.passed? = none := by
  unfold Event.passed?
  split
  · exact he.elim
  · rfl

namespace History

/-- The state after a history that begins in state `s`. -/
def stateFrom (s : Lifecycle) : History → Lifecycle
  | [] => s
  | (_, e) :: h => stateFrom (e.state s) h

/-- The states before, between and after the events of a history that begins in state `s`. -/
def statesFrom (s : Lifecycle) : History → List Lifecycle
  | [] => [s]
  | (_, e) :: h => s :: statesFrom (e.state s) h

/-- The handles that openings came back with while the client was in state `s`, in a history that
begins in state `now`. -/
def openedInFrom (s now : Lifecycle) : History → List Value
  | [] => []
  | (_, e) :: h => (if now = s then e.opened?.toList else []) ++ openedInFrom s (e.state now) h

/-- The state of a client after its history. -/
def state (h : History) : Lifecycle := h.stateFrom .unconnected

/-- All states of a client throughout its history. -/
def states (h : History) : List Lifecycle := h.statesFrom .unconnected

/-- The handles that openings came back with while the client was in state `s`. -/
def openedIn (s : Lifecycle) (h : History) : List Value := h.openedInFrom s .unconnected

/-- The handles that openings came back with. -/
def opened (h : History) : List Value := h.filterMap fun e => e.2.opened?

/-- The handles that were passed back to be closed. -/
def passed (h : History) : List Value := h.filterMap fun e => e.2.passed?

variable {h : History}

theorem stateFrom_append (s : Lifecycle) (h k : History) :
    stateFrom s (h ++ k) = stateFrom (stateFrom s h) k := by
  induction h generalizing s with
  | nil => rfl
  | cons e h ih => exact ih _

theorem state_concat (i : Nat) (e : Event Storage) :
    state (h ++ [(i, e)]) = e.state h.state := stateFrom_append _ h _

theorem states_concat (i : Nat) (e : Event Storage) :
    states (h ++ [(i, e)]) = h.states ++ [e.state h.state] := by
  have hfrom : ∀ (s : Lifecycle) (h : History),
      statesFrom s (h ++ [(i, e)]) = statesFrom s h ++ [e.state (stateFrom s h)] := by
    intro s h
    induction h generalizing s with
    | nil => rfl
    | cons e' h ih => exact congrArg (s :: ·) (ih _)
  exact hfrom _ h

/-- The last of the states is the state at the end. -/
theorem states_getLast? (h : History) : h.states.getLast? = some h.state := by
  have hfrom : ∀ (s : Lifecycle) (h : History),
      (statesFrom s h).getLast? = some (stateFrom s h) := by
    intro s h
    induction h generalizing s with
    | nil => rfl
    | cons e h ih => simp only [statesFrom, List.getLast?_cons, ih, stateFrom, Option.getD_some]
  exact hfrom _ h

theorem openedIn_concat (s : Lifecycle) (i : Nat) (e : Event Storage) :
    openedIn s (h ++ [(i, e)]) = h.openedIn s ++ if h.state = s then e.opened?.toList else [] := by
  have hfrom : ∀ (now : Lifecycle) (h : History), openedInFrom s now (h ++ [(i, e)]) =
      openedInFrom s now h ++ if stateFrom now h = s then e.opened?.toList else [] := by
    intro now h
    induction h generalizing now with
    | nil => exact List.append_nil _
    | cons e' h ih => exact (congrArg _ (ih _)).trans (List.append_assoc _ _ _).symm
  exact hfrom _ h

theorem opened_append (h k : History) : opened (h ++ k) = h.opened ++ k.opened := List.filterMap_append

theorem passed_append (h k : History) : passed (h ++ k) = h.passed ++ k.passed := List.filterMap_append

theorem opened_concat (i : Nat) (e : Event Storage) :
    opened (h ++ [(i, e)]) = h.opened ++ e.opened?.toList := by
  cases he : e.opened? <;> simp [opened, he]

theorem passed_concat (i : Nat) (e : Event Storage) :
    passed (h ++ [(i, e)]) = h.passed ++ e.passed?.toList := by
  cases he : e.passed? <;> simp [passed, he]

end History

/-- The state of the client is the state its history tells of. -/
theorem Lived.state_eq {jobs : List (Job Value)} {h : History} {c : Client} (hl : Lived jobs h c) :
    c.state = h.state := by
  induction hl with
  | fresh => rfl
  | quiet i _ he ih => rw [History.state_concat, he.state_eq, ih]
  | began i _ _ ih => rw [History.state_concat]; exact ih
  | refused _ _ _ ih => rw [List.append_cons, History.state_concat, History.state_concat]; exact ih
  | opened i path handle _ _ => rw [List.append_cons, History.state_concat]; rfl
  | closed i _ _ => rw [List.append_cons, History.state_concat, History.state_concat]; rfl

end RecordStore
