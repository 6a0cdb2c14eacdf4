/-
The life of a client only moves forward, from connecting to closing, and a closed client refuses
every operation that begins: in every run in which no opening comes back with a handle to a client
that is closed by then, and in no other run. Connecting holds no lock while it waits for its
opening and does not look at the state again, so a closing in between is undone.
-/
import RecordStore.Proofs.Lifecycle.Runs
import Mathlib.Data.List.Chain

namespace RecordStore

/-- At most one step forward in the life of a client. -/
inductive Lifecycle.Goes : Lifecycle → Lifecycle → Prop where
  | stays (s : Lifecycle) : Goes s s
  | connects : Goes .unconnected .connected
  | closes : Goes .connected .closed

namespace History

/-- An operation that begins after the client was closed is refused at once, as a closed client
refuses it. -/
def Refuses (jobs : List (Job Value)) (h : History) : Prop :=
  ∀ (a : History) (i : Nat) (s : Lifecycle) (b : History), h = a ++ (i, .began s) :: b →
    .closed ∈ a.states → ∃ job rest, jobs[i]? = some job ∧
      b = (i, .replied job.request.whenClosed) :: rest

/-- Throughout the history the client only moves forward, one step at a time; once it is closed it
stays closed, and it refuses every operation that begins then. -/
structure OnlyForward (jobs : List (Job Value)) (h : History) : Prop where
  steps : h.states.IsChain Lifecycle.Goes
  stays : h.states.Pairwise fun s t => s = .closed → t = .closed
  refuses : h.Refuses jobs

variable {jobs : List (Job Value)} {h : History} {c : Client}

theorem goes_concat (i : Nat) (e : Event Storage) :
    (states (h ++ [(i, e)])).IsChain Lifecycle.Goes ↔
      h.states.IsChain Lifecycle.Goes ∧ h.state.Goes (e.state h.state) := by
  rw [states_concat, List.isChain_append, states_getLast?]
  simp

/-- Steps forward never lead out of the closed state. -/
theorem stays_of_goes {l : List Lifecycle} (hl : l.IsChain Lifecycle.Goes) :
    l.Pairwise fun s t => s = .closed → t = .closed := by
  have : Trans (fun s t : Lifecycle => s = .closed → t = .closed)
      (fun s t : Lifecycle => s = .closed → t = .closed)
      (fun s t : Lifecycle => s = .closed → t = .closed) := ⟨fun h h' hs => h' (h hs)⟩
  refine List.IsChain.pairwise (hl.imp fun s t hst hs => ?_)
  cases hst with
  | stays _ => exact hs
  | connects => cases hs
  | closes => rfl

/-- A client takes steps forward only as long as no opening comes back to it when it is closed. -/
theorem goes_iff (hl : Lived jobs h c) :
    h.states.IsChain Lifecycle.Goes ↔ h.openedIn .closed = [] := by
  induction hl with
  | fresh => simp [states, statesFrom, openedIn, openedInFrom]
  | quiet i _ he ih =>
    rw [goes_concat, openedIn_concat, he.state_eq, he.opened?_eq, ih]
    simp [Lifecycle.Goes.stays]
  | began i _ _ ih =>
    rw [goes_concat, openedIn_concat, ih]
    simp [Event.state, Event.opened?, Lifecycle.Goes.stays]
  | refused _ _ _ ih =>
    rw [List.append_cons, goes_concat, goes_concat, openedIn_concat, openedIn_concat, ih]
    simp [Event.state, Event.opened?, Lifecycle.Goes.stays]
  | @opened h c i path handle _ ih =>
    rw [List.append_cons, goes_concat, goes_concat, openedIn_concat, openedIn_concat, state_concat, ih]
    cases hs : h.state with
    | unconnected => simp [Event.state, Lifecycle.Goes.stays, Lifecycle.Goes.connects]
    | connected => simp [Event.state, Lifecycle.Goes.stays]
    | closed =>
      have hback : ¬ Lifecycle.closed.Goes .connected := by
        intro hgoes
        cases hgoes
      simp [Event.state, Event.opened?, Lifecycle.Goes.stays, hback]
  | @closed h handle i hc ih =>
    have hs : .connected = h.state := hc.state_eq
    rw [List.append_cons, goes_concat, goes_concat, openedIn_concat, openedIn_concat, state_concat, ih, ← hs]
    simp [Event.state, Event.opened?, Lifecycle.Goes.stays, Lifecycle.Goes.closes]

/-- A client that took steps forward only and is not closed never was. -/
theorem not_closed_of_goes (hg : h.states.IsChain Lifecycle.Goes) (hs : h.state ≠ .closed) :
    .closed ∉ h.states := by
  intro hmem
  obtain ⟨before, hstates⟩ := List.getLast?_eq_some_iff.1 (states_getLast? h)
  have hstays := stays_of_goes hg
  rw [hstates] at hstays hmem
  rcases List.mem_append.1 hmem with hmem | hmem
  · exact hs ((List.pairwise_append.1 hstays).2.2 _ hmem _ (List.mem_singleton_self _) rfl)
  · exact hs (List.mem_singleton.1 hmem).symm

/-- A history goes on refusing if what is added refuses on top of it. -/
theorem Refuses.append {k : History} (hr : h.Refuses jobs)
    (hk : ∀ (a : History) (i : Nat) (s : Lifecycle) (b : History), k = a ++ (i, .began s) :: b →
      .closed ∈ states (h ++ a) → ∃ job rest, jobs[i]? = some job ∧
        b = (i, .replied job.request.whenClosed) :: rest) :
    Refuses jobs (h ++ k) := by
  intro a i s b hab hclosed
  rcases List.append_eq_append_iff.1 hab with ⟨d, rfl, hd⟩ | ⟨d, hd, hb⟩
  · exact hk d i s b hd hclosed
  · cases d with
    | nil =>
      rw [List.append_nil] at hd
      exact hk [] i s b hb.symm (by rw [List.append_nil, hd]; exact hclosed)
    | cons x d =>
      obtain ⟨rfl, rfl⟩ := List.cons.inj hb
      obtain ⟨job, rest, hjob, rfl⟩ := hr a i s d hd hclosed
      exact ⟨job, rest ++ k, hjob, rfl⟩

/-- Where no operation begins there is nothing to refuse. -/
theorem Refuses.append_of_forall {k : History} (hr : h.Refuses jobs)
    (hk : ∀ x ∈ k, ∀ s, x.2 ≠ .began s) : Refuses jobs (h ++ k) :=
  hr.append fun a i s b hab _ => absurd rfl (hk (i, .began s) (by simp [hab]) s)

/-- A client that only takes steps forward refuses every operation from its closing on. -/
theorem refuses_of_goes (hl : Lived jobs h c) (hg : h.states.IsChain Lifecycle.Goes) :
    h.Refuses jobs := by
  induction hl with
  | fresh => exact fun a i s b hab => by simp at hab
  | quiet i _ he ih =>
    refine (ih ((goes_concat _ _).1 hg).1).append_of_forall fun x hx s hs => ?_
    obtain rfl := List.mem_singleton.1 hx
    exact (hs ▸ he : (Event.began s).Quiet).elim
  | began i hl hs ih =>
    obtain ⟨hg, -⟩ := (goes_concat _ _).1 hg
    rw [hl.state_eq] at hs
    refine (ih hg).append fun a j s b hab hclosed => ?_
    -- what begins here begins on a client that never was closed
    cases a with
    | nil => exact absurd (by simpa using hclosed) (not_closed_of_goes hg hs)
    | cons x a => simp at hab
  | @refused h c i job hl hs hjob ih =>
    rw [List.append_cons, goes_concat, goes_concat] at hg
    refine (ih hg.1.1).append fun a j s b hab _ => ?_
    cases a with
    | nil =>
      cases hab
      exact ⟨job, [], hjob, rfl⟩
    | cons x a =>
      obtain ⟨-, hab⟩ := List.cons.inj hab
      cases a <;> simp at hab
  | opened i path handle hl ih =>
    rw [List.append_cons, goes_concat, goes_concat] at hg
    exact (ih hg.1.1).append_of_forall (by simp)
  | closed i hl ih =>
    rw [List.append_cons, goes_concat, goes_concat] at hg
    exact (ih hg.1.1).append_of_forall (by simp)

theorem onlyForward_iff (hl : Lived jobs h c) : h.OnlyForward jobs ↔ h.openedIn .closed = [] := by
  rw [← goes_iff hl]
  exact ⟨OnlyForward.steps, fun hg => ⟨hg, stays_of_goes hg, refuses_of_goes hl hg⟩⟩

end History

namespace Setup

/-- In a run of a client its life only moves forward, and a closed client refuses what begins then,
exactly if no opening comes back with a handle to the client when it is closed already. -/
theorem play_onlyForward_iff (path : String) (ids : IdSource) (ms : List (Move Value)) :
    let r := (Setup.direct path ids).play ms
    r.history.OnlyForward r.jobs ↔ r.history.openedIn .closed = [] :=
  History.onlyForward_iff (play_lived path ids ms)

/-- While one connecting waits for its opening, another one connects and the client closes; the
opening then connects it again. -/
theorem not_onlyForward_late_opening :
    let r := (Setup.direct "a.db" fun n => .ok (.int n)).play
      [.start ⟨.connect, [{ ticks := 1 }]⟩, .turn 0, .start ⟨.connect, []⟩, .turn 1,
        .start ⟨.close, []⟩, .turn 1, .turn 0]
    .closed ∈ r.history.states ∧ r.pool.world.client.state = .connected ∧
      ¬ r.history.OnlyForward r.jobs := by
  refine ⟨by decide, by decide, fun h => ?_⟩
  exact absurd h.stays (by decide)

end Setup

end RecordStore
