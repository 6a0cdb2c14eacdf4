/-
What becomes of the handles that openings come back with. Each is passed back to be closed, or is
the one the client holds, or was lost when a later opening came back to a client that was connected
already; of handles that all differ, exactly one of the three is true. So a closed client has passed
every handle back exactly once in every run in which no opening comes back to a client that is
connected by then, and in no other run.
-/
import RecordStore.Proofs.Lifecycle.Runs
import Mathlib.Data.List.Perm.Basic

namespace RecordStore

variable {jobs : List (Job Value)} {h : History} {c : Client}

/-- A client has a handle exactly while it is connected. -/
theorem Lived.handle_eq (hl : Lived jobs h c) :
    c.state = .connected ∧ (∃ handle, c.handle = some handle) ∨ c.state ≠ .connected ∧ c.handle = none := by
  induction hl with
  | fresh => exact .inr ⟨nofun, rfl⟩
  | quiet i _ _ ih => exact ih
  | began i _ _ ih => exact ih
  | refused _ _ _ ih => exact ih
  | opened i path handle _ _ => exact .inl ⟨rfl, handle, rfl⟩
  | closed i _ _ => exact .inr ⟨nofun, rfl⟩

/-- Every handle an opening came back with was passed back, was lost or is held; one is lost whenever
an opening comes back to a connected client. -/
def History.Accounts (h : History) (held : Option Value) : Prop :=
  ∃ lost, h.opened.Perm (h.passed ++ lost ++ held.toList) ∧ (lost = [] ↔ h.openedIn .connected = [])

/-- An event that neither brings a handle in nor passes one back leaves the account as it is. -/
theorem History.Accounts.concat {held : Option Value} (ha : h.Accounts held) (i : Nat)
    {e : Event Storage} (hopened : e.opened? = none) (hpassed : e.passed? = none) :
    History.Accounts (h ++ [(i, e)]) held := by
  obtain ⟨lost, hperm, hlost⟩ := ha
  refine ⟨lost, ?_, ?_⟩
  · rw [opened_concat, passed_concat, hopened, hpassed]
    simpa using hperm
  · rw [openedIn_concat, hopened]
    simpa using hlost

theorem Lived.accounts (hl : Lived jobs h c) : h.Accounts c.handle := by
  induction hl with
  | fresh => exact ⟨[], .refl _, by simp [History.openedIn, History.openedInFrom]⟩
  | quiet i _ he ih => exact ih.concat i he.opened?_eq he.passed?_eq
  | began i _ _ ih => exact ih.concat i rfl rfl
  | refused _ _ _ ih =>
    rw [List.append_cons]
    exact (ih.concat _ rfl rfl).concat _ rfl rfl
  | @opened h c i path handle hl ih =>
    obtain ⟨lost, hperm, hlost⟩ := ih
    rw [List.append_cons]
    refine History.Accounts.concat ?_ i rfl rfl
    -- a handle that the client held before is lost now
    refine ⟨lost ++ c.handle.toList, ?_, ?_⟩
    · rw [History.opened_concat, History.passed_concat]
      simpa [Event.opened?, Event.passed?] using hperm.append_right [handle]
    · rw [History.openedIn_concat, ← hl.state_eq]
      rcases hl.handle_eq with ⟨hs, held, hheld⟩ | ⟨hs, hnone⟩
      · simp [Event.opened?, hs, hheld]
      · simpa [hs, hnone] using hlost
  | @closed h handle i hl ih =>
    rw [List.append_cons]
    obtain ⟨lost, hperm, hlost⟩ := ih.concat i (e := .became .closed) rfl rfl
    refine ⟨lost, ?_, ?_⟩
    · rw [History.opened_concat, History.passed_concat]
      have hlast : (lost ++ [handle]).Perm (handle :: lost) := List.perm_append_singleton handle lost
      have hmoved := hlast.append_left (History.passed (h ++ [(i, .became .closed)]))
      rw [← List.append_assoc] at hmoved
      simpa [Event.opened?, Event.passed?] using hperm.trans hmoved
    · rw [History.openedIn_concat]
      simpa [Event.opened?] using hlost

/-- The handle was passed back to be closed, and only once. -/
def History.PassedOnce (h : History) (handle : Value) : Prop :=
  ∃ before after, h.passed = before ++ handle :: after ∧ handle ∉ before ∧ handle ∉ after

/-- A closed client whose openings came back with different handles has passed all of them back
exactly once unless one was lost. -/
theorem Lived.passedOnce_iff (hl : Lived jobs h c) (closed : c.state = .closed)
    (distinct : h.opened.Nodup) :
    (∀ handle ∈ h.opened, h.PassedOnce handle) ↔ h.openedIn .connected = [] := by
  obtain ⟨lost, hperm, hlost⟩ := hl.accounts
  rcases hl.handle_eq with ⟨hs, -⟩ | ⟨-, hnone⟩
  · rw [closed] at hs
    cases hs
  rw [hnone, Option.toList_none, List.append_nil] at hperm
  obtain ⟨hpassed, -, hapart⟩ := List.nodup_append.1 (hperm.nodup_iff.1 distinct)
  rw [← hlost]
  constructor
  · intro honce
    refine List.eq_nil_iff_forall_not_mem.2 fun handle hmem => ?_
    obtain ⟨before, after, heq, -⟩ := honce handle (hperm.mem_iff.2 (List.mem_append_right _ hmem))
    exact hapart handle (by simp [heq]) handle hmem rfl
  · rintro rfl handle hmem
    rw [List.append_nil] at hperm
    obtain ⟨before, after, heq⟩ := List.append_of_mem (hperm.mem_iff.1 hmem)
    rw [heq] at hpassed
    obtain ⟨-, hafter, hbefore⟩ := List.nodup_append.1 hpassed
    refine ⟨before, after, heq, fun hb => hbefore handle hb handle List.mem_cons_self rfl, ?_⟩
    exact (List.nodup_cons.1 hafter).1

namespace Setup

/-- In a run whose openings come back with different handles, a client that is closed has passed
each of them back exactly once, exactly if no opening came back to a client that was connected. -/
theorem play_passedOnce_iff (path : String) (ids : IdSource) (ms : List (Move Value))
    (closed : ((Setup.direct path ids).play ms).pool.world.client.state = .closed)
    (distinct : ((Setup.direct path ids).play ms).history.opened.Nodup) :
    (∀ handle ∈ ((Setup.direct path ids).play ms).history.opened,
        ((Setup.direct path ids).play ms).history.PassedOnce handle) ↔
      ((Setup.direct path ids).play ms).history.openedIn .connected = [] :=
  (play_lived path ids ms).passedOnce_iff closed distinct

/-- A search holds the lock while the client is asked to close. -/
theorem passedOnce_close_behind_find :
    let r := (Setup.direct "a.db" fun n => .ok (.int n)).play
      [.start ⟨.connect, []⟩, .turn 0, .start ⟨.find (.text "t") .null ⟨.null, .null, .null⟩, [{ ticks := 1 }]⟩,
        .start ⟨.close, []⟩, .turn 0, .turn 0, .turn 0, .turn 0]
    r.pool.tasks = [] ∧ r.pool.world.client.state = .closed ∧ r.history.opened.Nodup ∧
      ∀ handle ∈ r.history.opened, r.history.PassedOnce handle := by
  intro r
  have closed : r.pool.world.client.state = .closed := by decide
  have hopened : r.history.opened = [.text "h1"] := rfl
  have distinct : r.history.opened.Nodup := by simp [hopened]
  exact ⟨rfl, closed, distinct, (play_passedOnce_iff _ _ _ closed distinct).2 rfl⟩

/-- Two openings come back with different handles; the client closes the second and loses the first. -/
theorem not_passedOnce_two_openings :
    let r := (Setup.direct "a.db" fun n => .ok (.int n)).play
      [.start ⟨.connect, [{ ticks := 1 }]⟩, .start ⟨.connect, [{ ticks := 1 }]⟩,
        .turn 0, .turn 0, .turn 0, .turn 0, .start ⟨.close, []⟩, .turn 0]
    r.pool.tasks = [] ∧ r.pool.world.client.state = .closed ∧ r.history.opened.Nodup ∧
      ¬ ∀ handle ∈ r.history.opened, r.history.PassedOnce handle := by
  intro r
  have hopened : r.history.opened = [.text "h1", .text "h2"] := rfl
  have hpassed : r.history.passed = [.text "h2"] := rfl
  refine ⟨rfl, by decide, by simp [hopened], fun honce => ?_⟩
  obtain ⟨before, after, heq, -⟩ := honce (.text "h1") (by simp [hopened])
  have hmem : Value.text "h1" ∈ r.history.passed := by simp [heq]
  simp [hpassed] at hmem

end Setup

end RecordStore
