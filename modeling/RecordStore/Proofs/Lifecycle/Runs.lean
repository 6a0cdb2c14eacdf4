/-
Every run of one client on a storage leaves a history behind that is lived: the parts of each
operation are told apart, the calls of data operations are quiet, an opening that comes back goes on
to connect in the same turn, and closing passes the handle back in the same turn.
-/
import RecordStore.Proofs.Lifecycle.History
import RecordStore.Proofs.Schedule.Run

namespace RecordStore

/-- A client on a storage whose calls are passed on as they are. -/
def Setup.direct (path : String) (ids : IdSource) : Setup ScriptedStorage :=
  { path, driver := Driver.direct, ids }

/-! ## The operations -/

/-- How connecting goes on when the opening comes back. -/
def Operation.afterOpening (path : String) : Except Fault Value → Program Storage Reply
  | .ok handle => .connect handle (.log (.connected path) (.done ⟨.ok .null, none⟩))
  | .error f => .done ⟨.error (notOpened f), none⟩

/-- What connecting does, by the state at its start. -/
def Operation.connecting (path : String) : Lifecycle → Program Storage Reply
  | .connected => .done ⟨.ok .null, none⟩
  | .closed => .done ⟨.error .closedForGood, none⟩
  | .unconnected => .call (.open (.text path)) (afterOpening path)

theorem Operation.connect_eq (path : String) : connect path = .free (connecting path) := by
  unfold connect
  congr 1
  funext s
  cases s with
  | unconnected =>
    refine congrArg (Program.call (B := Storage) (.open (.text path))) (funext fun r => ?_)
    cases r <;> rfl
  | connected => rfl
  | closed => rfl

/-- An operation refuses a client that is not connected as a closed client refuses it. -/
theorem Request.refusal_eq {path : String} {r : Request} {refusal : Reply}
    {body : Value → Program Storage Ending} (h : r.operation path = .guarded refusal body) :
    refusal = r.whenClosed := by
  cases r <;> cases h <;> rfl

/-- Only connecting runs without the lock. -/
theorem Request.eq_connect {path : String} {r : Request} {start : Lifecycle → Program Storage Reply}
    (h : r.operation path = .free start) : r = .connect ∧ start = Operation.connecting path := by
  cases r with
  | connect => exact ⟨rfl, Operation.free.inj (h.symm.trans (Operation.connect_eq path))⟩
  | _ => cases h

/-- Calls of a data operation are quiet, and so is their coming back. -/
theorem StorageCall.Uses.quiet {handle : Value} {c : StorageCall} (h : c.Uses handle) :
    (Event.called (B := Storage) c).Quiet ∧
      ∀ r : Except Fault Value, (Event.answered (B := Storage) c r).Quiet := by
  cases c with
  | «open» path => exact h.elim
  | close v => exact h.elim
  | _ => exact ⟨trivial, fun _ => trivial⟩

/-- What runs under the lock uses the handle it finds there, or it closes the client, passes the handle back and
ends when that comes back. -/
theorem Request.body_cases {path : String} {r : Request} {refusal : Reply} {body : Value → Program Storage Ending}
    (h : r.operation path = .guarded refusal body) (handle : Value) :
    (body handle).Uses handle ∨
      ∃ next, body handle = .close (.call (.close handle) next) ∧ ∀ result, ∃ a, next result = .done a := by
  by_cases hd : r.IsData
  · have huses := Request.operation_usesHandle path hd
    rw [h] at huses
    exact .inl (huses.2 handle)
  · cases r with
    | connect => cases h
    | close =>
      cases h
      refine .inr ⟨_, rfl, fun result => ?_⟩
      cases result <;> exact ⟨_, rfl⟩
    | _ => exact absurd ⟨nofun, nofun⟩ hd

/-- A call under the lock comes back quietly, and what goes on then is quiet. -/
theorem Request.holding_quiet {path : String} {r : Request} {call : Pending Storage Ending}
    (h : (Phase.holding call).Of (r.operation path)) :
    call.event.Quiet ∧ ∃ handle, call.rest.Uses handle := by
  obtain ⟨c, result, next⟩ := call
  obtain ⟨refusal, body, handle, hop, hcall⟩ := h
  rcases Request.body_cases hop handle with huses | ⟨answer, hbody, hends⟩
  · obtain ⟨hc, hnext⟩ := huses.of_leaves hcall
    exact ⟨hc.quiet.2 result, handle, hnext result⟩
  · rw [hbody] at hcall
    cases hcall with
    | close hcall =>
      cases hcall with
      | refl _ =>
        obtain ⟨a, ha⟩ := hends result
        refine ⟨trivial, handle, ?_⟩
        rw [Pending.rest, ha]
        trivial
      | call r hend =>
        obtain ⟨a, ha⟩ := hends r
        rw [ha] at hend
        cases hend

/-- A call without the lock is the opening of a connecting client. -/
theorem Request.free_opens {path : String} {r : Request} {call : Pending Storage Reply}
    (h : (Phase.free call).Of (r.operation path)) :
    ∃ result, call = ⟨.open (.text path), result, Operation.afterOpening path⟩ := by
  obtain ⟨c, result, next⟩ := call
  obtain ⟨start, state, hop, hcall⟩ := h
  obtain ⟨-, rfl⟩ := Request.eq_connect hop
  cases state with
  | connected => cases hcall
  | closed => cases hcall
  | unconnected =>
    cases hcall with
    | refl _ => exact ⟨result, rfl⟩
    | call r hrest =>
      cases r with
      | error f => cases hrest
      | ok handle =>
        cases hrest with
        | connect hrest =>
          cases hrest with
          | log hrest => cases hrest

/-! ## Turns -/

section Turn

variable {jobs : List (Job Value)} {ids : IdSource} {id : Nat} {script : List (Entry Value)}

/-- The client of the world has the life that its history tells. -/
def World.Lives (jobs : List (Job Value)) (w : World Storage) : Prop := Lived jobs w.history w.client

theorem World.Lives.record {w : World Storage} (hw : w.Lives jobs) {e : Event Storage}
    (he : e.Quiet) : (w.record id e).Lives jobs := Lived.quiet id hw he

/-- A program that uses a handle goes on quietly. -/
theorem advance_lives {α : Type} {handle : Value} {program : Program Storage α}
    (hp : program.Uses handle) {w : World Storage} (hw : w.Lives jobs) :
    (advance (B := ScriptedStorage) ids id w script program).1.Lives jobs := by
  induction program generalizing w script with
  | done a => exact hw
  | log r next ih => exact ih hp (hw.record trivial)
  | draw next ih => exact ih _ (hp _) (World.Lives.record (w := { w with draws := w.draws + 1 }) hw trivial)
  | connect v next ih => exact hp.1.elim
  | close next ih => exact hp.1.elim
  | call c next ih =>
    obtain ⟨hc, hnext⟩ := hp
    have hasked : (World.ask (B := ScriptedStorage) w id c).Lives jobs := Lived.quiet id hw hc.quiet.1
    unfold advance
    dsimp only
    split
    · exact ih _ (hnext _) (hasked.record (hc.quiet.2 _))
    · exact hasked

namespace Pool

theorem goFree_lives {p : Pool ScriptedStorage} {program : Program Storage Reply}
    (h : (advance (B := ScriptedStorage) ids id p.world script program).1.Lives jobs) :
    (goFree ids p id script program).world.Lives jobs := by
  unfold goFree
  split <;> rename_i hs <;> rw [hs] at h
  · exact h.record trivial
  · exact h

theorem release_lives {p : Pool ScriptedStorage} (h : p.world.Lives jobs) :
    p.release.world.Lives jobs := by
  unfold release
  split <;> exact h

theorem goHolding_lives {p : Pool ScriptedStorage} {program : Program Storage Ending}
    (h : (advance (B := ScriptedStorage) ids id p.world script program).1.Lives jobs) :
    (goHolding ids p id script program).world.Lives jobs := by
  unfold goHolding
  split <;> rename_i hs <;> rw [hs] at h
  · rename_i w ending script'
    have hreleased : (release { p with world := w }).world.Lives jobs := release_lives h
    refine Lived.quiet id (Lived.quietAll hreleased id fun e he => ?_) trivial
    obtain ⟨r, -, rfl⟩ := List.mem_map.1 he
    trivial
  · exact h

/-- When an opening comes back, a handle makes the client a connected one in the same turn. -/
theorem afterOpening_lives {w : World Storage} (hw : w.Lives jobs) (path : String)
    (result : Except Fault Value) :
    (advance (B := ScriptedStorage) ids id (w.record id (.answered (.open (.text path)) result)) script
      (Operation.afterOpening path result)).1.Lives jobs := by
  cases result with
  | error f => exact hw.record trivial
  | ok handle =>
    have hopened : World.Lives jobs ((w.record id (.answered (.open (.text path)) (.ok handle))).become
        id .connected (some handle)) := by
      have hl := Lived.opened id (.text path) handle hw
      rw [List.append_cons] at hl
      exact hl
    exact World.Lives.record hopened trivial

/-- A body that runs under the lock: a data operation uses the handle it found, and closing closes
the client and passes its handle back in the same turn. -/
theorem body_lives {path : String} {r : Request} {refusal : Reply}
    {body : Value → Program Storage Ending} (hop : r.operation path = .guarded refusal body)
    {w : World Storage} {handle : Value} (hw : w.Lives jobs) (hc : w.client = ⟨.connected, some handle⟩) :
    (advance (B := ScriptedStorage) ids id w script (body handle)).1.Lives jobs := by
  rcases Request.body_cases hop handle with huses | ⟨next, hbody, hends⟩
  · exact advance_lives huses hw
  · have hclosed : World.Lives jobs (World.ask (B := ScriptedStorage) (w.become id .closed none) id
        (.close handle)) := by
      have hl : Lived jobs w.history ⟨.connected, some handle⟩ := by rw [← hc]; exact hw
      have hl := hl.closed id
      rw [List.append_cons] at hl
      exact hl
    rw [hbody]
    unfold advance advance
    dsimp only
    -- the handle comes back in this turn or in a later one
    split
    · obtain ⟨a, ha⟩ := hends _
      rw [ha]
      exact hclosed.record trivial
    · exact hclosed

theorem enter_lives {path : String} {r : Request} {g : Guarded Storage}
    (hop : r.operation path = .guarded g.refusal g.body) {p : Pool ScriptedStorage}
    (hw : p.world.Lives jobs) : (enter ids p id script g).world.Lives jobs := by
  have hentered : (p.world.record id (.entered p.world.client.state)).Lives jobs := hw.record trivial
  unfold enter
  dsimp only
  split
  · rename_i handle hs hh
    refine goHolding_lives (body_lives hop hentered ?_)
    show p.world.client = _
    rw [← hs, ← hh]
  · exact World.Lives.record (release_lives hentered) trivial

/-- Connecting begins: a closed client refuses it. -/
theorem connecting_lives {path : String} {job : Job Value} (hr : job.request = .connect)
    {p : Pool ScriptedStorage} (hw : p.world.Lives jobs) (hjob : jobs[id]? = some job) :
    (goFree ids { p with world := p.world.record id (.began p.world.client.state) } id script
      (Operation.connecting path p.world.client.state)).world.Lives jobs := by
  cases hs : p.world.client.state with
  | closed =>
    have hl : Lived jobs _ p.world.client := Lived.refused hw hs hjob
    rw [List.append_cons, hr] at hl
    exact hl
  | connected =>
    have hbegan : (p.world.record id (.began .connected)).Lives jobs := hs ▸ Lived.began id hw (by simp [hs])
    exact goFree_lives hbegan
  | unconnected =>
    have hbegan : (p.world.record id (.began .unconnected)).Lives jobs :=
      hs ▸ Lived.began id hw (by simp [hs])
    refine goFree_lives ?_
    have hasked : World.Lives jobs (World.ask (B := ScriptedStorage)
      (p.world.record id (.began .unconnected)) id (.open (.text path))) := hbegan.record trivial
    unfold Operation.connecting advance
    dsimp only
    -- the opening comes back in this turn or in a later one
    split
    · exact afterOpening_lives hasked path _
    · exact hasked

/-- A guarded operation begins: a closed client refuses it. -/
theorem beginning_lives {path : String} {job : Job Value} {refusal : Reply}
    {body : Value → Program Storage Ending} (hop : job.request.operation path = .guarded refusal body)
    {p : Pool ScriptedStorage} (hw : p.world.Lives jobs) (hjob : jobs[id]? = some job) :
    (take ids p { id, phase := .start (.guarded refusal body), script }).world.Lives jobs := by
  unfold take
  dsimp only
  by_cases hs : p.world.client.state = .closed
  · rw [if_pos (by rw [hs]; nofun)]
    have hl : Lived jobs _ p.world.client := Lived.refused hw hs hjob
    rw [List.append_cons, ← Request.refusal_eq hop] at hl
    rw [hs]
    exact hl
  · have hbegan : (p.world.record id (.began p.world.client.state)).Lives jobs := Lived.began id hw hs
    split
    · exact hbegan.record trivial
    · split
      · exact hbegan
      · exact enter_lives hop hbegan

/-- The turn of a task that serves its job goes on with the life of the client. -/
theorem take_lives {path : String} {p : Pool ScriptedStorage} {t : Task ScriptedStorage} {job : Job Value}
    (hw : p.world.Lives jobs) (hjob : jobs[t.id]? = some job)
    (ht : t.phase.Of (job.request.operation path)) : (take ids p t).world.Lives jobs := by
  obtain ⟨id, phase, delay, script⟩ := t
  cases delay with
  | succ delay => exact hw
  | zero =>
    cases phase with
    | free call =>
      obtain ⟨result, rfl⟩ := Request.free_opens ht
      exact goFree_lives (afterOpening_lives hw path result)
    | holding call =>
      obtain ⟨hevent, handle, hrest⟩ := Request.holding_quiet ht
      exact goHolding_lives (advance_lives hrest (hw.record hevent))
    | claiming g => exact enter_lives ht hw
    | start op =>
      subst ht
      unfold take
      dsimp only
      split
      · rename_i start hop
        obtain ⟨hr, rfl⟩ := Request.eq_connect hop
        exact connecting_lives hr hw hjob
      · rename_i refusal body hop
        exact beginning_lives hop hw hjob

end Pool

end Turn

/-! ## Runs -/

theorem Setup.direct_operation (path : String) (ids : IdSource) (r : Request) :
    (Setup.direct path ids).operation r = r.operation path := Operation.through_direct _

/-- What happened in the run so far. -/
def Run.history (r : Run ScriptedStorage) : History := r.pool.world.history

/-- Every run leaves a history behind that is lived, and the client that this history tells of. -/
theorem Setup.play_lived (path : String) (ids : IdSource) (ms : List (Move Value)) :
    let r := (Setup.direct path ids).play ms
    Lived r.jobs r.history r.pool.world.client := by
  let c := Setup.direct path ids
  have hmove : ∀ (ms : List (Move Value)) (m : Move Value),
      (c.play ms).pool.world.Lives (c.play ms).jobs →
        ((c.play ms).move c m).pool.world.Lives ((c.play ms).move c m).jobs := by
    intro ms m hlives
    have hserves := c.play_serves ms
    generalize c.play ms = r at hlives hserves ⊢
    cases m with
    | start job => exact Lived.start hlives job
    | turn place =>
      unfold Run.move
      dsimp only
      split
      · exact hlives
      · rename_i t hready
        obtain ⟨job, hjob, hphase⟩ := hserves t (List.mem_append_left _ (List.mem_of_getElem? hready))
        rw [Setup.direct_operation] at hphase
        exact Pool.take_lives (p := { r.pool with ready := r.pool.ready.eraseIdx place }) hlives hjob hphase
  exact Setup.play_induct (c := c) (P := fun r => r.pool.world.Lives r.jobs) Lived.fresh hmove ms

end RecordStore
