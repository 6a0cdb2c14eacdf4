/-
What becomes of a connection that could not be prepared. Opening closes it again, once, after a fault of the
engine, and leaves it open after any other fault of the preparation, whoever opened it being told of the fault
alone. So opening leaves no connection behind exactly if nothing but the engine fails while it prepares one.
-/
import RecordStore.Proofs.Schedule.Serving
import RecordStore.Proofs.Sqlite.Opening
import RecordStore.Sqlite.Direct

namespace RecordStore

/-! ## Preparing -/

/-- The call prepares the connection for its use. -/
def ConnectionCall.Readies (v : Value) : ConnectionCall → Prop
  | .nameColumns w => w = v
  | .execute w _ _ => w = v
  | .commit w => w = v
  | _ => False

/-- The event belongs to a call that prepares the connection. -/
def Event.Readies (v : Value) : Event Connection → Prop
  | .called k => k.Readies v
  | .answered k _ => k.Readies v
  | _ => False

namespace Sqlite

variable {o : Options} {path v : Value} {es ps qs : List (Event Connection)}

/-- The connection has been prepared through these events, with this outcome. -/
structure Readying (v : Value) (ps : List (Event Connection)) (r : Except Fault Unit) : Prop where
  readies : ∀ e ∈ ps, e.Readies v
  failed : ∀ f, r = .error f ↔ ∃ k, .answered k (.error f) ∈ ps

theorem Readying.request {k : ConnectionCall} (hk : k.Readies v) (x : Except Fault k.Answer) :
    Readying v [.called k, .answered k x] (x.map fun _ => ()) := by
  refine ⟨List.forall_mem_cons.2 ⟨hk, List.forall_mem_singleton.2 hk⟩, fun f => ?_⟩
  cases x with
  | ok a => simp [Except.map]
  | error f' =>
    constructor
    · rintro ⟨⟩
      exact ⟨k, by simp⟩
    · rintro ⟨k', hmem⟩
      simp at hmem
      obtain ⟨rfl, hf⟩ := hmem
      cases hf
      rfl

theorem Readying.append {r : Except Fault Unit} (hps : Readying v ps (.ok ())) (hqs : Readying v qs r) :
    Readying v (ps ++ qs) r := by
  refine ⟨List.forall_mem_append.2 ⟨hps.readies, hqs.readies⟩, fun f => ?_⟩
  have hnone (k : ConnectionCall) : .answered k (.error f) ∉ ps := fun hmem => by
    cases (hps.failed f).2 ⟨k, hmem⟩
  simp only [List.mem_append, hnone, false_or]
  exact hqs.failed f

theorem prepare_readying {r : Except Fault Unit} (h : (prepare o v).Ends ps r) : Readying v ps r := by
  have hname (x : Except Fault Unit) := Readying.request (v := v) (k := .nameColumns v) rfl x
  have hrun (x : Except Fault Cursor) := Readying.request (v := v) (k := .execute v foreignKeysOn none) rfl x
  have hcommit (x : Except Fault Unit) := Readying.request (v := v) (k := .commit v) rfl x
  rcases h.of_andThen with ⟨f, hends, rfl⟩ | ⟨_, _, _, rfl, hends, h⟩
  · rw [request_ends hends]
    exact hname (.error f)
  rw [request_ends hends]
  refine (hname (.ok ())).append ?_
  split at h
  · rcases h.of_andThen with ⟨f, hends, rfl⟩ | ⟨_, n, _, rfl, hends, h⟩
    · rw [request_ends hends]
      exact hrun (.error f)
    rw [request_ends hends]
    refine (hrun (.ok n)).append ?_
    rw [request_ends h]
    cases r with
    | ok _ => exact hcommit (.ok ())
    | error f => exact hcommit (.error f)
  · obtain ⟨rfl, rfl⟩ := h
    exact ⟨List.forall_mem_nil _, by simp⟩

/-- How opening goes. -/
inductive Opening (o : Options) (path : Value) : List (Event Connection) → Except Fault Value → Prop where
  | refused (f : Fault) : Opening o path
    [.called (.connect path o.timeout), .answered (.connect path o.timeout) (.error f)] (.error f)
  | opened {v : Value} {ps : List (Event Connection)} (ready : Readying v ps (.ok ())) : Opening o path
    (.called (.connect path o.timeout) :: .answered (.connect path o.timeout) (.ok v) ::
      (ps ++ [.logged (.opened path)]))
    (.ok v)
  /-- If the closing fails as well, its fault takes the place of the first one. -/
  | closed {v : Value} {ps : List (Event Connection)} {f : Fault} (unready : Readying v ps (.error f))
    (engine : f.isEngine = true) (x : Except Fault Unit) : Opening o path
    (.called (.connect path o.timeout) :: .answered (.connect path o.timeout) (.ok v) ::
      (ps ++ [.called (.close v), .answered (.close v) x]))
    (match x with
      | .ok _ => .error f
      | .error f' => .error f')
  | left {v : Value} {ps : List (Event Connection)} {f : Fault} (unready : Readying v ps (.error f))
    (other : f.isEngine = false) : Opening o path
    (.called (.connect path o.timeout) :: .answered (.connect path o.timeout) (.ok v) :: ps) (.error f)

theorem openConnection_opening {r : Except Fault Value} (h : (openConnection o path).Ends es r) :
    Opening o path es r := by
  rcases h.of_andThen with ⟨f, hconnect, rfl⟩ | ⟨_, v, _, rfl, hconnect, h⟩
  · rw [request_ends hconnect]
    exact .refused f
  rw [request_ends hconnect]
  obtain ⟨ps, x, _, rfl, hprepare, h⟩ := h.of_bind
  have hready := prepare_readying hprepare
  cases x with
  | ok _ =>
    obtain ⟨_, rfl, rfl, rfl⟩ := h
    exact .opened hready
  | error f =>
    dsimp only at h
    split at h
    · rename_i hengine
      rcases h.of_andThen with ⟨f', hclose, rfl⟩ | ⟨_, _, _, rfl, hclose, rfl, rfl⟩
      · rw [request_ends hclose]
        exact .closed hready hengine (.error f')
      · rw [request_ends hclose, List.append_nil]
        exact .closed hready hengine (.ok ())
    · rename_i hother
      obtain ⟨rfl, rfl⟩ := h
      rw [List.append_nil]
      exact .left hready (Bool.eq_false_iff.2 hother)

end Sqlite

/-! ## Connections that are left behind -/

/-- The element is in the list once. -/
def Once {α : Type} (a : α) (l : List α) : Prop :=
  ∃ before after, l = before ++ a :: after ∧ a ∉ before ∧ a ∉ after

/-- A connection that came back has been closed once if opening has failed, and not at all if it has
succeeded. -/
def LeavesNone {ε : Type} (es : List (Event Connection)) (r : Except ε Value) : Prop :=
  ∀ path timeout v, .answered (.connect path timeout) (.ok v) ∈ es →
    (∀ e, r = .error e → Once (.called (.close v)) es) ∧ ∀ x, r = .ok x → .called (.close v) ∉ es

namespace Sqlite

variable {o : Options} {path v : Value} {es ps : List (Event Connection)}

/-- Nothing but the engine has failed to prepare a connection. -/
def OnlyEngineFails (es : List (Event Connection)) : Prop :=
  ∀ v k f, k.Readies v → .answered k (.error f) ∈ es → f.isEngine = true

theorem Readying.unclosed {r : Except Fault Unit} (h : Readying v ps r) (w : Value) : .called (.close w) ∉ ps :=
  fun hmem => h.readies _ hmem

theorem Readying.unconnected {r : Except Fault Unit} (h : Readying v ps r) (p t : Value) (x : Except Fault Value) :
    .answered (.connect p t) x ∉ ps :=
  fun hmem => h.readies _ hmem

/-- Behind the connecting, the connection that came back is the only one. -/
theorem eq_of_connected {v w p t : Value} {qs : List (Event Connection)}
    (hqs : ∀ p t x, .answered (.connect p t) x ∉ qs)
    (hmem : .answered (.connect p t) (.ok w) ∈ .called (.connect path o.timeout) ::
      .answered (.connect path o.timeout) (.ok v) :: qs) : w = v := by
  rcases List.mem_cons.1 hmem with heq | hmem
  · cases heq
  · rcases List.mem_cons.1 hmem with heq | hmem
    · cases heq
      rfl
    · exact absurd hmem (hqs p t _)

/-- The connecting is no preparation. -/
theorem mem_of_readies {w : Value} {k : ConnectionCall} {f : Fault} {x : Except Fault Value}
    {qs : List (Event Connection)} (hk : k.Readies w)
    (hmem : .answered k (.error f) ∈ .called (.connect path o.timeout) ::
      .answered (.connect path o.timeout) x :: qs) : .answered k (.error f) ∈ qs := by
  rcases List.mem_cons.1 hmem with heq | hmem
  · cases heq
  · rcases List.mem_cons.1 hmem with heq | hmem
    · cases heq
      exact hk.elim
    · exact hmem

/-- Opening leaves no connection behind exactly if it was the engine that failed, or nothing. -/
theorem Opening.leavesNone_iff {r : Except Fault Value} (h : Opening o path es r) :
    LeavesNone es r ↔ OnlyEngineFails es := by
  cases h with
  | refused f =>
    constructor
    · intro _ w k f' hk hmem
      cases mem_of_readies hk hmem
    · intro _ p t w hmem
      rcases List.mem_cons.1 hmem with heq | hmem
      · cases heq
      · cases List.mem_singleton.1 hmem
  | @opened v ps ready =>
    have hconnect (p t : Value) (x : Except Fault Value) :
        .answered (.connect p t) x ∉ ps ++ [.logged (.opened path)] := by
      simpa using ready.unconnected p t x
    constructor
    · intro _ w k f hk hmem
      have hps : .answered k (.error f) ∈ ps := by simpa using mem_of_readies hk hmem
      cases (ready.failed f).2 ⟨k, hps⟩
    · intro _ p t w hmem
      obtain rfl := eq_of_connected hconnect hmem
      refine ⟨nofun, fun x _ => ?_⟩
      simpa using ready.unclosed w
  | @closed v ps f unready engine x =>
    have hconnect (p t : Value) (y : Except Fault Value) :
        .answered (.connect p t) y ∉ ps ++ [.called (.close v), .answered (.close v) x] := by
      simpa using ⟨unready.unconnected p t y, nofun⟩
    constructor
    · intro _ w k f' hk hmem
      have hps : .answered k (.error f') ∈ ps := by
        rcases List.mem_append.1 (mem_of_readies hk hmem) with hps | hclose
        · exact hps
        · rcases List.mem_cons.1 hclose with heq | hclose
          · cases heq
          · cases List.mem_singleton.1 hclose
            exact hk.elim
      cases (unready.failed f').2 ⟨k, hps⟩
      exact engine
    · intro _ p t w hmem
      obtain rfl := eq_of_connected hconnect hmem
      refine ⟨fun e _ => ?_, fun y hy => ?_⟩
      · exact ⟨.called (.connect path o.timeout) :: .answered (.connect path o.timeout) (.ok w) :: ps,
          [.answered (.close w) x], rfl, by simpa using unready.unclosed w, by simp⟩
      · cases x <;> cases hy
  | @left v ps f unready other =>
    have hmem : .answered (.connect path o.timeout) (.ok v) ∈ Event.called (B := Connection)
        (.connect path o.timeout) :: .answered (.connect path o.timeout) (.ok v) :: ps := by simp
    obtain ⟨k, hk⟩ := (unready.failed f).1 rfl
    constructor
    · intro hnone
      obtain ⟨before, after, heq, -⟩ := (hnone _ _ _ hmem).1 f rfl
      have hclosed : .called (.close v) ∈ Event.called (B := Connection)
          (.connect path o.timeout) :: .answered (.connect path o.timeout) (.ok v) :: ps := by
        rw [heq]
        simp
      exact absurd (by simpa using hclosed) (unready.unclosed v)
    · intro hengine
      have hfalse := hengine v k f (unready.readies _ hk) (List.mem_cons_of_mem _ (List.mem_cons_of_mem _ hk))
      rw [other] at hfalse
      cases hfalse

/-! ## Direct uses -/

namespace Direct

/-- A direct use that gets as far as the driver runs the driver's program to an end. -/
theorem use_ends (o : Options) (d : Direct) (u : Use) (script : List (Entry ConnectionReturn)) {k : StorageCall}
    (hk : u.call d.connection = .ok k) :
    ∃ r, (driver o k).Ends (d.use o u script).2.events r ∧ (d.use o u script).2.result = r.mapError .passed := by
  obtain ⟨es, hruns, hhistory⟩ := complete_runs (B := ScriptedConnection) (fun _ => .ok .null) d.uses
    (driver o k) d.world script
  have hevents : (d.use o u script).2.events = es := by
    unfold use
    rw [hk]
    show (List.drop _ (complete (B := ScriptedConnection) _ _ _ _ (driver o k)).1.history).map Prod.snd = es
    rw [hhistory, List.drop_left, List.map_map]
    exact List.map_id es
  rw [hevents]
  refine ⟨_, hruns.does.ends, ?_⟩
  unfold use
  rw [hk]

/-- A direct opening runs the program of opening to an end. -/
theorem use_opens (o : Options) (d : Direct) (path : Value) (script : List (Entry ConnectionReturn)) :
    ∃ r, (openConnection o path).Ends (d.use o (.openConnection path) script).2.events r ∧
      (d.use o (.openConnection path) script).2.result = r.mapError .passed :=
  use_ends o d (.openConnection path) script rfl

/-- For all options, whatever was done before and whatever the script, opening leaves no connection behind exactly
if no fault but one of the engine ended a call that prepared the connection. -/
theorem use_leavesNone_iff (o : Options) (d : Direct) (path : Value) (script : List (Entry ConnectionReturn)) :
    LeavesNone (d.use o (.openConnection path) script).2.events (d.use o (.openConnection path) script).2.result ↔
      OnlyEngineFails (d.use o (.openConnection path) script).2.events := by
  obtain ⟨r, hends, hresult⟩ := use_opens o d path script
  have hmapped {es : List (Event Connection)} : LeavesNone es (r.mapError Failure.passed) ↔ LeavesNone es r := by
    cases r <;> simp [LeavesNone, Except.mapError]
  rw [hresult, hmapped]
  exact (openConnection_opening hends).leavesNone_iff

/-- A fault of the operating system while foreign keys are turned on leaves the connection open. -/
theorem not_leavesNone_system :
    let a := (Direct.use {} {} (.openConnection (.text "a.db"))
      [{}, { outcome := .error ⟨.system .general, "disk I/O error"⟩ }]).2
    ¬ LeavesNone a.events a.result := by
  intro a hnone
  have own : a.events = [.called (.connect (.text "a.db") (.float (.ofInt 5))),
      .answered (.connect (.text "a.db") (.float (.ofInt 5))) (.ok (.text "h1")),
      .called (.nameColumns (.text "h1")), .answered (.nameColumns (.text "h1")) (.ok ()),
      .called (.execute (.text "h1") foreignKeysOn none),
      .answered (.execute (.text "h1") foreignKeysOn none) (.error ⟨.system .general, "disk I/O error"⟩)] := rfl
  have failed : a.result = .error (.passed ⟨.system .general, "disk I/O error"⟩) := rfl
  rw [own, failed] at hnone
  obtain ⟨before, after, heq, -⟩ := (hnone _ _ (.text "h1") (List.mem_cons_of_mem _ List.mem_cons_self)).1 _ rfl
  have hclosed := heq ▸ List.mem_append_right before (List.mem_cons_self (l := after))
  simp at hclosed

end Direct

end Sqlite

end RecordStore
