/-
Blocks give back what they hold. The body of a block begins with a handle that the client holds, and whatever its
steps do, one after the other or together, that handle has been passed back exactly once when the block has been
left: the first closing passes it back, in the body or on the way out, and the client does not open the database
again. A connected client and a closed one ask for no opening, and none is pending between two steps.
-/
import RecordStore.Proofs.Lifecycle.Conversation

namespace RecordStore

variable {path : String} {ids : IdSource} {v : Value} {h : History} {c c' : Client} {es : List (Event Storage)}
  {xs : List Exchange}

/-! ## Handles that are passed back -/

/-- The handle that a call passes back to be closed. -/
def StorageCall.passed? : StorageCall → Option Value
  | .close v => some v
  | _ => none

theorem Event.passed?_eq_bind (e : Event Storage) : e.passed? = e.called?.bind StorageCall.passed? := by
  cases e with
  | called k => cases k <;> rfl
  | _ => rfl

/-- The handles passed back are those that the exchanges pass back. -/
theorem Exchanges.passed (hx : Exchanges (h.map Prod.snd) xs) : h.passed = xs.filterMap fun x => x.call.passed? := by
  have hcalled : (h.map Prod.snd).filterMap Event.passed? =
      ((h.map Prod.snd).filterMap Event.called?).filterMap StorageCall.passed? := by
    rw [List.filterMap_filterMap]
    exact congrArg (List.filterMap · _) (funext Event.passed?_eq_bind)
  rw [hx.called, List.filterMap_map, List.filterMap_map] at hcalled
  exact hcalled

/-- As long as the client holds a handle, it has not passed back any. -/
theorem Conversation.unpassed {xs : List Exchange} (h : Conversation path ⟨.connected, some v⟩ xs) :
    xs.filterMap (fun x => x.call.passed?) = [] := by
  cases h with
  | @connected failed used _ hfailed hused =>
    refine List.filterMap_eq_nil_iff.2 fun x hx => ?_
    rcases List.mem_append.1 hx with hx | hx
    · rw [(hfailed x hx).1]
      rfl
    · rcases List.mem_cons.1 hx with rfl | hx
      · rfl
      · have huses := hused x hx
        cases hcall : x.call with
        | close w =>
          rw [hcall] at huses
          exact huses.elim
        | _ => rfl

/-! ## Turns -/

/-- What has become of a handle that the client held at the beginning: it is still there, or it has been passed
back once. -/
inductive History.Returns (v : Value) : History → Client → Prop where
  | held {h : History} : h.passed = [] → Returns v h ⟨.connected, some v⟩
  | returned {h : History} : h.passed = [v] → Returns v h ⟨.closed, none⟩

/-- The task waits for an opening to come back. -/
def Phase.Opening : Phase Storage → Prop
  | .free _ => True
  | _ => False

namespace History.Returns

variable {i : Nat} {after : Option (Phase Storage)}

theorem quiet (hr : h.Returns v c) (i : Nat) (es : List (Event Storage)) (hes : ∀ e ∈ es, e.passed? = none) :
    Returns v (h ++ es.map fun e => (i, e)) c := by
  have hnone : passed (es.map fun e => (i, e)) = [] := by
    refine List.filterMap_eq_nil_iff.2 fun x hx => ?_
    obtain ⟨e, he, rfl⟩ := List.mem_map.1 hx
    exact hes e he
  have hpassed : passed (h ++ es.map fun e => (i, e)) = h.passed := by rw [passed_append, hnone, List.append_nil]
  cases hr with
  | held hp => exact .held (hpassed.trans hp)
  | returned hp => exact .returned (hpassed.trans hp)

theorem turn_claiming {r : Request} {g : Guarded Storage} (hr : h.Returns v c)
    (hop : r.operation path = .guarded g.refusal g.body) (hturn : (Phase.claiming g).Turn c true es c' after) :
    Returns v (h ++ es.map fun e => (i, e)) c' ∧ ∀ ph ∈ after, ¬ ph.Opening := by
  cases hturn with
  | turnedAway => exact ⟨hr.quiet i _ (by simp [Event.passed?]), fun _ h => nomatch h⟩
  | @enters _ handle es _ _ hc hturn =>
    subst hc
    have hentered : Returns v (h ++ [(i, .entered .connected)]) ⟨.connected, some handle⟩ :=
      hr.quiet i [.entered .connected] (by simp [Event.passed?])
    rw [List.map_cons, List.append_cons]
    rcases Request.body_cases hop handle with huses | ⟨next, hbody, hends⟩
    · obtain ⟨rfl, hes, hafter⟩ := hturn.uses huses
      refine ⟨hentered.quiet i _ fun e he => (hes e he).passed, fun ph hph => ?_⟩
      obtain ⟨call, rfl, -⟩ := hafter ph hph
      exact id
    · rw [hbody] at hturn
      obtain ⟨rfl, rest, rfl, hrest, hafter⟩ := hturn.closes hends
      constructor
      · cases hentered with
        | held hp =>
          have hclosed : Returns v (h ++ [(i, .entered .connected)] ++ [(i, .became .closed)] ++
              [(i, .called (.close v))]) ⟨.closed, none⟩ := by
            refine .returned ?_
            rw [passed_concat, passed_concat, hp]
            rfl
          simpa using hclosed.quiet i _ fun e he =>
            (Still.of_idle (S := noHandle) (List.all_eq_true.1 hrest e he)).passed
      · intro ph hph
        obtain ⟨call, rfl, -⟩ := hafter ph hph
        exact id

end History.Returns

/-- No turn of a task that is not waiting for an opening loses the handle, opens the database again, or passes the
handle back a second time. -/
theorem upheld_returns (path : String) (v : Value) :
    Upheld (Serves path) (fun h c => History.Returns v h c) (fun _ _ ph => ¬ ph.Opening) where
  turn := by
    rintro h c c' i _ ph under es after ⟨r, rfl⟩ hop hr hopening hturn
    cases hturn with
    | passes =>
      refine ⟨hr.quiet i _ (List.forall_mem_nil _), fun ph' hph => ?_⟩
      exact Option.mem_some.1 hph ▸ hopening
    | begins hturn =>
      obtain ⟨-, rfl⟩ := Request.eq_connect hop.symm
      have hreplies : ∃ a : Reply, Operation.connecting path c.state = .done a := by
        cases hr <;> exact ⟨_, rfl⟩
      obtain ⟨a, ha⟩ := hreplies
      rw [ha] at hturn
      obtain ⟨rfl, rfl, rfl⟩ := hturn.of_done
      exact ⟨hr.quiet i _ (by simp [Event.passed?]), fun _ h => nomatch h⟩
    | roams => exact (hopening trivial).elim
    | refused => exact ⟨hr.quiet i _ (by simp [Event.passed?]), fun _ h => nomatch h⟩
    | parks =>
      refine ⟨hr.quiet i _ (by simp [Event.passed?]), fun ph' hph => ?_⟩
      cases Option.mem_some.1 hph
      exact id
    | atOnce _ hturn =>
      rw [List.map_cons, List.append_cons]
      have hbegan := hr.quiet i [.began c.state] (by simp [Event.passed?])
      exact hbegan.turn_claiming hop.symm hturn
    | enters hc hturn => exact hr.turn_claiming hop (.enters hc hturn)
    | turnedAway hc => exact hr.turn_claiming hop (.turnedAway hc)
    | @resumes call _ _ _ hturn =>
      obtain ⟨-, handle, huses⟩ := Request.holding_quiet hop
      obtain ⟨rfl, hes, hafter⟩ := hturn.uses huses
      refine ⟨hr.quiet i _ (List.forall_mem_cons.2 ⟨rfl, fun e he => (hes e he).passed⟩), fun ph hph => ?_⟩
      obtain ⟨call', rfl, -⟩ := hafter ph hph
      exact id
  aside := by
    rintro h c c' i j _ ph ph' under es after - - - - - - hopening -
    exact hopening

/-- From where a session stands with a handle, whatever comes next keeps it or passes it back once. -/
theorem Session.Stands.returns {s t : Session Storage} {ms more : List (Move ScriptedStorage.Return)}
    (hs : s.Stands ((Setup.direct path ids).play ms)) (hheld : s.world.client = ⟨.connected, some v⟩)
    (ht : t.Stands ((Setup.direct path ids).play (ms ++ more))) :
    ∃ during, t.world.history = s.world.history ++ during ∧ History.Returns v during t.world.client := by
  refine hs.keeps ((upheld_returns path v).since s.world.history) (fun _ _ _ _ _ => id) (fun n job => ?_) ?_ ht
  · exact ⟨job.request, Setup.direct_operation path ids job.request⟩
  · exact ⟨[], (List.append_nil _).symm, hheld ▸ .held rfl⟩

/-! ## Entering and leaving -/

/-- The fault that a call came back with. -/
def Exchange.fault? (x : Exchange) : Option Fault :=
  match x.result with
  | .error f => some f
  | .ok _ => none

/-- Entering a block: the client has a handle then, or it is as before. No handle is passed back. -/
theorem Request.Responds.enter {reply : Reply} (hlive : c.Live) (h : Request.connect.Responds path c xs reply c') :
    xs.filterMap (fun x => x.call.passed?) = [] ∧
      match reply.result with
      | .error _ => c' = c
      | .ok _ => ∃ v, c' = ⟨.connected, some v⟩ := by
  cases h with
  | opens v _ => exact ⟨rfl, v, rfl⟩
  | opensNot f _ => exact ⟨rfl, rfl⟩
  | opened hstate =>
    obtain ⟨v, hv⟩ := hlive hstate
    exact ⟨rfl, v, by rw [← hstate, ← hv]⟩
  | openedBefore _ => exact ⟨rfl, rfl⟩
  | uses hdata _ => exact absurd rfl hdata.1
  | refuses hdata _ => exact absurd rfl hdata.1

/-- Leaving a block: a handle that is still held is passed back, and the client is closed. The fault of that call
comes before the one that was signalled in the body. -/
theorem History.Returns.leave {reply : Reply} (hr : h.Returns v c) (hclose : Request.close.Responds path c xs reply c')
    (signalled : Option Fault) :
    c' = ⟨.closed, none⟩ ∧ (xs = [] ∨ ∃ result, xs = [⟨.close v, result⟩]) ∧
      h.passed ++ xs.filterMap (fun x => x.call.passed?) = [v] ∧
      (match reply.result with
        | .error failure => some failure
        | .ok _ => signalled.map .passed) = ((xs.findSome? Exchange.fault?).or signalled).map .passed := by
  cases hr with
  | held hp =>
    rw [hp]
    cases hclose with
    | closes => exact ⟨rfl, .inr ⟨_, rfl⟩, rfl, rfl⟩
    | closesNot => exact ⟨rfl, .inr ⟨_, rfl⟩, rfl, rfl⟩
    | closed hstate => exact absurd rfl hstate
    | uses hdata _ => exact absurd rfl hdata.2
    | refuses hdata _ => exact absurd rfl hdata.2
  | returned hp =>
    rw [hp]
    cases hclose with
    | closed => exact ⟨rfl, .inl rfl, rfl, rfl⟩
    | refuses hdata _ => exact absurd rfl hdata.2

/-! ## Sessions -/

section Block

variable {B : Scripted} {k : Setup B} {s : Session B.toBoundary} {body : List (Step B.Return)}
  {signalled : Option Fault} {script : List (Entry B.Return)}

/-- A block that cannot be entered answers with the failure of entering, and nothing else is done. -/
theorem Session.step_refused {failure : Failure} (h : (s.serve k ⟨.connect, script⟩).2.1.result = .error failure) :
    s.step k (.block body signalled script) =
      ((s.serve k ⟨.connect, script⟩).1.report.1, .refused failure (s.serve k ⟨.connect, script⟩).1.report.2) := by
  unfold step
  generalize serve k s ⟨.connect, script⟩ = x at *
  obtain ⟨t, ⟨result, data⟩, rest⟩ := x
  obtain rfl : result = .error failure := h
  rfl

/-- A block that is entered takes the steps of its body and is left. -/
theorem Session.step_entered {a : Value} (h : (s.serve k ⟨.connect, script⟩).2.1.result = .ok a) :
    let (t, _, rest) := s.serve k ⟨.connect, script⟩
    let (u, answers) := t.steps k body
    let (left, reply, _) := u.serve k ⟨.close, rest⟩
    s.step k (.block body signalled script) = (left.report.1, .block answers
      (match reply.result with
        | .error failure => some failure
        | .ok _ => signalled.map .passed) left.report.2) := by
  unfold step
  generalize serve k s ⟨.connect, script⟩ = x at *
  obtain ⟨t, ⟨result, data⟩, rest⟩ := x
  obtain rfl : result = .ok a := h
  rfl

end Block

/-- A block that could not be entered: its body is not run, the client is as it was before, and no handle was
passed back. -/
structure Session.Declines (s : Session Storage) (failure : Failure) (after : Session Storage)
    (answer : Answer Storage) : Prop where
  answer : ∃ report, report.state = s.world.client.state ∧ answer = .refused failure report
  client : after.world.client = s.world.client
  /-- The only request that was served is the one that tried to enter. -/
  tasks : after.tasks = s.tasks + 1
  history : ∃ es : List (Event Storage), after.world.history = s.world.history ++ es.map (fun e => (s.tasks, e)) ∧
    History.passed (es.map fun e => (s.tasks, e)) = []

/-- A block that was entered and left. Its body led from `t` to `u`, with these answers. -/
structure Session.Releases (t u : Session Storage) (answers : List (Answer Storage)) (v : Value)
    (signalled : Option Fault) (after : Session Storage) (answer : Answer Storage) : Prop where
  /-- The handle that was held when the body began, -/
  held : t.world.client = ⟨.connected, some v⟩
  closed : after.world.client = ⟨.closed, none⟩
  /-- was passed back once, in the body or by the call that left the block. A fault of this call is what the block
  is left with, or else the one that was signalled in the body. -/
  once : ∃ (during : History) (leaving : List (Event Storage)) (xs : List Exchange),
    u.world.history = t.world.history ++ during ∧
      after.world.history = u.world.history ++ leaving.map (fun e => (u.tasks, e)) ∧
    Exchanges leaving xs ∧ (xs = [] ∨ ∃ result, xs = [⟨.close v, result⟩]) ∧
    History.passed (during ++ leaving.map fun e => (u.tasks, e)) = [v] ∧
    ∃ report, report.state = .closed ∧
      answer = .block answers (((xs.findSome? Exchange.fault?).or signalled).map .passed) report

section Left

variable {s : Session Storage} {ms : List (Move ScriptedStorage.Return)} {script : List (Entry ScriptedStorage.Return)}
  (hs : s.Stands ((Setup.direct path ids).play ms)) (body : List (Step ScriptedStorage.Return))
  (signalled : Option Fault)

include hs

theorem Session.Stands.declines {failure : Failure}
    (h : (s.serve (Setup.direct path ids) ⟨.connect, script⟩).2.1.result = .error failure) :
    let left := s.step (Setup.direct path ids) (.block body signalled script)
    s.Declines failure left.1 left.2 := by
  intro left
  obtain ⟨es, xs, hhistory, -, hxs, hresponds⟩ := serve_direct path ids hs.free.2.2 ⟨.connect, script⟩
  obtain ⟨hpassed, hclient⟩ := Request.Responds.enter hs.free.2.2 hresponds
  rw [h] at hclient
  have hleft : left = _ := step_refused h
  rw [hleft]
  exact ⟨⟨_, congrArg Client.state hclient, rfl⟩, hclient, rfl, es, hhistory, (hxs.own s.tasks).passed.trans hpassed⟩

theorem Session.Stands.releases {a : Value}
    (h : (s.serve (Setup.direct path ids) ⟨.connect, script⟩).2.1.result = .ok a) :
    let t := (s.serve (Setup.direct path ids) ⟨.connect, script⟩).1
    let u := t.steps (Setup.direct path ids) body
    let left := s.step (Setup.direct path ids) (.block body signalled script)
    ∃ v, t.Releases u.1 u.2 v signalled left.1 left.2 := by
  intro t u left
  obtain ⟨more, ht, -⟩ := serve_played hs ⟨.connect, script⟩
  obtain ⟨more', hu, -⟩ := steps_played ht body
  obtain ⟨_, _, -, -, -, hentered⟩ := serve_direct path ids hs.free.2.2 ⟨.connect, script⟩
  have henter := (Request.Responds.enter hs.free.2.2 hentered).2
  rw [h] at henter
  obtain ⟨v, hheld⟩ := henter
  obtain ⟨during, hduring, hreturns⟩ := ht.returns hheld hu
  obtain ⟨leaving, xs, hhistory, -, hxs, hresponds⟩ := serve_direct path ids hu.free.2.2
    ⟨.close, (s.serve (Setup.direct path ids) ⟨.connect, script⟩).2.2⟩
  obtain ⟨hclosed, hcall, hpassed, hfailure⟩ := hreturns.leave hresponds signalled
  have hleft : left = _ := step_entered h
  refine ⟨v, hheld, ?_, during, leaving, xs, hduring, ?_, hxs, hcall, ?_, ?_⟩
  · rw [hleft]
    exact hclosed
  · rw [hleft]
    exact hhistory
  · rw [History.passed_append, (hxs.own _).passed]
    exact hpassed
  · rw [hleft, ← hfailure]
    exact ⟨_, congrArg Client.state hclosed, rfl⟩

end Left

/-- After steps that were taken one after the other, no handle was passed back yet when one is held. -/
theorem World.Converses.unpassed {w : World Storage} (h : w.Converses path)
    (hheld : w.client = ⟨.connected, some v⟩) : History.passed w.history = [] := by
  obtain ⟨xs, hxs, hconversation⟩ := h
  rw [hheld] at hconversation
  rw [hxs.passed, hconversation.unpassed]

/-- In every session, whatever the steps before a block and in its body, the fault that is signalled in it and the
answers of the storage: a block that cannot be entered leaves the client as it was, and a block that is entered
has passed the handle that it began with back exactly once when it has been left. -/
theorem Setup.block_releases (path : String) (ids : IdSource) (sts body : List (Step ScriptedStorage.Return))
    (signalled : Option Fault) (script : List (Entry ScriptedStorage.Return)) :
    let k := Setup.direct path ids
    let s := (Session.steps k {} sts).1
    let entered := s.serve k ⟨.connect, script⟩
    let through := entered.1.steps k body
    let left := s.step k (.block body signalled script)
    (∀ failure, entered.2.1.result = .error failure → s.Declines failure left.1 left.2) ∧
      ∀ a, entered.2.1.result = .ok a → ∃ v, entered.1.Releases through.1 through.2 v signalled left.1 left.2 ∧
        ((∀ st ∈ sts, st.Sequential) → History.passed left.1.world.history = [v]) := by
  intro k s entered through left
  obtain ⟨ms, hs, -⟩ := k.session_played sts
  refine ⟨fun failure h => hs.declines body signalled h, fun a h => ?_⟩
  obtain ⟨v, hreleases⟩ := hs.releases body signalled h
  refine ⟨v, hreleases, fun hsequential => ?_⟩
  obtain ⟨during, leaving, xs, hduring, hleaving, -, -, hpassed, -⟩ := hreleases.once
  have hentered : entered.1.world.Converses path :=
    (Session.serve_responds path ids ⟨.connect, script⟩ (run_reports path ids hsequential).world).after
  rw [hleaving, hduring, List.append_assoc, History.passed_append, hentered.unpassed hreleases.held, hpassed]
  rfl

/-- A block is closed in its body by one of two requests that start together, where the storage fails. The block
inside of it cannot be entered then, and it is left with the fault that is signalled in its body. -/
theorem Setup.block_releases_closing :
    let k := Setup.direct "a.db" fun n => .ok (.int n)
    let s := (Session.steps k {} [.single ⟨.connect, []⟩]).1
    let body : List (Step ScriptedStorage.Return) :=
      [.together [⟨.find (.text "t") .null ⟨.null, .null, .null⟩, [{ ticks := 1 }]⟩,
        ⟨.close, [{ outcome := .error ⟨.engine .operational, "disk I/O error"⟩ }]⟩], .block [] none []]
    let left := s.step k (.block body (some ⟨.missingKey, "k"⟩) [])
    (s.serve k ⟨.connect, []⟩).2.1.result = .ok .null ∧ left.1.world.client = ⟨.closed, none⟩ ∧
      (∃ v, History.passed left.1.world.history = [v]) ∧
      ∃ answers report, left.2 = .block answers (some (.passed ⟨.missingKey, "k"⟩)) report := by
  intro k s body left
  have entered : (s.serve k ⟨.connect, []⟩).2.1.result = .ok .null := rfl
  obtain ⟨v, hreleases, honce⟩ := (block_releases "a.db" (fun n => .ok (.int n)) [.single ⟨.connect, []⟩] body
    (some ⟨.missingKey, "k"⟩) []).2 .null entered
  refine ⟨entered, hreleases.closed, ⟨v, honce (by simp [Step.Sequential])⟩, ?_⟩
  dsimp only [left, body, s, k]
  with_unfolding_all exact ⟨_, _, rfl⟩

end RecordStore
