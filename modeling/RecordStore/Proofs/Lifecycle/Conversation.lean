/-
What a client says to its storage when its requests are served one after the other. It asks to open the
database until an opening comes back with a handle, uses that handle, passes it back once, and is silent from
then on. The state of the client tells how far it has got. Entering and leaving a block are requests as well,
so blocks make no difference.
-/
import RecordStore.Proofs.Lifecycle.Handles
import RecordStore.Proofs.Lifecycle.Refusals
import RecordStore.Proofs.Schedule.Serving

namespace RecordStore

/-! ## Calls and answers -/

/-- A call and what it came back with. -/
structure Exchange where
  call : StorageCall
  result : Except Fault Value

/-- The call that was made. -/
def Event.called? : Event Storage → Option StorageCall
  | .called k => some k
  | _ => none

/-- The call that came back, and with what. -/
def Event.exchange? : Event Storage → Option Exchange
  | .answered k r => some ⟨k, r⟩
  | _ => none

/-- These are the exchanges among the events, and each call that was made has come back. -/
structure Exchanges (es : List (Event Storage)) (xs : List Exchange) : Prop where
  answered : es.filterMap Event.exchange? = xs
  called : es.filterMap Event.called? = xs.map Exchange.call

namespace Exchanges

variable {es fs : List (Event Storage)} {xs ys : List Exchange}

theorem append (h : Exchanges es xs) (h' : Exchanges fs ys) : Exchanges (es ++ fs) (xs ++ ys) := by
  constructor
  · rw [List.filterMap_append, h.answered, h'.answered]
  · rw [List.filterMap_append, h.called, h'.called, List.map_append]

theorem cons {e : Event Storage} (h : Exchanges es xs) (hcalled : e.called? = none)
    (hanswered : e.exchange? = none) : Exchanges (e :: es) xs := by
  constructor
  · rw [List.filterMap_cons_none hanswered, h.answered]
  · rw [List.filterMap_cons_none hcalled, h.called]

theorem call (h : Exchanges es xs) (k : StorageCall) (r : Except Fault Value) :
    Exchanges (.called k :: .answered k r :: es) (⟨k, r⟩ :: xs) := by
  have hcalled : (Event.called (B := Storage) k).called? = some k := rfl
  have hanswered : (Event.answered (B := Storage) k r).exchange? = some ⟨k, r⟩ := rfl
  constructor
  · rw [List.filterMap_cons_none rfl, List.filterMap_cons_some hanswered, h.answered]
  · rw [List.filterMap_cons_some hcalled, List.filterMap_cons_none rfl, h.called]
    rfl

theorem nil : Exchanges [] [] := ⟨rfl, rfl⟩

/-- It does not matter which task the events are of. -/
theorem own (h : Exchanges es xs) (i : Nat) : Exchanges ((es.map fun e => (i, e)).map Prod.snd) xs := by
  have hes : (es.map fun e => (i, e)).map Prod.snd = es := by
    rw [List.map_map]
    exact List.map_id es
  rwa [hes]

theorem replied (a : Reply) : Exchanges [.replied a] [] := nil.cons rfl rfl

theorem ending (a : Ending) : Exchanges a.events [] := by
  have hlogged : ∀ rs : List LogRecord, Exchanges (rs.map .logged) [] := by
    intro rs
    induction rs with
    | nil => exact nil
    | cons r rs ih => exact ih.cons rfl rfl
  exact (hlogged a.afterwards).append (replied a.reply)

/-- A program that comes to its end has had an answer to each of its calls. -/
theorem of_ends {α : Type} {p : Program Storage α} {a : α} (h : p.Ends es a) : ∃ xs, Exchanges es xs := by
  induction p generalizing es with
  | done b =>
    obtain ⟨rfl, -⟩ := h
    exact ⟨[], nil⟩
  | call k next ih =>
    obtain ⟨r, fs, rfl, h⟩ := h
    obtain ⟨xs, hxs⟩ := ih r h
    exact ⟨_, hxs.call k r⟩
  | draw next ih =>
    obtain ⟨r, fs, rfl, h⟩ := h
    obtain ⟨xs, hxs⟩ := ih r h
    exact ⟨xs, hxs.cons rfl rfl⟩
  | log _ next ih | connect _ next ih | close next ih =>
    obtain ⟨fs, rfl, h⟩ := h
    obtain ⟨xs, hxs⟩ := ih h
    exact ⟨xs, hxs.cons rfl rfl⟩

theorem called_of_mem (h : Exchanges es xs) {x : Exchange} (hx : x ∈ xs) : .called x.call ∈ es := by
  have hcall : x.call ∈ es.filterMap Event.called? := h.called ▸ List.mem_map_of_mem hx
  obtain ⟨e, he, hcalled⟩ := List.mem_filterMap.1 hcall
  cases e with
  | called k => exact Option.some.inj hcalled ▸ he
  | _ => cases hcalled

end Exchanges

/-! ## Requests -/

/-- What a request does that is served alone: the client it finds, the calls it makes and what they come back
with, its reply, and the client it leaves behind. -/
inductive Request.Responds (path : String) : Client → Request → List Exchange → Reply → Client → Prop where
  | opens {c : Client} (v : Value) : c.state = .unconnected →
    Responds path c .connect [⟨.open (.text path), .ok v⟩] ⟨.ok .null, none⟩ ⟨.connected, some v⟩
  /-- It may try again. -/
  | opensNot {c : Client} (f : Fault) : c.state = .unconnected →
    Responds path c .connect [⟨.open (.text path), .error f⟩] ⟨.error (Operation.notOpened f), none⟩ c
  | opened {c : Client} : c.state = .connected → Responds path c .connect [] ⟨.ok .null, none⟩ c
  | openedBefore {c : Client} : c.state = .closed →
    Responds path c .connect [] ⟨.error .closedForGood, none⟩ c
  | closes (v a : Value) :
    Responds path ⟨.connected, some v⟩ .close [⟨.close v, .ok a⟩] ⟨.ok .null, none⟩ ⟨.closed, none⟩
  /-- The client is closed although its handle may not be. -/
  | closesNot (v : Value) (f : Fault) :
    Responds path ⟨.connected, some v⟩ .close [⟨.close v, .error f⟩] ⟨.error (.passed f), none⟩ ⟨.closed, none⟩
  | closed {c : Client} : c.state ≠ .connected → Responds path c .close [] ⟨.ok .null, none⟩ c
  | uses {r : Request} {v : Value} {xs : List Exchange} {reply : Reply} : r.IsData → (∀ x ∈ xs, x.call.Uses v) →
    Responds path ⟨.connected, some v⟩ r xs reply ⟨.connected, some v⟩
  | refuses {c : Client} {r : Request} : r.IsData → c.state ≠ .connected →
    Responds path c r [] ⟨.error .notConnected, r.record?⟩ c

theorem Operation.Lone.connects {path : String} {c c' : Client} {es : List (Event Storage)} {reply : Reply}
    (h : (connect path).Lone c es c' reply) :
    ∃ xs, Request.connect.Responds path c xs reply c' ∧ Exchanges es xs := by
  rw [connect_eq] at h
  cases h with
  | @free _ es _ a hruns =>
    cases hstate : c.state with
    | connected =>
      rw [hstate] at hruns
      cases hruns
      exact ⟨[], .opened hstate, (Exchanges.replied _).cons rfl rfl⟩
    | closed =>
      rw [hstate] at hruns
      cases hruns
      exact ⟨[], .openedBefore hstate, (Exchanges.replied _).cons rfl rfl⟩
    | unconnected =>
      rw [hstate] at hruns
      cases hruns with
      | call r hruns =>
        cases r with
        | error f =>
          cases hruns
          exact ⟨_, .opensNot f hstate, ((Exchanges.replied _).call _ _).cons rfl rfl⟩
        | ok v =>
          cases hruns with
          | connect hruns =>
            cases hruns with
            | log hruns =>
              cases hruns
              exact ⟨_, .opens v hstate, ((((Exchanges.replied _).cons rfl rfl).cons rfl rfl).call _ _).cons rfl rfl⟩

theorem Operation.Lone.closes {path : String} {c c' : Client} (hlive : c.Live) {es : List (Event Storage)}
    {reply : Reply} (h : (close path).Lone c es c' reply) :
    ∃ xs, Request.close.Responds path c xs reply c' ∧ Exchanges es xs := by
  cases h with
  | refused hnot =>
    exact ⟨[], .closed (hlive.not_connected hnot), (Exchanges.replied _).cons rfl rfl⟩
  | @served _ _ v es _ a hc hruns =>
    subst hc
    cases hruns with
    | close hruns =>
      cases hruns with
      | call r hruns =>
        cases r with
        | error f =>
          cases hruns
          exact ⟨_, .closesNot v f, (((Exchanges.ending _).call _ _).cons rfl rfl).cons rfl rfl |>.cons rfl rfl⟩
        | ok a =>
          cases hruns
          exact ⟨_, .closes v a, (((Exchanges.ending _).call _ _).cons rfl rfl).cons rfl rfl |>.cons rfl rfl⟩

/-- Served alone, each request responds to the client it finds. -/
theorem Request.responds {path : String} {r : Request} {c c' : Client} (hlive : c.Live)
    {es : List (Event Storage)} {reply : Reply} (h : (r.operation path).Lone c es c' reply) :
    ∃ xs, r.Responds path c xs reply c' ∧ Exchanges es xs := by
  by_cases hdata : r.IsData
  · obtain ⟨body, hop⟩ := r.operation_data path hdata
    have huses := Request.operation_usesHandle path hdata
    rw [hop] at h huses
    cases h with
    | refused hnot =>
      exact ⟨[], .refuses hdata (hlive.not_connected hnot), (Exchanges.replied _).cons rfl rfl⟩
    | @served _ _ v es _ a hc hruns =>
      subst hc
      obtain ⟨rfl, -⟩ := hruns.uses (huses.2 v)
      have hends := hruns.does.ends
      obtain ⟨xs, hxs⟩ := Exchanges.of_ends hends
      refine ⟨xs, .uses hdata fun x hx => ?_, ?_⟩
      · exact (hends.uses (huses.2 v) _ (hxs.called_of_mem hx)).2 _ rfl
      · have hwhole := (hxs.append (.ending a)).cons (e := .entered .connected) rfl rfl
        rw [List.append_nil] at hwhole
        exact hwhole.cons rfl rfl
  · cases r with
    | connect => exact Operation.Lone.connects h
    | close => exact Operation.Lone.closes hlive h
    | _ => exact absurd ⟨nofun, nofun⟩ hdata

/-! ## Conversations -/

/-- An opening of the database that failed. -/
def Exchange.OpensNot (path : String) (x : Exchange) : Prop := x.call = .open (.text path) ∧ ∃ f, x.result = .error f

/-- What a client has said to its storage, by how far it has got. -/
inductive Conversation (path : String) : Client → List Exchange → Prop where
  | unconnected {failed : List Exchange} : (∀ x ∈ failed, x.OpensNot path) →
    Conversation path ⟨.unconnected, none⟩ failed
  | connected {failed used : List Exchange} {v : Value} : (∀ x ∈ failed, x.OpensNot path) →
    (∀ x ∈ used, x.call.Uses v) →
    Conversation path ⟨.connected, some v⟩ (failed ++ ⟨.open (.text path), .ok v⟩ :: used)
  | closed {failed used : List Exchange} {v : Value} {result : Except Fault Value} :
    (∀ x ∈ failed, x.OpensNot path) → (∀ x ∈ used, x.call.Uses v) →
    Conversation path ⟨.closed, none⟩ (failed ++ ⟨.open (.text path), .ok v⟩ :: (used ++ [⟨.close v, result⟩]))

namespace Conversation

variable {path : String} {c c' : Client} {xs ys : List Exchange}

theorem live (h : Conversation path c xs) : c.Live := by
  cases h with
  | unconnected => nofun
  | connected => exact fun _ => ⟨_, rfl⟩
  | closed => nofun

/-- Each request goes on with the conversation. -/
theorem append {r : Request} {reply : Reply} (h : Conversation path c xs) (hr : r.Responds path c ys reply c') :
    Conversation path c' (xs ++ ys) := by
  cases hr with
  | opens v hc =>
    cases h with
    | unconnected hfailed => exact .connected hfailed (List.forall_mem_nil _)
    | connected => cases hc
    | closed => cases hc
  | opensNot f hc =>
    cases h with
    | unconnected hfailed =>
      refine .unconnected fun x hx => ?_
      rcases List.mem_append.1 hx with hx | hx
      · exact hfailed x hx
      · exact List.mem_singleton.1 hx ▸ ⟨rfl, f, rfl⟩
    | connected => cases hc
    | closed => cases hc
  | opened | openedBefore | closed | refuses =>
    rw [List.append_nil]
    exact h
  | closes v a | closesNot v f =>
    cases h with
    | connected hfailed hused =>
      rw [List.append_assoc, List.cons_append]
      exact .closed hfailed hused
  | uses _ hys =>
    cases h with
    | connected hfailed hused =>
      rw [List.append_assoc, List.cons_append]
      refine .connected hfailed fun x hx => ?_
      rcases List.mem_append.1 hx with hx | hx
      · exact hused x hx
      · exact hys x hx

end Conversation

/-! ## Sessions -/

/-- The client of the world has had this conversation with its storage, which the history records. -/
def World.Converses (path : String) (w : World Storage) : Prop :=
  ∃ xs, Exchanges (w.history.map Prod.snd) xs ∧ Conversation path w.client xs

/-- Served alone, the request responds to what it finds and goes on with the conversation. Its reply is the last
that happens. -/
structure Session.Responds (path : String) (s : Session Storage) (r : Request) (reply : Reply) (t : Session Storage) :
    Prop where
  before : s.world.Converses path
  responds : ∃ es xs, t.world.history = s.world.history ++ es.map (fun e => (s.tasks, e)) ∧
    es.getLast? = some (.replied reply) ∧ Exchanges es xs ∧ r.Responds path s.world.client xs reply t.world.client
  after : t.world.Converses path

/-- A session in which the client has a conversation with its storage. -/
structure Setup.Converses (c : Setup ScriptedStorage) (sts : List (Step ScriptedStorage.Return)) : Prop where
  whole : (Session.steps c {} sts).1.world.Converses c.path
  /-- What was reported by any time is a conversation as well, and the report tells how far it has got. -/
  reported : ∀ {before after : List (Report Storage)} {report : Report Storage},
    Answer.allReports (c.run sts) = before ++ report :: after → ∃ client xs, report.state = client.state ∧
      Exchanges ((before ++ [report]).flatMap Report.events) xs ∧ Conversation c.path client xs
  /-- The requests of the steps are served one after the other, with those that enter and leave the blocks. -/
  served : (Session.steps c {} sts).1.world = (Session.serveEach c {} (Session.jobs c {} sts)).1.world
  responds : ∀ {before after : List (Job ScriptedStorage.Return)} {job : Job ScriptedStorage.Return},
    Session.jobs c {} sts = before ++ job :: after →
      let s := (Session.serveEach c {} before).1
      s.Responds c.path job.request (s.serve c job).2.1 (s.serve c job).1

section Served

variable (path : String) (ids : IdSource)

/-- Served alone by a client that has a handle if it is connected, a request responds to what it finds. -/
theorem Session.serve_direct {s : Session Storage} (hlive : s.world.client.Live) (job : Job ScriptedStorage.Return) :
    ∃ es xs, (s.serve (Setup.direct path ids) job).1.world.history =
        s.world.history ++ es.map (fun e => (s.tasks, e)) ∧
      es.getLast? = some (.replied (s.serve (Setup.direct path ids) job).2.1) ∧ Exchanges es xs ∧
      job.request.Responds path s.world.client xs (s.serve (Setup.direct path ids) job).2.1
        (s.serve (Setup.direct path ids) job).1.world.client := by
  let c := Setup.direct path ids
  obtain ⟨es, hlone, hhistory⟩ : ∃ es,
      (job.request.operation path).Lone s.world.client es (s.serve c job).1.world.client (s.serve c job).2.1 ∧
        (s.serve c job).1.world.history = s.world.history ++ es.map fun e => (s.tasks, e) := by
    rw [← Setup.direct_operation path ids job.request]
    exact Operation.alone_lone c.ids s.tasks s.world job.script (c.operation job.request)
  obtain ⟨xs, hresponds, hxs⟩ := Request.responds hlive hlone
  exact ⟨es, xs, hhistory, hlone.last, hxs, hresponds⟩

theorem Session.serve_responds {s : Session Storage} (job : Job ScriptedStorage.Return) (h : s.world.Converses path) :
    s.Responds path job.request (s.serve (Setup.direct path ids) job).2.1 (s.serve (Setup.direct path ids) job).1 := by
  obtain ⟨xs, hxs, hconversation⟩ := h
  obtain ⟨es, ys, hhistory, hlast, hys, hresponds⟩ := serve_direct path ids hconversation.live job
  refine ⟨⟨xs, hxs, hconversation⟩, ⟨es, ys, hhistory, hlast, hys, hresponds⟩, xs ++ ys, ?_,
    hconversation.append hresponds⟩
  rw [hhistory, List.map_append]
  exact hxs.append (hys.own s.tasks)

theorem Session.serveEach_converses {s : Session Storage} (js : List (Job ScriptedStorage.Return))
    (h : s.world.Converses path) : (s.serveEach (Setup.direct path ids) js).1.world.Converses path := by
  induction js generalizing s with
  | nil => exact h
  | cons job js ih => exact ih (serve_responds path ids job h).after

theorem World.fresh_converses : ({} : World Storage).Converses path :=
  ⟨[], .nil, .unconnected (List.forall_mem_nil _)⟩

/-- The conversation goes on throughout steps that are taken one after the other, and the reports tell of it. -/
theorem Setup.run_reports {sts : List (Step ScriptedStorage.Return)} (h : ∀ st ∈ sts, st.Sequential) :
    Session.Reports (World.Converses path) {} (Session.steps (Setup.direct path ids) {} sts).1
      (Answer.allReports ((Setup.direct path ids).run sts)) := by
  have hfresh : Session.Reports (B := ScriptedStorage) (World.Converses path) {} {} [] :=
    ⟨World.fresh_converses path, Nat.le_refl _, trivial, rfl⟩
  exact Session.steps_reports (c := Setup.direct path ids)
    (fun s job hs => (Session.serve_responds path ids job hs).after) ((Step.allSequential_iff sts).2 h) hfresh

/-- In a session of steps that are taken one after the other, with any arguments, any answers and any failures,
the client has a conversation with its storage. -/
theorem Setup.run_converses (sts : List (Step ScriptedStorage.Return)) (h : ∀ st ∈ sts, st.Sequential) :
    (Setup.direct path ids).Converses sts := by
  have hreports := Setup.run_reports path ids h
  constructor
  · exact hreports.world
  · intro before after report hsplit
    obtain ⟨w, ⟨xs, hxs, hconversation⟩, hstate, hevents⟩ := (hsplit ▸ hreports.tell).split
    refine ⟨w.client, xs, hstate, ?_, hconversation⟩
    rw [hevents] at hxs
    simpa [Session.told] using hxs
  · exact (Session.steps_level ((Step.allSequential_iff sts).2 h)).world
  · intro before after job _
    exact Session.serve_responds path ids job (Session.serveEach_converses path ids before (World.fresh_converses path))

end Served

/-- A client that is opened at the second attempt. Its handle is passed back inside of the block, where the
storage fails, and not again when the block is left; afterwards it cannot be opened any more. -/
theorem Setup.run_converses_nested :
    let c := Setup.direct "a.db" fun n => .ok (.int n)
    let sts : List (Step ScriptedStorage.Return) :=
      [.single ⟨.connect, [{ outcome := .error ⟨.system .notFound, "no such directory"⟩ }]⟩,
        .block [.single ⟨.find (.text "t") .null ⟨.null, .null, .null⟩, []⟩,
          .block [] none [{ outcome := .error ⟨.engine .operational, "disk I/O error"⟩ }]] none [],
        .single ⟨.connect, []⟩]
    (∀ st ∈ sts, st.Sequential) ∧ c.Converses sts ∧
      (Answer.allReports (c.run sts)).map Report.state = [.unconnected, .connected, .closed, .closed, .closed] := by
  refine ⟨?_, run_converses "a.db" _ _ ?_, by decide +kernel⟩
  · simp [Step.Sequential, Step.allSequential]
  · simp [Step.Sequential, Step.allSequential]

end RecordStore
