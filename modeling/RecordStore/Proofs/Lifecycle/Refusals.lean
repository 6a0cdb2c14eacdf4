/-
When a client refuses a data operation. It looks at its state twice, when the operation begins and when the
operation obtains the lock, and it refuses exactly those that find it not connected then, however long they
wait in between and whatever others do meanwhile. An operation that is refused does nothing else: it makes no
call, draws no identifier and looks at none of its arguments.
-/
import RecordStore.Proofs.Condition.Outcome
import RecordStore.Proofs.Lifecycle.Arguments

namespace RecordStore

/-- The failure denies that the client is connected. It may be found by the store or signalled by someone
else. -/
def Failure.DeniesConnection : Failure → Prop
  | .notConnected => True
  | .passed f => f.kind = .own .notConnected
  | _ => False

/-- The storage or the source of identifiers denies that the client is connected. -/
def Event.Denies : Event Storage → Prop
  | .answered _ (.error f) => f.kind = .own .notConnected
  | .drew (.error f) => f.kind = .own .notConnected
  | _ => False

/-- The record that a request asks to store. -/
def Request.record? : Request → Option Value
  | .create _ record => some record
  | _ => none

/-! ## What operations see -/

/-- The state that an operation sees when it begins, and when it obtains the lock. -/
def Event.seen? {B : Boundary} : Event B → Option Lifecycle
  | .began s => some s
  | .entered s => some s
  | _ => none

theorem Event.Inner.seen?_eq {B : Boundary} {e : Event B} (he : e.Inner) : e.seen? = none := by
  cases e with
  | began s | entered s => exact he.elim
  | _ => rfl

/-- A task saw that the client was not connected. -/
def SawUnconnected (es : List (Event Storage)) : Prop :=
  ∃ s, s ≠ .connected ∧ (.began s ∈ es ∨ .entered s ∈ es)

/-- In a history that begins in state `s`, each operation sees the state that the history before tells. -/
def History.SeesFrom (s : Lifecycle) : History → Prop
  | [] => True
  | (_, e) :: h => (∀ s' ∈ e.seen?, s' = s) ∧ SeesFrom (e.state s) h

namespace History

variable {s : Lifecycle} {h k : History}

theorem seesFrom_append : SeesFrom s (h ++ k) ↔ SeesFrom s h ∧ SeesFrom (stateFrom s h) k := by
  induction h generalizing s with
  | nil => simp [SeesFrom, stateFrom]
  | cons e h ih => simp only [List.cons_append, SeesFrom, stateFrom, ih, and_assoc]

theorem SeesFrom.at {i : Nat} {e : Event Storage} (hsees : SeesFrom s (h ++ (i, e) :: k)) {s' : Lifecycle}
    (he : s' ∈ e.seen?) : s' = stateFrom s h :=
  (seesFrom_append.1 hsees).2.1 s' he

/-- An operation of the task found the client not connected when it began or when it obtained the lock. -/
def Missed (h : History) (i : Nat) : Prop :=
  ∃ (a b : History) (s : Lifecycle), (h = a ++ (i, .began s) :: b ∨ h = a ++ (i, .entered s) :: b) ∧
    a.state ≠ .connected

/-- What a task missed is among its own events, if operations see the state the client has. -/
theorem SeesFrom.missed_iff {i : Nat} (hsees : SeesFrom .unconnected h) :
    h.Missed i ↔ SawUnconnected (eventsOf i h) := by
  have hstate {a b : History} {e : Event Storage} {s : Lifecycle} (heq : h = a ++ (i, e) :: b) (he : s ∈ e.seen?) :
      s = a.state := (heq ▸ hsees).at he
  constructor
  · rintro ⟨a, b, s, heq | heq, hs⟩
    · exact ⟨s, hstate heq rfl ▸ hs, .inl (mem_eventsOf.2 (by simp [heq]))⟩
    · exact ⟨s, hstate heq rfl ▸ hs, .inr (mem_eventsOf.2 (by simp [heq]))⟩
  · rintro ⟨s, hs, hmem | hmem⟩
    · obtain ⟨a, b, heq⟩ := List.append_of_mem (mem_eventsOf.1 hmem)
      exact ⟨a, b, s, .inl heq, hstate heq rfl ▸ hs⟩
    · obtain ⟨a, b, heq⟩ := List.append_of_mem (mem_eventsOf.1 hmem)
      exact ⟨a, b, s, .inr heq, hstate heq rfl ▸ hs⟩

end History

section Turn

variable {c c' c'' : Client} {i : Nat} {es fs : List (Event Storage)} {α : Type}

/-- Through these events of a task the client gets into the state of `c'`, and the task sees each state that
the client is in. -/
def Client.Shows (i : Nat) (c : Client) (es : List (Event Storage)) (c' : Client) : Prop :=
  History.SeesFrom c.state (es.map fun e => (i, e)) ∧ c'.state = History.stateFrom c.state (es.map fun e => (i, e))

theorem Client.Shows.cons {e : Event Storage} (he : ∀ s ∈ e.seen?, s = c.state) (hc : c'.state = e.state c.state)
    (h : c'.Shows i es c'') : c.Shows i (e :: es) c'' := by
  unfold Client.Shows at h
  rw [hc] at h
  exact ⟨⟨he, h.1⟩, h.2⟩

theorem Client.Shows.quiet (h : ∀ e ∈ es, e.Quiet ∧ e.seen? = none) : c.Shows i es c := by
  induction es with
  | nil => exact ⟨trivial, rfl⟩
  | cons e es ih =>
    obtain ⟨⟨hquiet, hseen⟩, hes⟩ := List.forall_mem_cons.1 h
    exact .cons (by simp [hseen]) (hquiet.state_eq _).symm (ih hes)

theorem Client.Shows.append (h : c.Shows i es c') (h' : c'.Shows i fs c'') : c.Shows i (es ++ fs) c'' := by
  unfold Client.Shows at h h' ⊢
  rw [List.map_append, History.seesFrom_append, History.stateFrom_append, ← h.2]
  exact ⟨⟨h.1, h'.1⟩, h'.2⟩

theorem Program.Runs.shows {p q : Program Storage α} (h : p.Runs c es c' q) : c.Shows i es c' := by
  induction h with
  | here => exact ⟨trivial, rfl⟩
  | call r _ ih => exact .cons nofun rfl (.cons nofun rfl ih)
  | draw r _ ih => exact .cons nofun rfl ih
  | log _ ih => exact .cons nofun rfl ih
  | connect _ ih | close _ ih => exact .cons nofun rfl ih

theorem Program.Turn.shows {p : Program Storage α} {last : α → List (Event Storage)}
    {wait : Pending Storage α → Phase Storage} {after : Option (Phase Storage)}
    (h : p.Turn last wait c es c' after) (hlast : ∀ a, ∀ e ∈ last a, e.Quiet ∧ e.seen? = none) :
    c.Shows i es c' := by
  cases h with
  | ends hruns => exact hruns.shows.append (.quiet (hlast _))
  | waits call hruns => exact hruns.shows.append (.cons nofun rfl ⟨trivial, rfl⟩)

theorem Ending.events_unseen : ∀ (a : Ending), ∀ e ∈ a.events (B := Storage), e.Quiet ∧ e.seen? = none :=
  Ending.events_all (fun _ => ⟨trivial, rfl⟩) fun _ => ⟨trivial, rfl⟩

/-- In every turn the task sees the state that the client is in. -/
theorem Phase.Turn.shows {ph : Phase Storage} {under : Bool} {after : Option (Phase Storage)}
    (h : ph.Turn c under es c' after) : c.Shows i es c' := by
  have hreply : ∀ a : Reply, ∀ e ∈ [Event.replied (B := Storage) a], e.Quiet ∧ e.seen? = none :=
    fun a => List.forall_mem_singleton.2 ⟨trivial, rfl⟩
  have hown {s : Lifecycle} : ∀ s' ∈ some s, s' = s := fun s' hs' => (Option.some.inj hs').symm
  induction h with
  | passes => exact ⟨trivial, rfl⟩
  | begins hturn => exact .cons hown rfl (hturn.shows hreply)
  | roams hturn => exact .cons nofun rfl (hturn.shows hreply)
  | refused => exact .cons hown rfl (.quiet (hreply _))
  | parks => exact .cons hown rfl ⟨trivial, rfl⟩
  | atOnce _ _ ih => exact .cons hown rfl ih
  | enters _ hturn => exact .cons hown rfl (hturn.shows Ending.events_unseen)
  | turnedAway => exact .cons hown rfl (.quiet (hreply _))
  | resumes hturn => exact .cons nofun rfl (hturn.shows Ending.events_unseen)

end Turn

/-! ## Operations -/

namespace Operation

theorem failing_denies {purpose : Purpose} {f : Fault} (h : (failing purpose f).DeniesConnection) :
    f.kind = .own .notConnected := by
  unfold failing at h
  split at h
  · exact h.elim
  · exact h

theorem compile_not_denies {condition : Value} {e : Failure} (h : Condition.compile condition = .error e) :
    ¬ e.DeniesConnection := by
  rcases Condition.compile_error h with ⟨key, rfl⟩ | ⟨k, view, rfl⟩
  · exact id
  · exact id

theorem query_not_denies {table condition : Value} {raw : RawOptions} {e : Failure}
    (h : query table condition raw = .error e) : ¬ e.DeniesConnection := by
  rcases query_fails h with ⟨cs, -, rfl⟩ | ⟨-, hc⟩ | ⟨-, rfl⟩
  · exact id
  · exact compile_not_denies hc
  · exact id

theorem updateStatement_not_denies {table condition changes : Value} {e : Failure}
    (h : updateStatement table condition changes = .error e) : ¬ e.DeniesConnection := by
  unfold updateStatement at h
  split at h
  · rename_i hc
    cases h
    exact compile_not_denies hc
  · split at h
    · cases h
      exact id
    · split at h
      · cases h
        exact id
      · cases h

/-- An operation denies the connection in the end only if the storage or the source of identifiers does. -/
abbrev Denied (es : List (Event Storage)) (a : Ending) : Prop :=
  ∀ e, a.reply.result = .error e → e.DeniesConnection → ∃ x ∈ es, x.Denies

theorem ends_denied {e : Failure} (he : ¬ e.DeniesConnection) {es : List (Event Storage)} {a : Ending}
    (h : (ends (.error e)).Ends es a) : Denied es a := by
  obtain ⟨-, rfl⟩ := h
  intro e' heq hdenies
  cases heq
  exact absurd hdenies he

/-- A program that answers with what its one call comes back with. -/
theorem call_denied {k : StorageCall} {give : Except Fault Value → Except Failure Value}
    (hgive : ∀ x e, give x = .error e → e.DeniesConnection → ∃ f, x = .error f ∧ f.kind = .own .notConnected)
    {es : List (Event Storage)} {a : Ending}
    (h : (Program.call (B := Storage) k fun x => ends (give x)).Ends es a) : Denied es a := by
  obtain ⟨x, _, rfl, rfl, rfl⟩ := h
  intro e heq hdenies
  obtain ⟨f, rfl, hf⟩ := hgive x e heq hdenies
  exact ⟨.answered k (.error f), by simp, hf⟩

theorem answered_denied (purpose : Purpose) (x : Except Fault Value) (e : Failure)
    (h : answered purpose x = .error e) (hdenies : e.DeniesConnection) :
    ∃ f, x = .error f ∧ f.kind = .own .notConnected := by
  cases x with
  | ok v => cases h
  | error f =>
    cases h
    exact ⟨f, rfl, failing_denies hdenies⟩

theorem insert_denied {handle table : Value} {record : Entries} {es : List (Event Storage)} {a : Ending}
    (h : (insert handle table record).Ends es a) : Denied es a := by
  intro e heq hdenies
  have hinserts := insert_inserts h
  rw [heq] at hinserts
  generalize hresult : Except.error e = result at hinserts
  cases hinserts with
  | unnamed place k =>
    cases hresult
    exact hdenies.elim
  | refused names f =>
    cases hresult
    exact ⟨_, List.mem_cons_of_mem _ List.mem_cons_self, failing_denies hdenies⟩
  | unreadable names n hcompile =>
    cases hresult
    exact absurd hdenies (compile_not_denies hcompile)
  | read names n c r =>
    cases r with
    | error f =>
      cases hresult
      exact ⟨.answered (.queryOne handle (.select table c { limit := some 1 })) (.error f), by simp,
        failing_denies hdenies⟩
    | ok found =>
      dsimp only at hresult
      split at hresult
      · cases hresult
        exact hdenies.elim
      · cases hresult

theorem create_denied (table record : Value) : (create table record).BodyEnds fun _ => Denied := by
  intro handle es a h
  dsimp only at h
  split at h
  · obtain ⟨-, rfl⟩ := h
    rintro e heq hdenies
    cases heq
    exact hdenies.elim
  · split at h
    · obtain ⟨r, fs, rfl, h⟩ := h
      cases r with
      | error f =>
        obtain ⟨-, rfl⟩ := h
        rintro e heq hdenies
        cases heq
        exact ⟨_, List.mem_cons_self, hdenies⟩
      | ok id =>
        intro e heq hdenies
        obtain ⟨x, hx, hdenied⟩ := insert_denied h e heq hdenies
        exact ⟨x, List.mem_cons_of_mem _ hx, hdenied⟩
    · exact insert_denied h

end Operation

/-- A data operation needs the lock, and refuses a client that is not connected. -/
theorem Request.operation_data (path : String) {r : Request} (hr : r.IsData) :
    ∃ body, r.operation path = .guarded ⟨.error .notConnected, r.record?⟩ body := by
  cases r with
  | connect => exact absurd rfl hr.1
  | close => exact absurd rfl hr.2
  | _ => exact ⟨_, rfl⟩

/-- Under the lock, no data operation denies the connection of itself. -/
theorem Request.operation_denied (path : String) {r : Request} (hr : r.IsData) :
    (r.operation path).BodyEnds fun _ => Operation.Denied := by
  cases r with
  | connect => exact absurd rfl hr.1
  | close => exact absurd rfl hr.2
  | createTable table columns =>
    intro handle es a h
    dsimp only at h
    split at h
    · exact Operation.ends_denied id h
    · refine Operation.call_denied (fun x e heq hdenies => ?_) h
      cases x with
      | ok v => cases heq
      | error f =>
        cases heq
        exact ⟨f, rfl, Operation.failing_denies hdenies⟩
  | find table condition options | findOne table condition orderBy =>
    intro handle es a h
    dsimp only at h
    split at h
    · rename_i hq
      exact Operation.ends_denied (Operation.query_not_denies hq) h
    · exact Operation.call_denied (Operation.answered_denied _) h
  | create table record => exact Operation.create_denied table record
  | update table condition changes =>
    intro handle es a h
    dsimp only at h
    split at h
    · rename_i hs
      exact Operation.ends_denied (Operation.updateStatement_not_denies hs) h
    · exact Operation.call_denied (Operation.answered_denied _) h
  | delete table condition =>
    intro handle es a h
    dsimp only at h
    split at h
    · rename_i hc
      exact Operation.ends_denied (Operation.compile_not_denies hc) h
    · split at h
      · exact Operation.ends_denied id h
      · exact Operation.call_denied (Operation.answered_denied _) h

/-- A task that entered on a connected client never saw that it was not. -/
theorem not_sawUnconnected {gs : List (Event Storage)} (hgs : ∀ e ∈ gs, e.seen? = none) :
    ¬ SawUnconnected (.began .connected :: .entered .connected :: gs) := by
  rintro ⟨s, hs, hmem | hmem⟩
  · have hunseen : Event.began s ∉ gs := fun h => nomatch hgs _ h
    simp [hs, hunseen] at hmem
  · have hunseen : Event.entered s ∉ gs := fun h => nomatch hgs _ h
    simp [hs, hunseen] at hmem

/-- An operation that refuses a client which is not connected, and denies the connection in no other case of
itself, answers so exactly if it saw a client that was not connected. Then it does nothing else. -/
theorem Operation.Course.notConnected_iff {data : Option Value} {body : Value → Program Storage Ending}
    {es : List (Event Storage)} {v : Option Value} {at? : Option (Phase Storage)}
    (hcourse : (Operation.guarded ⟨.error .notConnected, data⟩ body).Course es v at?)
    (hdenied : (Operation.guarded ⟨.error .notConnected, data⟩ body).BodyEnds fun _ => Denied)
    (fair : ∀ e ∈ es, ¬ e.Denies) :
    ((∃ reply e, .replied reply ∈ es ∧ reply.result = .error e ∧ e.DeniesConnection) ↔ SawUnconnected es) ∧
    (SawUnconnected es → .replied ⟨.error .notConnected, data⟩ ∈ es ∧
      (∀ reply, .replied reply ∈ es → reply = ⟨.error .notConnected, data⟩) ∧
      (∀ k, .called k ∉ es) ∧ ∀ x, .drew x ∉ es) := by
  cases hcourse with
  | fresh | waiting => simp [SawUnconnected]
  | refused hs => simp [SawUnconnected, Failure.DeniesConnection, hs]
  | @turnedAway _ _ s hs =>
    have hsaw : SawUnconnected [.began .connected, .entered s, .replied ⟨.error .notConnected, data⟩] :=
      ⟨_, hs, .inr (by simp)⟩
    exact ⟨iff_of_true ⟨⟨.error .notConnected, data⟩, .notConnected, by simp, rfl, trivial⟩ hsaw, fun _ => by simp⟩
  | @holding _ _ w gs call hdoes =>
    have hsaw : ¬ SawUnconnected (.began .connected :: .entered .connected :: (gs ++ [.called call.call])) := by
      refine not_sawUnconnected fun e he => ?_
      rcases List.mem_append.1 he with he | he
      · exact (hdoes.inner e he).seen?_eq
      · exact List.mem_singleton.1 he ▸ rfl
    have hreplied (reply : Reply) : .replied reply ∉ gs := fun h => hdoes.inner _ h
    exact ⟨iff_of_false (by simp [hreplied]) hsaw, fun h => absurd h hsaw⟩
  | @served _ _ w gs a hends =>
    have hsaw : ¬ SawUnconnected (.began .connected :: .entered .connected :: (gs ++ a.events)) := by
      refine not_sawUnconnected fun e he => ?_
      rcases List.mem_append.1 he with he | he
      · exact (hends.inner e he).seen?_eq
      · exact (a.events_unseen e he).2
    refine ⟨iff_of_false ?_ hsaw, fun h => absurd h hsaw⟩
    rintro ⟨reply, e, hreply, hresult, hdenies⟩
    have hreplied : .replied reply ∉ gs := fun h => hends.inner _ h
    obtain rfl : reply = a.reply := by simpa [Ending.events, hreplied] using hreply
    -- under the lock, whatever denies the connection comes from outside
    obtain ⟨x, hx, hx'⟩ := hdenied w gs a hends e hresult hdenies
    exact fair x (by simp [hx]) hx'

/-! ## Runs -/

namespace Setup

variable {path : String} {ids : IdSource} {ms : List (Move Value)} {i : Nat} {job : Job Value}

/-- In every run, each operation sees the state that the client has when it begins and when it obtains the
lock. -/
theorem play_sees (path : String) (ids : IdSource) (ms : List (Move Value)) :
    History.SeesFrom .unconnected ((Setup.direct path ids).play ms).history := by
  have rule : Upheld (fun _ _ => True)
      (fun (h : History) c => h.SeesFrom .unconnected ∧ c.state = h.state) (fun _ _ _ => True) := by
    refine ⟨fun {h c c' i op ph under es after} _ _ hh _ hturn => ?_, fun _ _ _ _ _ _ _ _ => trivial⟩
    have hshows := hturn.shows (i := i)
    unfold Client.Shows at hshows
    rw [hh.2] at hshows
    refine ⟨⟨History.seesFrom_append.2 ⟨hh.1, hshows.1⟩, ?_⟩, fun _ _ => trivial⟩
    rw [hshows.2, History.state, History.state, History.stateFrom_append]
  exact ((Setup.direct path ids).play_upholds rule ⟨trivial, rfl⟩ (fun _ _ _ => trivial) ms
    fun _ _ _ => trivial).world.1

/-- In every run, a data operation is answered with a denial of the connection exactly if the client was not
connected when the operation began or when it obtained the lock, provided that the denial does not come from
the storage or the source of identifiers. Then that is all it does, with its record as it was. -/
theorem play_notConnected_iff (hjob : ((Setup.direct path ids).play ms).jobs[i]? = some job)
    (hdata : job.request.IsData)
    (fair : ∀ e, (i, e) ∈ ((Setup.direct path ids).play ms).history → ¬ e.Denies) :
    let r := (Setup.direct path ids).play ms
    ((∃ reply e, (i, .replied reply) ∈ r.history ∧ reply.result = .error e ∧ e.DeniesConnection) ↔
      r.history.Missed i) ∧
    (r.history.Missed i → (i, .replied ⟨.error .notConnected, job.request.record?⟩) ∈ r.history ∧
      (∀ reply, (i, .replied reply) ∈ r.history → reply = ⟨.error .notConnected, job.request.record?⟩) ∧
      (∀ k, (i, .called k) ∉ r.history) ∧ ∀ x, (i, .drew x) ∉ r.history) := by
  intro r
  obtain ⟨v, at?, hcourse, -⟩ := play_course (direct_tells path ids) hjob
  rw [direct_operation] at hcourse
  have hdenied := Request.operation_denied path hdata
  obtain ⟨body, hop⟩ := Request.operation_data path hdata
  rw [hop] at hcourse hdenied
  rw [(play_sees path ids ms).missed_iff]
  simp only [← mem_eventsOf] at fair ⊢
  exact hcourse.notConnected_iff hdenied fair

/-- A creation that waits for the lock behind a closing finds the client closed; its record, which has a number
for a column, is not looked at. -/
theorem play_notConnected_waiting :
    let r := (Setup.direct "a.db" fun n => .ok (.int n)).play
      [.start ⟨.connect, []⟩, .turn 0, .start ⟨.find (.text "t") .null ⟨.null, .null, .null⟩, [{ ticks := 1 }]⟩,
        .start ⟨.close, []⟩, .start ⟨.create (.text "t") (.map [(.int 5, .null)]), []⟩,
        .turn 0, .turn 0, .turn 0, .turn 0, .turn 0, .turn 0]
    (∃ job, r.jobs[3]? = some job ∧ job.request.IsData) ∧
      (∀ e, (3, e) ∈ r.history → ¬ e.Denies) ∧ r.history.Missed 3 ∧
      (3, .replied ⟨.error .notConnected, some (.map [(.int 5, .null)])⟩) ∈ r.history ∧
      (∀ k, (3, .called k) ∉ r.history) ∧ ∀ x, (3, .drew x) ∉ r.history := by
  intro r
  have own : eventsOf 3 r.history = [.began .connected, .entered .closed,
    .replied ⟨.error .notConnected, some (.map [(.int 5, .null)])⟩] := rfl
  have hjob : r.jobs[3]? = some ⟨.create (.text "t") (.map [(.int 5, .null)]), []⟩ := rfl
  have fair : ∀ e, (3, e) ∈ r.history → ¬ e.Denies := by
    intro e he
    rw [← mem_eventsOf, own] at he
    simp only [List.mem_cons, List.not_mem_nil, or_false] at he
    rcases he with rfl | rfl | rfl
    · exact id
    · exact id
    · exact id
  have replied : (3, .replied ⟨.error .notConnected, some (.map [(.int 5, .null)])⟩) ∈ r.history := by
    rw [← mem_eventsOf, own]
    simp
  obtain ⟨refused, does⟩ := play_notConnected_iff hjob ⟨nofun, nofun⟩ fair
  have missed := refused.1 ⟨_, .notConnected, replied, rfl, trivial⟩
  obtain ⟨answered, -, uncalled, undrawn⟩ := does missed
  exact ⟨⟨_, hjob, nofun, nofun⟩, fair, missed, answered, uncalled, undrawn⟩

end Setup

end RecordStore
