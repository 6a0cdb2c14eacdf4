/-
The course of an operation: what its task adds to the history from its beginning to its reply. At
every point of a run the events of each task are the beginning of such a course, and the task stands
in the pool where its course has got to, until it has replied. What is true of all ends of a program is
in this way true of every run in which a task runs that program among others.
-/
import RecordStore.Proofs.Client.Endings
import RecordStore.Proofs.Schedule.Upheld

namespace RecordStore

variable {B : Boundary} {α : Type}

/-- What stands in front of an element that is not in `tail`. -/
theorem split_before {α : Type} {l tail xs ys : List α} {e : α} (h : l ++ tail = xs ++ e :: ys)
    (he : e ∉ tail) : ∃ zs, l = xs ++ e :: zs ∧ ys = zs ++ tail := by
  rcases List.append_eq_append_iff.1 h with ⟨c, -, hc⟩ | ⟨c, rfl, hc⟩
  · exact absurd (hc ▸ List.mem_append_right c List.mem_cons_self) he
  · cases c with
    | nil =>
      obtain rfl : e :: ys = tail := hc
      exact absurd List.mem_cons_self he
    | cons x c =>
      obtain ⟨rfl, rfl⟩ := List.cons.inj hc
      exact ⟨c, rfl, rfl⟩

/-- What is not behind the beginning of a list is in it. -/
theorem begins_of_notMem {α : Type} {l rest xs ys : List α} (h : l ++ rest = xs ++ ys)
    (hxs : ∀ x ∈ xs, x ∉ rest) : xs <+: l := by
  rcases List.append_eq_append_iff.1 h with ⟨c, rfl, rfl⟩ | ⟨c, rfl, -⟩
  · cases c with
    | nil => exact ⟨[], by simp⟩
    | cons x c => exact absurd List.mem_cons_self (hxs x (by simp))
  · exact List.prefix_append xs c

/-- A beginning that holds something which is not in `xs` holds what follows on `xs`. -/
theorem mem_of_not_before {α : Type} {l rest ys : List α} (xs : List α) {e f : α} (h : l ++ rest = xs ++ e :: ys)
    (hf : f ∈ l) (hxs : f ∉ xs) : e ∈ l := by
  rcases List.append_eq_append_iff.1 h with ⟨c, rfl, -⟩ | ⟨c, rfl, hc⟩
  · exact absurd (List.mem_append_left c hf) hxs
  · cases c with
    | nil => exact absurd (by rwa [List.append_nil] at hf) hxs
    | cons x c =>
      obtain ⟨rfl, -⟩ := List.cons.inj hc
      simp

/-! ## The events of one task -/

/-- What a task did. -/
def eventsOf (i : Nat) (h : List (Nat × Event B)) : List (Event B) :=
  h.filterMap fun e => if e.1 = i then some e.2 else none

section EventsOf

variable {i j : Nat} {h : List (Nat × Event B)} {e : Event B}

theorem eventsOf_append (h k : List (Nat × Event B)) :
    eventsOf i (h ++ k) = eventsOf i h ++ eventsOf i k := List.filterMap_append

theorem eventsOf_cons_own (e : Event B) (h : List (Nat × Event B)) :
    eventsOf i ((i, e) :: h) = e :: eventsOf i h := by
  simp [eventsOf]

theorem eventsOf_cons_other (hij : j ≠ i) (e : Event B) (h : List (Nat × Event B)) :
    eventsOf i ((j, e) :: h) = eventsOf i h := by
  simp [eventsOf, hij]

theorem eventsOf_own (es : List (Event B)) : eventsOf i (es.map fun e => (i, e)) = es := by
  simp [eventsOf]

theorem eventsOf_other (hij : j ≠ i) (es : List (Event B)) :
    eventsOf j (es.map fun e => (i, e)) = [] := by
  simp [eventsOf, Ne.symm hij]

theorem mem_eventsOf : e ∈ eventsOf i h ↔ (i, e) ∈ h := by
  simp only [eventsOf, List.mem_filterMap, Option.ite_none_right_eq_some, Option.some.injEq]
  constructor
  · rintro ⟨x, hx, rfl, rfl⟩
    exact hx
  · exact fun he => ⟨_, he, rfl, rfl⟩

/-- Where a task did something, its other events lie before and after. -/
theorem eventsOf_split {es fs : List (Event B)} (hes : eventsOf i h = es ++ e :: fs) :
    ∃ a b, h = a ++ (i, e) :: b ∧ eventsOf i a = es ∧ eventsOf i b = fs := by
  induction h generalizing es with
  | nil => cases es <;> cases hes
  | cons x h ih =>
    obtain ⟨j, f⟩ := x
    by_cases hj : j = i
    · subst hj
      rw [eventsOf_cons_own] at hes
      cases es with
      | nil =>
        obtain ⟨rfl, rfl⟩ := List.cons.inj hes
        exact ⟨[], h, rfl, rfl, rfl⟩
      | cons f' es =>
        obtain ⟨rfl, htail⟩ := List.cons.inj hes
        obtain ⟨a, b, rfl, rfl, rfl⟩ := ih htail
        exact ⟨_ :: a, b, rfl, eventsOf_cons_own .., rfl⟩
    · obtain ⟨a, b, rfl, ha, rfl⟩ := ih ((eventsOf_cons_other hj f h).symm.trans hes)
      exact ⟨_ :: a, b, rfl, (eventsOf_cons_other hj f a).trans ha, rfl⟩

end EventsOf

/-! ## Programs -/

namespace Program

variable {p q s : Program B α} {es fs : List (Event B)} {c c' : Client}

/-- Through these events the program comes to `q`: whatever end `q` comes to, it comes to as well. -/
def Does (p : Program B α) (es : List (Event B)) (q : Program B α) : Prop :=
  ∀ fs a, q.Ends fs a → p.Ends (es ++ fs) a

theorem Does.trans (hp : p.Does es q) (hq : q.Does fs s) : p.Does (es ++ fs) s := by
  intro gs a h
  rw [List.append_assoc]
  exact hp _ a (hq gs a h)

theorem Does.ends {a : α} (h : p.Does es (.done a)) : p.Ends es a := by
  simpa using h [] a ⟨rfl, rfl⟩

/-- A program that has ended is in no call. -/
theorem Does.not_done {a : α} {k : B.Call} {next : Except Fault (B.Answer k) → Program B α} :
    ¬ (done a).Does es (.call k next) := by
  intro h
  obtain ⟨fs, b, hcall⟩ := (Program.call k next).exists_ends
  obtain ⟨hnil, -⟩ := h fs b hcall
  obtain ⟨r, gs, rfl, -⟩ := hcall
  simp at hnil

/-- A program that begins with a call and is left in one is left in the first, or in one behind its answer. -/
theorem Does.of_call {k k' : B.Call} {next : Except Fault (B.Answer k) → Program B α}
    {next' : Except Fault (B.Answer k') → Program B α} (h : (call k next).Does es (.call k' next')) :
    es = [] ∧ k' = k ∨
      ∃ r fs, es = .called k :: .answered k r :: fs ∧ (next r).Does fs (.call k' next') := by
  obtain ⟨gs, b, hcall⟩ := (call k' next').exists_ends
  obtain ⟨r, fs, heq, -⟩ := h gs b hcall
  obtain ⟨r', gs', rfl, -⟩ := hcall
  rcases es with _ | ⟨e, _ | ⟨e', es⟩⟩
  · obtain ⟨hk, -⟩ := List.cons.inj heq
    exact .inl ⟨rfl, Event.called.inj hk⟩
  · cases (List.cons.inj (List.cons.inj heq).2).1
  · obtain ⟨rfl, htail⟩ := List.cons.inj heq
    obtain ⟨rfl, -⟩ := List.cons.inj htail
    refine .inr ⟨r, es, rfl, fun gs b hcall => ?_⟩
    obtain ⟨r', fs', heq', hends⟩ := h gs b hcall
    obtain ⟨-, htail'⟩ := List.cons.inj heq'
    obtain ⟨hr, rfl⟩ := List.cons.inj htail'
    cases hr
    exact hends

/-- A program that begins with a call and is left in one has made the first one. -/
theorem Does.called {k k' : B.Call} {next : Except Fault (B.Answer k) → Program B α}
    {next' : Except Fault (B.Answer k') → Program B α} (h : (Program.call k next).Does es (.call k' next')) :
    .called k ∈ es ++ [.called k'] := by
  rcases h.of_call with ⟨rfl, rfl⟩ | ⟨r, fs, rfl, -⟩
  · exact List.mem_cons_self
  · exact List.mem_cons_self

theorem Does.of_draw {k' : B.Call} {next : Except Fault Value → Program B α}
    {next' : Except Fault (B.Answer k') → Program B α} (h : (draw next).Does es (.call k' next')) :
    ∃ r fs, es = .drew r :: fs ∧ (next r).Does fs (.call k' next') := by
  obtain ⟨gs, b, hcall⟩ := (call k' next').exists_ends
  obtain ⟨r, fs, heq, -⟩ := h gs b hcall
  obtain ⟨r', gs', rfl, -⟩ := hcall
  cases es with
  | nil => cases (List.cons.inj heq).1
  | cons e es =>
    obtain ⟨rfl, -⟩ := List.cons.inj heq
    refine ⟨r, es, rfl, fun gs b hcall => ?_⟩
    obtain ⟨r', fs', heq', hends⟩ := h gs b hcall
    obtain ⟨hr, rfl⟩ := List.cons.inj heq'
    cases hr
    exact hends

/-- A program that is left in a call goes on when the call comes back. -/
theorem Does.resumes {call : Pending B α} (hp : p.Does es (.call call.call call.next))
    (hq : call.rest.Does fs q) : p.Does (es ++ .called call.call :: call.event :: fs) q :=
  hp.trans (s := q) fun gs a h => ⟨call.result, fs ++ gs, rfl, hq gs a h⟩

theorem Runs.does (h : p.Runs c es c' q) : p.Does es q := by
  intro fs a hq
  induction h with
  | here c p => exact hq
  | call r _ ih => exact ⟨r, _, rfl, ih hq⟩
  | draw r _ ih => exact ⟨r, _, rfl, ih hq⟩
  | log _ ih => exact ⟨_, rfl, ih hq⟩
  | connect _ ih => exact ⟨_, rfl, ih hq⟩
  | close _ ih => exact ⟨_, rfl, ih hq⟩

/-- In one turn a program comes to its end, or to a call that it is left in. -/
theorem Turn.does {last : α → List (Event B)} {wait : Pending B α → Phase B}
    {after : Option (Phase B)} (h : p.Turn last wait c es c' after) :
    (∃ fs a, p.Does fs (.done a) ∧ es = fs ++ last a ∧ after = none) ∨
      ∃ fs call, p.Does fs (.call call.call call.next) ∧ es = fs ++ [.called call.call] ∧
        after = some (wait call) := by
  cases h with
  | ends hruns => exact .inl ⟨_, _, hruns.does, rfl, rfl⟩
  | waits call hruns => exact .inr ⟨_, call, hruns.does, rfl, rfl⟩

/-- The program has gone through these events, to this end or to a call that it is left in. -/
def Reaches (p : Program B α) (es : List (Event B)) : Option α → Prop
  | some a => p.Ends es a
  | none => ∃ fs k next, p.Does fs (.call k next) ∧ es = fs ++ [.called k]

theorem Reaches.of_done {a? : Option α} {b : α} (h : (done b).Reaches es a?) : es = [] ∧ a? = some b := by
  cases a? with
  | some a =>
    obtain ⟨rfl, rfl⟩ := h
    exact ⟨rfl, rfl⟩
  | none =>
    obtain ⟨fs, k, next, hdoes, -⟩ := h
    exact absurd hdoes Does.not_done

theorem Reaches.of_call {a? : Option α} {k : B.Call} {next : Except Fault (B.Answer k) → Program B α}
    (h : (call k next).Reaches es a?) :
    es = [.called k] ∧ a? = none ∨
      ∃ r fs, es = .called k :: .answered k r :: fs ∧ (next r).Reaches fs a? := by
  cases a? with
  | some a => exact .inr h
  | none =>
    obtain ⟨fs, k', next', hdoes, rfl⟩ := h
    rcases hdoes.of_call with ⟨rfl, rfl⟩ | ⟨r, gs, rfl, hnext⟩
    · exact .inl ⟨rfl, rfl⟩
    · exact .inr ⟨r, _, rfl, gs, k', next', hnext, rfl⟩

theorem Reaches.of_draw {a? : Option α} {next : Except Fault Value → Program B α}
    (h : (draw next).Reaches es a?) :
    ∃ r fs, es = .drew r :: fs ∧ (next r).Reaches fs a? := by
  cases a? with
  | some a => exact h
  | none =>
    obtain ⟨fs, k', next', hdoes, rfl⟩ := h
    obtain ⟨r, gs, rfl, hnext⟩ := hdoes.of_draw
    exact ⟨r, _, rfl, gs, k', next', hnext, rfl⟩

end Program

/-- The event happens inside of an operation: it is neither its beginning, nor its entering, nor its
reply. -/
def Event.Inner : Event B → Prop
  | .began _ => False
  | .entered _ => False
  | .replied _ => False
  | _ => True

/-- A program goes through inner events only. -/
theorem Program.Ends.inner {p : Program B α} {es : List (Event B)} {a : α} (h : p.Ends es a) :
    ∀ e ∈ es, e.Inner := by
  induction p generalizing es with
  | done b =>
    obtain ⟨rfl, -⟩ := h
    exact List.forall_mem_nil _
  | call k next ih =>
    obtain ⟨r, fs, rfl, h⟩ := h
    exact List.forall_mem_cons.2 ⟨trivial, List.forall_mem_cons.2 ⟨trivial, ih r h⟩⟩
  | draw next ih =>
    obtain ⟨r, fs, rfl, h⟩ := h
    exact List.forall_mem_cons.2 ⟨trivial, ih r h⟩
  | log _ next ih | connect _ next ih | close next ih =>
    obtain ⟨fs, rfl, h⟩ := h
    exact List.forall_mem_cons.2 ⟨trivial, ih h⟩

/-- What happens inside of an operation that entered and replied is what its body did. -/
theorem split_inner {s s' : Lifecycle} {gs xs ys : List (Event B)} {a : Reply} {e : Event B}
    (h : xs ++ e :: ys = .began s :: .entered s' :: (gs ++ [.replied a])) (he : e.Inner) :
    ∃ before after, xs = .began s :: .entered s' :: before ∧ gs = before ++ e :: after ∧
      ys = after ++ [.replied a] := by
  rcases xs with _ | ⟨x, _ | ⟨y, xs⟩⟩
  · rw [(List.cons.inj h).1] at he
    exact he.elim
  · rw [(List.cons.inj (List.cons.inj h).2).1] at he
    exact he.elim
  · obtain ⟨rfl, htail⟩ := List.cons.inj h
    obtain ⟨rfl, hrest⟩ := List.cons.inj htail
    obtain ⟨after, hgs, hys⟩ := split_before hrest.symm fun hmem => by
      rw [List.mem_singleton.1 hmem] at he
      exact he
    exact ⟨xs, after, rfl, hgs, hys⟩

theorem Program.Does.inner {p q : Program B α} {es : List (Event B)} (h : p.Does es q) :
    ∀ e ∈ es, e.Inner := by
  obtain ⟨fs, a, hq⟩ := q.exists_ends
  exact fun e he => (h fs a hq).inner e (List.mem_append_left _ he)

/-! ## Clients -/

/-- A client that is connected has a handle. -/
def Client.Live (c : Client) : Prop := c.state = .connected → ∃ v, c.handle = some v

theorem Client.Live.not_connected {c : Client} (hc : c.Live)
    (hnot : ∀ v, c ≠ ⟨.connected, some v⟩) : c.state ≠ .connected := by
  intro hs
  obtain ⟨v, hv⟩ := hc hs
  exact hnot v (by rw [← hs, ← hv])

theorem Program.Runs.live {c c' : Client} {p q : Program B α} {es : List (Event B)}
    (h : p.Runs c es c' q) (hc : c.Live) : c'.Live := by
  induction h with
  | here c p => exact hc
  | call r _ ih => exact ih hc
  | draw r _ ih => exact ih hc
  | log _ ih => exact ih hc
  | connect _ ih => exact ih fun _ => ⟨_, rfl⟩
  | close _ ih => exact ih nofun

theorem Program.Turn.live {c c' : Client} {p : Program B α} {last : α → List (Event B)}
    {wait : Pending B α → Phase B} {es : List (Event B)} {after : Option (Phase B)}
    (h : p.Turn last wait c es c' after) (hc : c.Live) : c'.Live := by
  cases h with
  | ends hruns | waits call hruns => exact hruns.live hc

/-- Turns leave a client that is connected with a handle. -/
theorem Phase.Turn.live {c c' : Client} {ph : Phase B} {under : Bool} {es : List (Event B)}
    {after : Option (Phase B)} (h : ph.Turn c under es c' after) (hc : c.Live) : c'.Live := by
  induction h with
  | passes | refused | parks | turnedAway => exact hc
  | atOnce _ _ ih => exact ih
  | begins hturn | roams hturn | enters _ hturn | resumes hturn => exact hturn.live hc

/-! ## Operations -/

/-- How far an operation has got: its events, the handle it found under the lock, and where its task
stands, unless it has ended. -/
inductive Operation.Course : Operation B → List (Event B) → Option Value → Option (Phase B) → Prop where
  | fresh (op : Operation B) : Course op [] none (some (.start op))
  | roaming {start : Lifecycle → Program B Reply} {s : Lifecycle} {es : List (Event B)}
    {call : Pending B Reply} : (start s).Does es (.call call.call call.next) →
      Course (.free start) (.began s :: (es ++ [.called call.call])) none (some (.free call))
  | ended {start : Lifecycle → Program B Reply} {s : Lifecycle} {es : List (Event B)} {a : Reply} :
    (start s).Ends es a → Course (.free start) (.began s :: (es ++ [.replied a])) none none
  | refused {refusal : Reply} {body : Value → Program B Ending} {s : Lifecycle} : s ≠ .connected →
    Course (.guarded refusal body) [.began s, .replied refusal] none none
  | waiting {refusal : Reply} {body : Value → Program B Ending} :
    Course (.guarded refusal body) [.began .connected] none (some (.claiming ⟨refusal, body⟩))
  | turnedAway {refusal : Reply} {body : Value → Program B Ending} {s : Lifecycle} : s ≠ .connected →
    Course (.guarded refusal body) [.began .connected, .entered s, .replied refusal] none none
  | holding {refusal : Reply} {body : Value → Program B Ending} {v : Value} {es : List (Event B)}
    {call : Pending B Ending} : (body v).Does es (.call call.call call.next) →
      Course (.guarded refusal body) (.began .connected :: .entered .connected :: (es ++ [.called call.call]))
        (some v) (some (.holding call))
  | served {refusal : Reply} {body : Value → Program B Ending} {v : Value} {es : List (Event B)}
    {a : Ending} : (body v).Ends es a →
      Course (.guarded refusal body) (.began .connected :: .entered .connected :: (es ++ a.events))
        (some v) none

/-- All ends of what the operation does under the lock are like this. -/
def Operation.BodyEnds (Q : Value → List (Event B) → Ending → Prop) : Operation B → Prop
  | .free _ => True
  | .guarded _ body => ∀ v es a, (body v).Ends es a → Q v es a

namespace Operation.Course

variable {op : Operation B} {es fs : List (Event B)} {v : Option Value} {at? after : Option (Phase B)}
  {ph : Phase B} {c c' : Client} {under : Bool}

/-- An operation that waits for the lock takes its turn. -/
theorem turn_claiming {g : Guarded B} (hlive : c.Live)
    (hturn : (Phase.claiming g).Turn c under fs c' after) :
    ∃ v, (Operation.guarded g.refusal g.body).Course (.began .connected :: fs) v after ∧
      (∀ w ∈ v, c = ⟨.connected, some w⟩ ∧ ∃ rest, fs = .entered .connected :: rest) := by
  cases hturn with
  | passes => exact ⟨none, .waiting, nofun⟩
  | turnedAway hnot => exact ⟨none, .turnedAway (hlive.not_connected hnot), nofun⟩
  | enters hc hturn =>
    subst hc
    refine ⟨some _, ?_, fun w hw => ⟨Option.some.inj hw ▸ rfl, _, rfl⟩⟩
    rcases hturn.does with ⟨gs, a, hdoes, rfl, rfl⟩ | ⟨gs, call, hdoes, rfl, rfl⟩
    · exact .served hdoes.ends
    · exact .holding hdoes

/-- Each turn of its task goes on with the course of an operation. A handle that it finds in this turn
is the one the client has when the turn begins. -/
theorem turn (hcourse : op.Course es v (some ph)) (hlive : c.Live) (hturn : ph.Turn c under fs c' after) :
    ∃ v', op.Course (es ++ fs) v' after ∧ ∀ w ∈ v', v = some w ∨ c = ⟨.connected, some w⟩ ∧
      ∃ before rest, fs = before ++ .entered .connected :: rest ∧
        (before = [] ∨ before = [.began .connected]) := by
  cases hturn with
  | passes =>
    rw [List.append_nil]
    exact ⟨v, hcourse, fun w hw => .inl hw⟩
  | begins hturn =>
    cases hcourse
    refine ⟨none, ?_, nofun⟩
    rcases hturn.does with ⟨gs, a, hdoes, rfl, rfl⟩ | ⟨gs, call, hdoes, rfl, rfl⟩
    · exact .ended hdoes.ends
    · exact .roaming hdoes
  | roams hturn =>
    cases hcourse with
    | roaming hcall =>
      refine ⟨none, ?_, nofun⟩
      rcases hturn.does with ⟨gs, a, hdoes, rfl, rfl⟩ | ⟨gs, call, hdoes, rfl, rfl⟩
      · simpa using Course.ended (hcall.resumes hdoes).ends
      · simpa using Course.roaming (hcall.resumes hdoes)
  | refused hs =>
    cases hcourse
    exact ⟨none, .refused hs, nofun⟩
  | parks hs =>
    cases hcourse
    rw [hs]
    exact ⟨none, .waiting, nofun⟩
  | atOnce hs hturn =>
    cases hcourse
    rw [hs]
    obtain ⟨v, hcourse, hv⟩ := turn_claiming hlive hturn
    refine ⟨v, hcourse, fun w hw => .inr ?_⟩
    obtain ⟨hc, rest, rfl⟩ := hv w hw
    exact ⟨hc, [.began .connected], rest, rfl, .inr rfl⟩
  | enters hc hturn =>
    cases hcourse
    obtain ⟨v, hcourse, hv⟩ := turn_claiming hlive (.enters hc hturn)
    refine ⟨v, hcourse, fun w hw => .inr ?_⟩
    obtain ⟨hc, rest, heq⟩ := hv w hw
    exact ⟨hc, [], rest, heq, .inl rfl⟩
  | turnedAway hnot =>
    cases hcourse
    exact ⟨none, .turnedAway (hlive.not_connected hnot), nofun⟩
  | resumes hturn =>
    cases hcourse with
    | holding hcall =>
      refine ⟨_, ?_, fun w hw => .inl hw⟩
      rcases hturn.does with ⟨gs, a, hdoes, rfl, rfl⟩ | ⟨gs, call, hdoes, rfl, rfl⟩
      · simpa using Course.served (hcall.resumes hdoes).ends
      · simpa using Course.holding (hcall.resumes hdoes)

/-- An operation that has not ended has not replied. -/
theorem unreplied (hcourse : op.Course es v (some ph)) (a : Reply) : .replied a ∉ es := by
  cases hcourse with
  | fresh | waiting => simp
  | roaming hdoes | holding hdoes =>
    intro hmem
    simp only [List.mem_cons, List.mem_append, reduceCtorEq, List.not_mem_nil, or_false, false_or] at hmem
    exact hdoes.inner _ hmem

/-- An operation that has ended has replied in the end, and only there. -/
theorem replies (hcourse : op.Course es v none) :
    ∃ fs a, es = fs ++ [.replied a] ∧ ∀ b, .replied b ∉ fs := by
  cases hcourse with
  | @ended start s es a hends =>
    refine ⟨.began s :: es, a, rfl, fun b hb => ?_⟩
    rcases List.mem_cons.1 hb with hb | hb
    · cases hb
    · exact hends.inner _ hb
  | refused => exact ⟨[_], _, rfl, by simp⟩
  | turnedAway => exact ⟨[_, _], _, rfl, by simp⟩
  | @served refusal body w es a hends =>
    refine ⟨.began .connected :: .entered .connected :: (es ++ a.afterwards.map .logged), a.reply,
      by simp [Ending.events], fun b hb => ?_⟩
    simp only [List.mem_cons, List.mem_append, List.mem_map, reduceCtorEq, and_false, exists_false,
      or_false, false_or] at hb
    exact hends.inner _ hb

/-- An operation may always come to its end. -/
theorem completes (hcourse : op.Course es v at?) : ∃ rest, op.Course (es ++ rest) v none := by
  cases hcourse with
  | fresh =>
    cases op with
    | free start =>
      obtain ⟨es, a, h⟩ := (start .connected).exists_ends
      exact ⟨_, .ended h⟩
    | guarded refusal body => exact ⟨_, .refused (s := .closed) nofun⟩
  | @roaming start s es call hdoes =>
    obtain ⟨fs, a, h⟩ := call.rest.exists_ends
    refine ⟨call.event :: fs ++ [.replied a], ?_⟩
    simpa [Pending.event] using Course.ended (hdoes _ a ⟨call.result, fs, rfl, h⟩)
  | waiting => exact ⟨_, .turnedAway (s := .closed) nofun⟩
  | @holding refusal body w es call hdoes =>
    obtain ⟨fs, a, h⟩ := call.rest.exists_ends
    refine ⟨call.event :: fs ++ a.events, ?_⟩
    simpa [Pending.event] using Course.served (hdoes _ a ⟨call.result, fs, rfl, h⟩)
  | ended h => exact ⟨[], by rw [List.append_nil]; exact .ended h⟩
  | refused h => exact ⟨[], .refused h⟩
  | turnedAway h => exact ⟨[], .turnedAway h⟩
  | served h => exact ⟨[], by rw [List.append_nil]; exact .served h⟩

/-- No task stands right behind an answer. -/
theorem not_answered {k : B.Call} {r : Except Fault (B.Answer k)}
    (hcourse : op.Course (es ++ [.answered k r]) v (some ph)) : False := by
  generalize hall : es ++ [.answered k r] = all at hcourse
  have hlast : all.getLast? = some (.answered k r) := by rw [← hall, List.getLast?_concat]
  cases hcourse with
  | fresh => simp at hlast
  | waiting => simp at hlast
  | roaming => simp [List.getLast?_cons] at hlast
  | holding => simp [List.getLast?_cons] at hlast

/-- An operation enters once, right behind its beginning. -/
theorem entered_once {s : Lifecycle} (hcourse : op.Course (es ++ .entered s :: fs) v at?) :
    es = [.began .connected] := by
  obtain ⟨rest, hwhole⟩ := hcourse.completes
  generalize hall : es ++ .entered s :: fs ++ rest = all at hwhole
  have hall : es ++ .entered s :: (fs ++ rest) = all := by simpa using hall
  have hinner {gs : List (Event B)} {tail : List (Event B)} (hgs : ∀ e ∈ gs, e.Inner)
      (htail : .entered s ∉ tail) (hmem : .entered s ∈ gs ++ tail) : False := by
    rcases List.mem_append.1 hmem with hmem | hmem
    · exact hgs _ hmem
    · exact htail hmem
  cases hwhole with
  | refused =>
    rcases es with _ | ⟨e, _ | ⟨e', es⟩⟩ <;> simp at hall
  | turnedAway =>
    rcases es with _ | ⟨e, _ | ⟨e', _ | ⟨e'', es⟩⟩⟩ <;> simp at hall
    rw [hall.1]
  | @ended start s' gs a hends =>
    rcases es with _ | ⟨e, es⟩
    · simp at hall
    · have htail : .entered s ∈ gs ++ [.replied a] := (List.cons.inj hall).2 ▸ by simp
      exact (hinner hends.inner (by simp) htail).elim
  | @served refusal body w gs a hends =>
    rcases es with _ | ⟨e, _ | ⟨e', es⟩⟩
    · simp at hall
    · rw [(List.cons.inj hall).1]
    · have htail : .entered s ∈ gs ++ a.events := (List.cons.inj (List.cons.inj hall).2).2 ▸ by simp
      exact (hinner hends.inner (by simp [Ending.events]) htail).elim

/-- An operation that has found no handle has not entered on a connected client. -/
theorem not_entered (hcourse : op.Course es none at?) : .entered .connected ∉ es := by
  cases hcourse with
  | fresh | waiting | refused => simp
  | turnedAway hs => simpa using Ne.symm hs
  | roaming hdoes =>
    intro hmem
    simp only [List.mem_cons, List.mem_append, reduceCtorEq, List.not_mem_nil, or_false, false_or] at hmem
    exact hdoes.inner _ hmem
  | ended hends =>
    intro hmem
    simp only [List.mem_cons, List.mem_append, reduceCtorEq, List.not_mem_nil, or_false, false_or] at hmem
    exact hends.inner _ hmem

/-- A guarded operation that entered on a connected client runs its body on the handle it found: the body
has come to its end, or to a call that it is left in. -/
theorem entered {refusal : Reply} {body : Value → Program B Ending}
    (hcourse : (Operation.guarded refusal body).Course es v at?) (hmem : .entered .connected ∈ es) :
    ∃ w, v = some w ∧
      ((∃ gs a, (body w).Ends gs a ∧ es = .began .connected :: .entered .connected :: (gs ++ a.events)) ∨
        ∃ gs, ∃ call : Pending B Ending, (body w).Does gs (.call call.call call.next) ∧
          es = .began .connected :: .entered .connected :: (gs ++ [.called call.call])) := by
  cases hcourse with
  | fresh | waiting | refused => simp at hmem
  | turnedAway hs =>
    simp only [List.mem_cons, reduceCtorEq, Event.entered.injEq, List.not_mem_nil, or_false, false_or] at hmem
    exact absurd hmem.symm hs
  | holding hdoes => exact ⟨_, rfl, .inr ⟨_, _, hdoes, rfl⟩⟩
  | served hends => exact ⟨_, rfl, .inl ⟨_, _, hends, rfl⟩⟩

/-- A guarded operation that has found a handle has got somewhere in its body. -/
theorem reaches {refusal : Reply} {body : Value → Program B Ending} {w : Value}
    (hcourse : (Operation.guarded refusal body).Course es (some w) at?) :
    ∃ gs a?, (body w).Reaches gs a? ∧
      es = .began .connected :: .entered .connected :: (gs ++ a?.elim [] Ending.events) := by
  cases hcourse with
  | holding hdoes => exact ⟨_, none, ⟨_, _, _, hdoes, rfl⟩, by simp⟩
  | served hends => exact ⟨_, some _, hends, rfl⟩

/-- An operation whose body ends at once has ended when it has entered on a connected client. -/
theorem entered_done {refusal : Reply} {body : Value → Program B Ending} {a : Ending}
    (hcourse : (Operation.guarded refusal body).Course es v at?) (hmem : .entered .connected ∈ es)
    (hbody : ∀ w, body w = .done a) : es = .began .connected :: .entered .connected :: a.events := by
  obtain ⟨w, -, h⟩ := hcourse.entered hmem
  rw [hbody w] at h
  rcases h with ⟨gs, a', ⟨rfl, rfl⟩, rfl⟩ | ⟨gs, call, hdoes, -⟩
  · rfl
  · exact absurd hdoes Program.Does.not_done

/-- An operation whose body begins with a call has made it when it has entered on a connected client. -/
theorem entered_call {refusal : Reply} {body : Value → Program B Ending} (k : Value → B.Call)
    (next : (w : Value) → Except Fault (B.Answer (k w)) → Program B Ending)
    (hcourse : (Operation.guarded refusal body).Course es v at?) (hmem : .entered .connected ∈ es)
    (hbody : ∀ w, body w = .call (k w) (next w)) : ∃ w, v = some w ∧ .called (k w) ∈ es := by
  obtain ⟨w, hw, h⟩ := hcourse.entered hmem
  rw [hbody w] at h
  refine ⟨w, hw, ?_⟩
  rcases h with ⟨gs, a, ⟨r, fs, rfl, -⟩, rfl⟩ | ⟨gs, call, hdoes, rfl⟩
  · simp
  · exact List.mem_cons_of_mem _ (List.mem_cons_of_mem _ hdoes.called)

/-- A guarded operation that has done something has found a handle, and its body comes to an end that
begins so. -/
theorem body {refusal : Reply} {body : Value → Program B Ending} {e : Event B}
    (hcourse : (Operation.guarded refusal body).Course es v at?) (hmem : e ∈ es) (he : e.Inner) :
    ∃ w gs a rest, v = some w ∧ (body w).Ends gs a ∧
      es ++ rest = .began .connected :: .entered .connected :: (gs ++ a.events) ∧
      (at? = none → rest = []) := by
  have hnot {l : List (Event B)} (hl : ∀ e ∈ l, ¬ e.Inner) (hmem : e ∈ l) : False := hl e hmem he
  cases hcourse with
  | fresh => cases hmem
  | waiting => exact (hnot (by simp [Event.Inner]) hmem).elim
  | refused => exact (hnot (by simp [Event.Inner]) hmem).elim
  | turnedAway => exact (hnot (by simp [Event.Inner]) hmem).elim
  | @holding _ _ w gs call hdoes =>
    obtain ⟨fs, a, h⟩ := call.rest.exists_ends
    refine ⟨w, _, a, call.event :: fs ++ a.events, rfl, hdoes _ a ⟨call.result, fs, rfl, h⟩, ?_, nofun⟩
    simp [Pending.event]
  | @served _ _ w gs a hends => exact ⟨w, gs, a, [], rfl, hends, List.append_nil _, fun _ => rfl⟩

/-- What a guarded operation does, logging apart, its body does on the handle it found. -/
theorem happens {refusal : Reply} {body : Value → Program B Ending} {e : Event B}
    (hcourse : (Operation.guarded refusal body).Course es v at?) (hmem : e ∈ es) (he : e.Inner)
    (hlog : ∀ r, e ≠ .logged r) :
    ∃ w gs a, v = some w ∧ (body w).Ends gs a ∧ e ∈ gs := by
  obtain ⟨w, gs, a, rest, hv, hends, heq, -⟩ := hcourse.body hmem he
  have hall : e ∈ .began .connected :: .entered .connected :: (gs ++ a.events) :=
    heq ▸ List.mem_append_left _ hmem
  refine ⟨w, gs, a, hv, hends, ?_⟩
  simp only [Ending.events, List.mem_cons, List.mem_append, List.mem_map, List.not_mem_nil, or_false] at hall
  rcases hall with rfl | rfl | hgs | ⟨r, -, rfl⟩ | rfl
  · exact he.elim
  · exact he.elim
  · exact hgs
  · exact absurd rfl (hlog r)
  · exact he.elim

/-- A guarded operation that has ended replied with its refusal, having done nothing, or with what its
body came to. -/
theorem replied_cases {refusal : Reply} {body : Value → Program B Ending} {reply : Reply}
    (hcourse : (Operation.guarded refusal body).Course es v none) (hreply : .replied reply ∈ es) :
    (reply = refusal ∧ ∀ e ∈ es, ¬ e.Inner) ∨
      ∃ w gs a, v = some w ∧ (body w).Ends gs a ∧ reply = a.reply ∧
        es = .began .connected :: .entered .connected :: (gs ++ a.events) := by
  cases hcourse with
  | refused => exact .inl ⟨by simpa using hreply, by simp [Event.Inner]⟩
  | turnedAway => exact .inl ⟨by simpa using hreply, by simp [Event.Inner]⟩
  | @served _ _ w gs a hends =>
    refine .inr ⟨w, gs, a, rfl, hends, ?_, rfl⟩
    have hgs : .replied reply ∉ gs := fun hmem => hends.inner _ hmem
    simpa [Ending.events, hgs] using hreply

end Operation.Course

/-- Where a task does something after the same events of its own is one place. -/
theorem eq_of_eventsOf {i : Nat} {a a' b b' : List (Nat × Event B)} {e e' : Event B}
    (h : a ++ (i, e) :: b = a' ++ (i, e') :: b') (hown : eventsOf i a = eventsOf i a') :
    a = a' ∧ e = e' ∧ b = b' := by
  -- a longer beginning would hold the event itself
  have hlonger {a c : List (Nat × Event B)} {e : Event B} :
      eventsOf i a ≠ eventsOf i (a ++ (i, e) :: c) := by
    rw [eventsOf_append, eventsOf_cons_own]
    simp
  rcases List.append_eq_append_iff.1 h with ⟨c, rfl, hc⟩ | ⟨c, rfl, hc⟩
  · cases c with
    | nil =>
      obtain ⟨he, rfl⟩ := List.cons.inj hc
      exact ⟨(List.append_nil _).symm, (Prod.mk.inj he).2, rfl⟩
    | cons x c =>
      obtain ⟨rfl, -⟩ := List.cons.inj hc
      exact absurd hown hlonger
  · cases c with
    | nil =>
      obtain ⟨he, rfl⟩ := List.cons.inj hc
      exact ⟨List.append_nil _, (Prod.mk.inj he).2.symm, rfl⟩
    | cons x c =>
      obtain ⟨rfl, -⟩ := List.cons.inj hc
      exact absurd hown.symm hlonger

end RecordStore
