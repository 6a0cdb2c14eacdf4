/-
What programs do, whatever their calls come back with. A passive program makes calls and writes log
records and does nothing else; both drivers consist of passive programs. A program that never connects
keeps a client that is not connected in that state, and every operation but connecting is of that sort.
Which calls a program makes, and whether it changes the client, is told by one predicate.
-/
import RecordStore.Client.Operation
import RecordStore.Sqlite.Driver

namespace RecordStore

variable {B C : Boundary} {α β : Type}

namespace Program

/-- The program makes calls and writes log records, and nothing else. -/
def Passive : Program B α → Prop
  | done _ => True
  | call _ next => ∀ r, (next r).Passive
  | draw _ => False
  | log _ next => next.Passive
  | connect _ _ => False
  | close _ => False

/-- No part of the program makes the client a connected one. -/
def NeverConnects : Program B α → Prop
  | done _ => True
  | call _ next => ∀ r, (next r).NeverConnects
  | draw next => ∀ r, (next r).NeverConnects
  | log _ next => next.NeverConnects
  | connect _ _ => False
  | close next => next.NeverConnects

/-- All calls of the program are like this, and it changes the client only if it may. -/
def Makes (P : B.Call → Prop) (changes : Prop) : Program B α → Prop
  | done _ => True
  | call c next => P c ∧ ∀ r, (next r).Makes P changes
  | draw next => ∀ r, (next r).Makes P changes
  | log _ next => next.Makes P changes
  | connect _ next => changes ∧ next.Makes P changes
  | close next => changes ∧ next.Makes P changes

/-- All calls of the program are like this. -/
abbrev Calls (P : B.Call → Prop) (p : Program B α) : Prop := p.Makes P True

theorem Passive.bind : ∀ {p : Program B α} {f : α → Program B β},
    p.Passive → (∀ a, (f a).Passive) → (p.bind f).Passive
  | done a, _, _, hf => hf a
  | call _ next, _, hp, hf => fun r => Passive.bind (p := next r) (hp r) hf
  | log _ next, _, hp, hf => Passive.bind (p := next) hp hf

theorem Passive.neverConnects : ∀ {p : Program B α}, p.Passive → p.NeverConnects
  | done _, _ => trivial
  | call _ next, h => fun r => Passive.neverConnects (p := next r) (h r)
  | log _ next, h => Passive.neverConnects (p := next) h

theorem Passive.andThen {p : Program B (Except Fault α)} {f : α → Program B (Except Fault β)}
    (hp : p.Passive) (hf : ∀ a, (f a).Passive) : (p.andThen f).Passive := by
  refine hp.bind fun r => ?_
  cases r with
  | ok a => exact hf a
  | error e => trivial

theorem Passive.ensuring {p : Program B (Except Fault α)} {after : Program B (Except Fault Unit)}
    (hp : p.Passive) (ha : after.Passive) : (p.ensuring after).Passive :=
  hp.bind fun _ => ha.andThen fun _ => trivial

theorem NeverConnects.bind : ∀ {p : Program B α} {f : α → Program B β},
    p.NeverConnects → (∀ a, (f a).NeverConnects) → (p.bind f).NeverConnects
  | done a, _, _, hf => hf a
  | call _ next, _, hp, hf => fun r => NeverConnects.bind (p := next r) (hp r) hf
  | draw next, _, hp, hf => fun r => NeverConnects.bind (p := next r) (hp r) hf
  | log _ next, _, hp, hf => NeverConnects.bind (p := next) hp hf
  | close next, _, hp, hf => NeverConnects.bind (p := next) hp hf

namespace Makes

variable {P : B.Call → Prop} {changes : Prop}

theorem mono {Q : B.Call → Prop} {changes' : Prop} (hPQ : ∀ k, P k → Q k) (hchanges : changes → changes') :
    ∀ {p : Program B α}, p.Makes P changes → p.Makes Q changes'
  | done _, _ => trivial
  | call _ next, hp => ⟨hPQ _ hp.1, fun r => mono hPQ hchanges (p := next r) (hp.2 r)⟩
  | draw next, hp => fun r => mono hPQ hchanges (p := next r) (hp r)
  | log _ next, hp => mono hPQ hchanges (p := next) hp
  | connect _ next, hp => ⟨hchanges hp.1, mono hPQ hchanges (p := next) hp.2⟩
  | close next, hp => ⟨hchanges hp.1, mono hPQ hchanges (p := next) hp.2⟩

theorem bind {f : α → Program B β} :
    ∀ {p : Program B α}, p.Makes P changes → (∀ a, (f a).Makes P changes) → (p.bind f).Makes P changes
  | done a, _, hf => hf a
  | call _ next, hp, hf => ⟨hp.1, fun r => bind (p := next r) (hp.2 r) hf⟩
  | draw next, hp, hf => fun r => bind (p := next r) (hp r) hf
  | log _ next, hp, hf => bind (p := next) hp hf
  | connect _ next, hp, hf => ⟨hp.1, bind (p := next) hp.2 hf⟩
  | close next, hp, hf => ⟨hp.1, bind (p := next) hp.2 hf⟩

theorem andThen {p : Program B (Except Fault α)} {f : α → Program B (Except Fault β)} (hp : p.Makes P changes)
    (hf : ∀ a, (f a).Makes P changes) : (p.andThen f).Makes P changes := by
  refine hp.bind fun r => ?_
  cases r with
  | ok a => exact hf a
  | error e => trivial

theorem ensuring {p : Program B (Except Fault α)} {after : Program B (Except Fault Unit)} (hp : p.Makes P changes)
    (hafter : after.Makes P changes) : (p.ensuring after).Makes P changes :=
  hp.bind fun _ => hafter.andThen fun _ => trivial

/-- The calls of an interpreted program are those of the programs that its calls are interpreted by. -/
theorem interpret {Q : C.Call → Prop} {via : (c : B.Call) → Program C (Except Fault (B.Answer c))}
    (hvia : ∀ c, P c → (via c).Makes Q changes) :
    ∀ {p : Program B α}, p.Makes P changes → (p.interpret via).Makes Q changes
  | done _, _ => trivial
  | call c next, hp => (hvia c hp.1).bind fun r => interpret hvia (p := next r) (hp.2 r)
  | draw next, hp => fun r => interpret hvia (p := next r) (hp r)
  | log _ next, hp => interpret hvia (p := next) hp
  | connect _ next, hp => ⟨hp.1, interpret hvia (p := next) hp.2⟩
  | close next, hp => ⟨hp.1, interpret hvia (p := next) hp.2⟩

/-- A program that may not change the client never connects. -/
theorem neverConnects : ∀ {p : Program B α}, p.Makes P False → p.NeverConnects
  | done _, _ => trivial
  | call _ next, hp => fun r => neverConnects (p := next r) (hp.2 r)
  | draw next, hp => fun r => neverConnects (p := next r) (hp r)
  | log _ next, hp => neverConnects (p := next) hp
  | connect _ _, hp => hp.1.elim
  | close _, hp => hp.1.elim

end Makes

/-- Interpreting the calls by passive programs brings no connecting in. -/
theorem NeverConnects.interpret {via : (c : B.Call) → Program C (Except Fault (B.Answer c))}
    (hv : ∀ c, (via c).Passive) :
    ∀ {p : Program B α}, p.NeverConnects → (p.interpret via).NeverConnects
  | done _, _ => trivial
  | call c next, h =>
    (hv c).neverConnects.bind fun r => NeverConnects.interpret (p := next r) hv (h r)
  | draw next, h => fun r => NeverConnects.interpret (p := next r) hv (h r)
  | log _ next, h => NeverConnects.interpret (p := next) hv h
  | close next, h => NeverConnects.interpret (p := next) hv h

/-- `p.Leaves q`: after some of the steps of `p`, with whatever answers, `q` is left. -/
inductive Leaves : Program B α → Program B α → Prop where
  | refl (p : Program B α) : Leaves p p
  | call {c : B.Call} {next : Except Fault (B.Answer c) → Program B α} {q : Program B α}
    (r : Except Fault (B.Answer c)) : Leaves (next r) q → Leaves (.call c next) q
  | draw {next : Except Fault Value → Program B α} {q : Program B α} (r : Except Fault Value) :
    Leaves (next r) q → Leaves (.draw next) q
  | log {r : LogRecord} {next q : Program B α} : Leaves next q → Leaves (.log r next) q
  | connect {handle : Value} {next q : Program B α} : Leaves next q → Leaves (.connect handle next) q
  | close {next q : Program B α} : Leaves next q → Leaves (.close next) q

theorem NeverConnects.of_leaves {p q : Program B α} (hp : p.NeverConnects) (h : p.Leaves q) :
    q.NeverConnects := by
  induction h with
  | refl p => exact hp
  | call r _ ih => exact ih (hp r)
  | draw r _ ih => exact ih (hp r)
  | log _ ih => exact ih hp
  | connect _ _ => exact hp.elim
  | close _ ih => exact ih hp

/-- What is left of a program does nothing that the program does not do. -/
theorem Makes.of_leaves {P : B.Call → Prop} {changes : Prop} {p q : Program B α} (hp : p.Makes P changes)
    (h : p.Leaves q) : q.Makes P changes := by
  induction h with
  | refl p => exact hp
  | call r _ ih => exact ih (hp.2 r)
  | draw r _ ih => exact ih (hp r)
  | log _ ih => exact ih hp
  | connect _ ih => exact ih hp.2
  | close _ ih => exact ih hp.2

/-- Interpreting calls by themselves changes nothing. -/
theorem interpret_call : ∀ p : Program B α, (p.interpret fun c => .call c .done) = p
  | done _ => rfl
  | call c next => congrArg (call c) (funext fun r => interpret_call (next r))
  | draw next => congrArg draw (funext fun r => interpret_call (next r))
  | log r next => congrArg (log r) (interpret_call next)
  | connect h next => congrArg (connect h) (interpret_call next)
  | close next => congrArg close (interpret_call next)

end Program

/-! ## Drivers -/

/-- A driver whose programs leave the client alone. -/
def Driver.Passive (d : Driver B) : Prop := ∀ c, (d c).Passive

theorem Driver.direct_passive : Driver.direct.Passive := fun _ _ => trivial

theorem Operation.through_direct : ∀ op : Operation Storage, op.through Driver.direct = op
  | .free start => congrArg Operation.free (funext fun s => (start s).interpret_call)
  | .guarded refusal body =>
    congrArg (Operation.guarded refusal) (funext fun h => (body h).interpret_call)

namespace Sqlite

theorem request_passive (c : ConnectionCall) : (request c).Passive := fun _ => trivial

theorem prepare_passive (o : Options) (connection : Value) : (prepare o connection).Passive := by
  refine (request_passive _).andThen fun _ => ?_
  split
  · exact (request_passive _).andThen fun _ => request_passive _
  · trivial

theorem openConnection_passive (o : Options) (path : Value) : (openConnection o path).Passive := by
  refine (request_passive _).andThen fun connection => (prepare_passive o connection).bind fun r => ?_
  cases r with
  | ok _ => trivial
  | error f =>
    show Program.Passive (if f.isEngine then _ else _)
    split
    · exact (request_passive _).andThen fun _ => trivial
    · trivial

theorem reading_passive (connection : Value) (s : Statement) (fetch : ConnectionCall) :
    (reading connection s fetch).Passive :=
  (request_passive _).andThen fun _ => (request_passive _).ensuring (request_passive _)

theorem counting_passive (connection : Value) (s : Statement) : (counting connection s).Passive :=
  (request_passive _).andThen fun _ => (request_passive _).ensuring (request_passive _)

/-- The SQLite driver leaves the client alone. -/
theorem driver_passive (o : Options) : (driver o).Passive
  | .open path => openConnection_passive o path
  | .execute connection s => (counting_passive connection s).andThen fun _ =>
    (request_passive _).andThen fun _ => trivial
  | .queryAll connection s => (reading_passive connection s .fetchAll).andThen fun _ => trivial
  | .queryOne connection s => (reading_passive connection s .fetchOne).andThen fun _ => trivial
  | .close _ => (request_passive _).andThen fun _ => trivial

end Sqlite

/-! ## Operations -/

/-- A call of a data operation on a handle: it neither opens nor closes. -/
def StorageCall.Uses (handle : Value) : StorageCall → Prop
  | .execute h _ => h = handle
  | .queryAll h _ => h = handle
  | .queryOne h _ => h = handle
  | .open _ => False
  | .close _ => False

/-- The program leaves the state of the client alone, and all its calls use one handle. -/
abbrev Program.Uses (handle : Value) (p : Program Storage α) : Prop := p.Makes (StorageCall.Uses handle) False

namespace Operation

theorem insert_uses (handle table : Value) (record : Entries) :
    (insert handle table record).Uses handle := by
  unfold insert
  dsimp only
  split
  · trivial
  · refine ⟨rfl, fun r => ?_⟩
    cases r with
    | error f => trivial
    | ok n =>
      dsimp only
      split
      · trivial
      · refine ⟨rfl, fun found => ?_⟩
        cases found <;> trivial

/-- The operation needs the lock, and its body never connects. -/
def Guards : Operation B → Prop
  | .free _ => False
  | .guarded _ body => ∀ h, (body h).NeverConnects

theorem Guards.through {d : Driver B} (hd : d.Passive) {op : Operation Storage} (h : op.Guards) :
    (op.through d).Guards := by
  cases op with
  | free start => exact h
  | guarded refusal body => exact fun handle => Program.NeverConnects.interpret (B := Storage) hd (h handle)

/-- The operation needs the lock, uses the handle it finds there and refuses a client that is not
connected. -/
def UsesHandle : Operation Storage → Prop
  | .free _ => False
  | .guarded refusal body => refusal.result = .error .notConnected ∧ ∀ h, (body h).Uses h

theorem UsesHandle.guards {op : Operation Storage} (h : op.UsesHandle) : op.Guards := by
  cases op with
  | free start => exact h
  | guarded refusal body => exact fun handle => (h.2 handle).neverConnects

end Operation

/-- The request asks for data: it neither connects nor closes. -/
def Request.IsData (r : Request) : Prop := r ≠ .connect ∧ r ≠ .close

/-- Every data operation uses the handle it finds and refuses a client that is not connected. -/
theorem Request.operation_usesHandle (path : String) {r : Request} (hr : r.IsData) :
    (r.operation path).UsesHandle := by
  cases r
  case connect => exact absurd rfl hr.1
  case close => exact absurd rfl hr.2
  case create table record =>
    refine ⟨rfl, fun h => ?_⟩
    dsimp only
    split
    · trivial
    · split
      · intro r
        cases r with
        | error f => trivial
        | ok id => exact Operation.insert_uses h table _
      · exact Operation.insert_uses h table _
  case delete table condition =>
    refine ⟨rfl, fun h => ?_⟩
    dsimp only
    split
    · trivial
    · split
      · trivial
      · exact ⟨rfl, fun _ => trivial⟩
  -- the others end at once, or make one call with what their arguments give
  all_goals
    refine ⟨rfl, fun h => ?_⟩
    dsimp only
    split
    · trivial
    · exact ⟨rfl, fun _ => trivial⟩

/-- Every request but connecting is served under the lock, by a body that never connects. -/
theorem Request.operation_guards (path : String) {r : Request} (hr : r ≠ .connect) :
    (r.operation path).Guards := by
  by_cases hc : r = .close
  · subst hc
    intro handle answer
    cases answer <;> trivial
  · exact (Request.operation_usesHandle path ⟨hr, hc⟩).guards

end RecordStore
