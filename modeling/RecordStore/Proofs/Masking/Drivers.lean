/-
Drivers behind masks. The driver's program for a storage call is, but for what the mask hides, its
program for the call with hidden parameters: no driver looks into the values it binds, and logs of them
how many there are. So operations that look alike to the client look alike through the driver.
-/
import RecordStore.Proofs.Masking.Requests

namespace RecordStore

/-! ## Drivers -/

section Driver

variable {B : Boundary} {α : Type} {d : Driver B} {m : Mask B}

/-- Behind the mask, the driver's program for a call is that for the call with its parameters hidden. -/
def Driver.Hides (d : Driver B) (m : Mask B) : Prop :=
  ∀ k : StorageCall, (d k.masked).masked m id = (d k).masked m id

theorem Program.masked_interpret (hd : d.Hides m) {β : Type} (f : α → β) : ∀ p : Program Storage α,
    (p.interpret d).masked m f = (p.masked storageMask f).interpret fun k => (d k).masked m id
  | .done _ => rfl
  | .call k next => by
    show ((d k).bind fun r => (next r).interpret d).masked m f = ((d k.masked).masked m id).bind
      fun r => ((next (r.map storageMask.reveal)).masked storageMask f).interpret fun k => (d k).masked m id
    rw [masked_bind, hd k]
    refine congrArg (bind _) (funext fun r => ?_)
    have hr : r.map (storageMask.reveal (k := k)) = r := by cases r <;> rfl
    rw [hr]
    exact masked_interpret hd f (next r)
  | .draw next => congrArg Program.draw (funext fun r => masked_interpret hd f (next r))
  | .log r next => congrArg (Program.log r) (masked_interpret hd f next)
  | .connect handle next => congrArg (Program.connect handle) (masked_interpret hd f next)
  | .close next => congrArg Program.close (masked_interpret hd f next)

/-- Through such a driver, operations that look the same look the same. -/
theorem Operation.masked_through (hd : d.Hides m) {op op' : Operation Storage}
    (h : op.masked storageMask = op'.masked storageMask) :
    (op.through d).masked m = (op'.through d).masked m := by
  cases op with
  | free start =>
    cases op' with
    | free start' =>
      refine congrArg Operation.free (funext fun s => ?_)
      rw [Program.masked_interpret hd, Program.masked_interpret hd, congrFun (Operation.free.inj h) s]
    | guarded refusal body => cases h
  | guarded refusal body =>
    cases op' with
    | free start => cases h
    | guarded refusal' body' =>
      obtain ⟨hrefusal, hbody⟩ := Operation.guarded.inj h
      have hthrough (v : Value) : ((body v).interpret d).masked m Ending.masked =
          ((body' v).interpret d).masked m Ending.masked := by
        rw [Program.masked_interpret hd, Program.masked_interpret hd, congrFun hbody v]
      show Operation.guarded refusal.masked _ = Operation.guarded refusal'.masked _
      rw [hrefusal]
      exact congrArg (Operation.guarded refusal'.masked) (funext hthrough)

end Driver

theorem StorageCall.masked_masked (k : StorageCall) : k.masked.masked = k.masked := by
  cases k <;> simp [masked, Statement.masked, hidden_hidden]

theorem Driver.direct_hides : Driver.direct.Hides storageMask := by
  intro k
  show Program.call (B := Storage) k.masked.masked (fun r : Except Fault Value => _) =
    .call k.masked (fun r : Except Fault Value => _)
  rw [k.masked_masked]
  rfl

theorem storageMask_respected : storageMask.Respected (B := ScriptedStorage) where
  opening k := by cases k <;> rfl
  immediate k := by cases k <;> rfl
  answer k n returned := by cases k <;> cases returned <;> rfl

/-! ### The SQLite driver -/

/-- The call with the parameters of its statement hidden. -/
def ConnectionCall.masked : ConnectionCall → ConnectionCall
  | .execute connection sql params => .execute connection sql (params.map hidden)
  | k => k

theorem ConnectionCall.answer_masked (k : ConnectionCall) : k.masked.Answer = k.Answer := by
  cases k <;> rfl

def connectionMask : Mask Connection where
  call := ConnectionCall.masked
  veil {k} a := cast k.answer_masked.symm a
  reveal {k} a := cast k.answer_masked a
  reveal_veil a := by simp

theorem connectionMask_respected : connectionMask.Respected (B := ScriptedConnection) where
  opening k := by cases k <;> rfl
  immediate k := by cases k <;> rfl
  answer k n returned := by
    cases k with
    | countRows cursor =>
      obtain ⟨rowCount⟩ := cursor
      cases rowCount <;> rfl
    | _ => rfl

namespace Sqlite

/-- Statements with as many parameters, run by a program that goes on the same from here. -/
theorem execute_masked {params params' : List Value} (h : params.length = params'.length) {α : Type}
    {next next' : Cursor → Program Connection (Except Fault α)}
    (hnext : ∀ c, (next c).masked connectionMask id = (next' c).masked connectionMask id)
    (connection : Value) (sql : String) :
    ((request (.execute connection sql (some params))).andThen next).masked connectionMask id =
      ((request (.execute connection sql (some params'))).andThen next').masked connectionMask id := by
  show Program.call (B := Connection) (.execute connection sql (some (hidden params)))
      (fun r : Except Fault Cursor => _) =
    .call (.execute connection sql (some (hidden params'))) (fun r : Except Fault Cursor => _)
  rw [hidden_eq h]
  refine congrArg (Program.call (B := Connection) (.execute connection sql (some (hidden params'))))
    (funext fun r => ?_)
  cases r with
  | error f => rfl
  | ok c => exact hnext c

theorem andThen_masked {α β : Type} {p p' : Program Connection (Except Fault α)}
    {next next' : α → Program Connection (Except Fault β)}
    (hp : p.masked connectionMask id = p'.masked connectionMask id)
    (hnext : ∀ a, (next a).masked connectionMask id = (next' a).masked connectionMask id) :
    (p.andThen next).masked connectionMask id = (p'.andThen next').masked connectionMask id := by
  rw [Program.masked_andThen, Program.masked_andThen, hp]
  exact congrArg (Program.andThen _) (funext hnext)

/-- A reading program sees of a statement its text and the number of its parameters. -/
theorem reading_masked (connection : Value) (s : Statement) (fetch : ConnectionCall) :
    (reading connection s.masked fetch).masked connectionMask id =
      (reading connection s fetch).masked connectionMask id :=
  execute_masked s.length_masked (fun _ => rfl) connection s.sql

theorem counting_masked (connection : Value) (s : Statement) :
    (counting connection s.masked).masked connectionMask id = (counting connection s).masked connectionMask id :=
  execute_masked s.length_masked (fun _ => rfl) connection s.sql

theorem driver_hides (o : Options) : (driver o).Hides connectionMask := by
  intro k
  cases k with
  | «open» path => rfl
  | close connection => rfl
  | execute connection s =>
    refine andThen_masked (counting_masked connection s) fun n => ?_
    rw [s.length_masked]
  | queryAll connection s =>
    refine andThen_masked (reading_masked connection s .fetchAll) fun rows => ?_
    rw [s.length_masked]
  | queryOne connection s => exact andThen_masked (reading_masked connection s .fetchOne) fun _ => rfl

end Sqlite

end RecordStore
