/-
Using the SQLite driver directly, without a client. The calls go to the connection opened last;
parameters are whatever the given value yields when it is walked over.
-/
import RecordStore.Schedule.Alone
import RecordStore.Sqlite.Driver

namespace RecordStore.Sqlite

/-- The ways to run a statement. -/
inductive Access where
  | write | readAll | readOne
  deriving DecidableEq, Repr

/-- A direct use of the driver. -/
inductive Use where
  | openConnection (path : Value)
  | closeConnection
  | run (access : Access) (sql : String) (params : Value)
  deriving Repr

/-- The driver in direct use. -/
structure Direct where
  world : World Connection := {}
  /-- The connection opened last. -/
  connection : Option Value := none
  uses : Nat := 0

/-- The answer to a direct use, and what happened in it. -/
structure DirectAnswer where
  result : Except Failure Value
  events : List (Event Connection)

/-- The storage call of a use, or why there is none. -/
def Use.call (connection : Option Value) : Use → Except Failure StorageCall
  | .openConnection path => .ok (.open path)
  | .closeConnection =>
    match connection with
    | none => .error (.noHandle "close")
    | some c => .ok (.close c)
  | .run access sql params =>
    match connection, params.elements? with
    | none, _ => .error (.noHandle "execute")
    | some _, none => .error (.notIterable params.kind)
    | some c, some vs => .ok (match access with
      | .write => .execute c ⟨sql, vs⟩
      | .readAll => .queryAll c ⟨sql, vs⟩
      | .readOne => .queryOne c ⟨sql, vs⟩)

namespace Direct

/-- Performs a use of the driver. -/
def use (o : Options) (d : Direct) (u : Use) (script : List (Entry ConnectionReturn)) :
    Direct × DirectAnswer :=
  match u.call d.connection with
  | .error failure => (d, ⟨.error failure, []⟩)
  | .ok call =>
    let (world, result, _) :=
      complete (B := ScriptedConnection) (fun _ => .ok .null) d.uses d.world script (driver o call)
    let connection := match call, result with
      | .open _, .ok c => some c
      | _, _ => d.connection
    ({ world, connection, uses := d.uses + 1 },
      ⟨result.mapError .passed, (world.history.drop d.world.history.length).map Prod.snd⟩)

/-- Performs uses one after the other. -/
def useAll (o : Options) (d : Direct) :
    List (Use × List (Entry ConnectionReturn)) → List DirectAnswer
  | [] => []
  | (u, script) :: rest =>
    let (d, answer) := d.use o u script
    answer :: useAll o d rest

end Direct

end RecordStore.Sqlite
