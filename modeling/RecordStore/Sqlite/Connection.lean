/-
The boundary between the SQLite driver and a connection to the engine, and its scripted double: a
script says how many rows a statement affects, that their number cannot be read, or which table a
query finds.
-/
import RecordStore.Schedule.World
import RecordStore.Sqlite.Row

namespace RecordStore

/-- A cursor of a statement: what reading the number of affected rows from it gives. The number is
negative where the engine does not know it. -/
structure Cursor where
  rowCount : Except Fault Int
  deriving Repr

/-- The calls on connections and their cursors. The cursor that is closed or fetched from is that of
the latest statement. -/
inductive ConnectionCall where
  | connect (path timeout : Value)
  /-- Lets the connection's rows be read by column name. -/
  | nameColumns (connection : Value)
  /-- Runs a statement; without parameters for a statement that binds none. -/
  | execute (connection : Value) (sql : String) (params : Option (List Value))
  /-- Reads the number of rows that the statement of a cursor affected. -/
  | countRows (cursor : Cursor)
  | closeCursor
  | fetchAll
  | fetchOne
  | commit (connection : Value)
  | close (connection : Value)
  deriving Repr

/-- What a connection call answers: a connection, a cursor, a number of rows, or rows. -/
def ConnectionCall.Answer : ConnectionCall → Type
  | .connect _ _ => Value
  | .execute _ _ _ => Cursor
  | .countRows _ => Int
  | .fetchAll => List Row
  | .fetchOne => Option Row
  | _ => Unit

abbrev Connection : Boundary := ⟨ConnectionCall, ConnectionCall.Answer⟩

/-- What a script can say a connection call returns. -/
inductive ConnectionReturn where
  | affected (n : Int)
  /-- A cursor from which the number of affected rows cannot be read. -/
  | uncounted (f : Fault)
  | table (t : Table)
  deriving Repr

namespace ConnectionReturn

/-- The cursor of a statement, which affects one row if the script does not say. -/
def cursor : Option ConnectionReturn → Cursor
  | some (.affected n) => ⟨.ok n⟩
  | some (.uncounted f) => ⟨.error f⟩
  | _ => ⟨.ok 1⟩

/-- The rows that are found; none if the script does not say. -/
def rows : Option ConnectionReturn → List Row
  | some (.table t) => t.rows
  | _ => []

end ConnectionReturn

/-- The scripted connection. Connections are labelled `hN` in the order they are asked for. Naming
columns and reading the number of affected rows are no requests to the engine. -/
abbrev ScriptedConnection : Scripted where
  toBoundary := Connection
  Return := ConnectionReturn
  opening
    | .connect _ _ => true
    | _ => false
  immediate
    | .nameColumns _ => true
    | .countRows _ => true
    | _ => false
  answer c openings returned :=
    match c with
    | .connect _ _ => .ok (Value.text ("h" ++ toString openings))
    | .execute _ _ _ => .ok (ConnectionReturn.cursor returned)
    | .countRows cursor => cursor.rowCount.mapError Fault.outside
    | .fetchAll => .ok (ConnectionReturn.rows returned)
    | .fetchOne => .ok (ConnectionReturn.rows returned).head?
    | .nameColumns _ => .ok ()
    | .closeCursor => .ok ()
    | .commit _ => .ok ()
    | .close _ => .ok ()

end RecordStore
