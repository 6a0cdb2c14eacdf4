/-
The SQLite driver: each storage call as a program of connection calls. Cursors of data statements
are closed on every path, written statements are committed, and a connection that could not be
prepared because of an engine fault is closed again.
-/
import RecordStore.Client.Storage
import RecordStore.Sqlite.Connection

namespace RecordStore.Sqlite

/-- How the driver opens connections: how long to wait on a locked database, and whether foreign
keys are enforced. -/
structure Options where
  timeout : Value := .float (.ofInt 5)
  foreignKeys : Bool := true
  deriving Repr

/-- The program of one connection call. -/
def request (c : ConnectionCall) : Program Connection (Except Fault c.Answer) := .call c .done

/-- The statement that turns the enforcement of foreign keys on. -/
def foreignKeysOn : String := "PRAGMA foreign_keys = ON;"

/-- Prepares a fresh connection. -/
def prepare (o : Options) (connection : Value) : Program Connection (Except Fault Unit) :=
  (request (.nameColumns connection)).andThen fun _ =>
    if o.foreignKeys then
      (request (.execute connection foreignKeysOn none)).andThen fun _ =>
        request (.commit connection)
    else .done (.ok ())

/-- Opens and prepares a connection. After an engine fault of the preparation the connection is
closed; other faults leave it open. -/
def openConnection (o : Options) (path : Value) : Program Connection (Except Fault Value) :=
  (request (.connect path o.timeout)).andThen fun connection =>
    (prepare o connection).bind fun
      | .ok _ => .log (.opened path) (.done (.ok connection))
      | .error f =>
        if f.isEngine then (request (.close connection)).andThen fun _ => .done (.error f)
        else .done (.error f)

/-- Runs a writing statement and reads the number of affected rows from its cursor, which is closed
whether the reading fails or not. -/
def counting (connection : Value) (s : Statement) : Program Connection (Except Fault Int) :=
  (request (.execute connection s.sql (some s.params))).andThen fun (cursor : Cursor) =>
    (request (.countRows cursor)).ensuring (request .closeCursor)

/-- Runs a writing statement and commits it. The answer is the number of affected rows, zero where
the engine does not know it. -/
def write (connection : Value) (s : Statement) : Program Connection (Except Fault Value) :=
  (counting connection s).andThen fun affected =>
    (request (.commit connection)).andThen fun _ =>
      .log (.executed s.params.length affected) (.done (.ok (.int (max affected 0))))

/-- Runs a query and reads from its cursor, which is closed whether the reading fails or not. -/
def reading (connection : Value) (s : Statement) (fetch : ConnectionCall) :
    Program Connection (Except Fault fetch.Answer) :=
  (request (.execute connection s.sql (some s.params))).andThen fun _ =>
    (request fetch).ensuring (request .closeCursor)

/-- Reads all records that a query finds. -/
def readAll (connection : Value) (s : Statement) : Program Connection (Except Fault Value) :=
  (reading connection s .fetchAll).andThen fun (rows : List Row) =>
    .log (.returned rows.length s.params.length)
      (.done (.ok (.list (rows.map fun row => .map row.toEntries))))

/-- Reads the first record that a query finds; null if there is none. -/
def readOne (connection : Value) (s : Statement) : Program Connection (Except Fault Value) :=
  (reading connection s .fetchOne).andThen fun (row? : Option Row) =>
    .done (.ok (match row? with
      | some row => .map row.toEntries
      | none => .null))

/-- Closes a connection. -/
def closeConnection (connection : Value) : Program Connection (Except Fault Value) :=
  (request (.close connection)).andThen fun _ => .log .released (.done (.ok .null))

/-- The driver. -/
def driver (o : Options) : Driver Connection
  | .open path => openConnection o path
  | .execute connection s => write connection s
  | .queryAll connection s => readAll connection s
  | .queryOne connection s => readOne connection s
  | .close connection => closeConnection connection

end RecordStore.Sqlite
