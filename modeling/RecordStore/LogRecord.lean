/-
Log records. The store says what happened; the text of a record is made from that and, for an
executed statement, from the time it took.
-/
import RecordStore.Value.Text

namespace RecordStore

/-- What a log record reports. -/
inductive LogRecord where
  /-- A client connected to the database at a path. -/
  | connected (path : String)
  /-- A client closed its database. -/
  | closed (path : String)
  /-- The SQLite driver opened a connection. -/
  | opened (path : Value)
  /-- The SQLite driver ran a statement with this many parameters. -/
  | executed (params : Nat) (affected : Int)
  /-- The SQLite driver read this many rows. -/
  | returned (rows params : Nat)
  /-- The SQLite driver closed a connection. -/
  | released
  deriving Repr

/-- The levels records are logged at. -/
inductive LogLevel where
  | debug | info
  deriving DecidableEq, Repr

def LogLevel.name : LogLevel → String
  | .debug => "DEBUG"
  | .info => "INFO"

namespace LogRecord

/-- Clients report what they do as information, the driver its work for debugging. -/
def level : LogRecord → LogLevel
  | .connected _ => .info
  | .closed _ => .info
  | _ => .debug

/-- The logger a record goes through. -/
def logger (r : LogRecord) : String :=
  match r.level with
  | .info => "dbdm.db.client"
  | .debug => "dbdm.db.connection"

/-- The text of a record; `seconds` is the time an executed statement took. -/
def text (seconds : String) : LogRecord → String
  | .connected path => "Connected to database " ++ path
  | .closed path => "Closed database " ++ path
  | .opened path => "Opened database connection to " ++ path.display
  | .executed params affected =>
    "Executed statement in " ++ seconds ++ " seconds (" ++ toString params ++ " params, " ++
      toString affected ++ " rows affected)"
  | .returned rows params =>
    "Query returned " ++ toString rows ++ " rows (" ++ toString params ++ " params)"
  | .released => "Closed database connection"

end LogRecord

end RecordStore
