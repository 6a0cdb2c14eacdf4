/-
Storage as a client sees it: five calls on an engine, through a handle that opening returns. A
driver implements these calls across another boundary.
-/
import RecordStore.Client.Program
import RecordStore.Query.Statement

namespace RecordStore

/-- The calls a client makes on its storage. -/
inductive StorageCall where
  | open (path : Value)
  /-- Runs a writing statement and makes it durable; the answer is the number of affected rows. -/
  | execute (handle : Value) (s : Statement)
  /-- Reads all records a query finds. -/
  | queryAll (handle : Value) (s : Statement)
  /-- Reads the first record a query finds; null if there is none. -/
  | queryOne (handle : Value) (s : Statement)
  | close (handle : Value)
  deriving Repr

/-- The boundary between a client and its storage; every answer is a value. -/
abbrev Storage : Boundary := ⟨StorageCall, fun _ => Value⟩

/-- A storage driver: a program across another boundary for each storage call. -/
abbrev Driver (B : Boundary) := StorageCall → Program B (Except Fault Value)

/-- The driver that passes storage calls on as they are. -/
def Driver.direct : Driver Storage := fun c => .call c .done

end RecordStore
