/-
The operations of a client. Connecting runs freely; every other operation needs a connected
client and runs under the client's lock, with the handle it finds there. What an operation does
after it has given the lock back is part of what its body ends with.
-/
import RecordStore.Client.Storage

namespace RecordStore

/-- The life of a client. -/
inductive Lifecycle where
  | unconnected | connected | closed
  deriving DecidableEq, Repr

/-- What an operation answers. `data` is the record passed to a creation as it is afterwards. -/
structure Reply where
  result : Except Failure Value
  data : Option Value := none

/-- How a guarded operation ends: its reply, and what it logs once the lock is given back. -/
structure Ending where
  reply : Reply
  afterwards : List LogRecord := []

/-- An operation across a boundary. -/
inductive Operation (B : Boundary) where
  /-- Runs without the lock, by the state the client has at the start. -/
  | free (start : Lifecycle → Program B Reply)
  /-- Runs under the lock with the handle found there, or answers `refusal` if the client is not
  connected at the start or when the lock is obtained. -/
  | guarded (refusal : Reply) (body : Value → Program B Ending)

/-- An operation with its storage calls made through a driver. -/
def Operation.through {B : Boundary} (d : Driver B) : Operation Storage → Operation B
  | .free start => .free fun s => (start s).interpret d
  | .guarded refusal body => .guarded refusal fun h => (body h).interpret d

/-- The requests a client serves. Arguments are values of any type, as callers pass them. -/
inductive Request where
  | connect
  | close
  | createTable (table columns : Value)
  | find (table condition : Value) (options : RawOptions)
  | findOne (table condition orderBy : Value)
  | create (table data : Value)
  | update (table condition data : Value)
  | delete (table condition : Value)
  deriving Repr

namespace Operation

/-- Ends with a reply that leaves no data behind. -/
def ends (result : Except Failure Value) : Program Storage Ending := .done ⟨⟨result, none⟩, []⟩

/-- What a fault of a storage call is reported as: engine faults are wrapped, others passed on. -/
def failing (purpose : Purpose) (f : Fault) : Failure :=
  if f.isEngine then .storage purpose f else .passed f

/-- What a fault of opening is reported as: engine and system faults are wrapped, others passed
on. -/
def notOpened (f : Fault) : Failure :=
  if f.isEngine || f.isSystem then .cannotOpen f else .passed f

/-- The result of a storage call that an operation answers with. -/
def answered (purpose : Purpose) : Except Fault Value → Except Failure Value
  | .ok v => .ok v
  | .error f => .error (failing purpose f)

/-- Opens the database at a path, once. -/
def connect (path : String) : Operation Storage :=
  .free fun
    | .connected => .done ⟨.ok .null, none⟩
    | .closed => .done ⟨.error .closedForGood, none⟩
    | .unconnected => .call (.open (.text path)) fun
      | .ok handle => .connect handle (.log (.connected path) (.done ⟨.ok .null, none⟩))
      | .error f => .done ⟨.error (notOpened f), none⟩

/-- Closes the client and then its handle. A client that is not connected has nothing to close. -/
def close (path : String) : Operation Storage :=
  .guarded ⟨.ok .null, none⟩ fun handle =>
    .close (.call (.close handle) fun
      | .ok _ => .done ⟨⟨.ok .null, none⟩, [.closed path]⟩
      | .error f => .done ⟨⟨.error (.passed f), none⟩, []⟩)

/-- A data operation: it fails on a client that is not connected. -/
def data (body : Value → Program Storage Ending) : Operation Storage :=
  .guarded ⟨.error .notConnected, none⟩ body

/-- Defines a table; the answer is an empty list. -/
def createTable (table columns : Value) : Operation Storage :=
  data fun handle =>
    match columns.entries? with
    | none => ends (.error (.notMapping columns.kind .items))
    | some es => .call (.execute handle (.createTable table es)) fun r =>
      ends ((answered .createTable r).map fun _ => .list [])

/-- The query of a search: options are checked before the condition is compiled, and both before
the numbers among the options are written. -/
def query (table condition : Value) (raw : RawOptions) : Except Failure Statement :=
  match raw.check with
  | .error cs => .error (.invalidOptions cs)
  | .ok options =>
    match Condition.compile condition with
    | .error e => .error e
    | .ok c => if options.writable then .ok (.select table c options) else .error .tooManyDigits

/-- Finds all records that a condition selects. -/
def find (table condition : Value) (raw : RawOptions) : Operation Storage :=
  data fun handle =>
    match query table condition raw with
    | .error e => ends (.error e)
    | .ok s => .call (.queryAll handle s) fun r => ends (answered .findMany r)

/-- Finds the first record that a condition selects. -/
def findOne (table condition orderBy : Value) : Operation Storage :=
  data fun handle =>
    match query table condition ⟨orderBy, .int 1, .null⟩ with
    | .error e => ends (.error e)
    | .ok s => .call (.queryOne handle s) fun r => ends (answered .findOne r)

/-- The key under which a record holds its identifier. -/
def idKey : Value := .text "id"

/-- The identifier of a record; null if it has none. -/
def identifier (record : Entries) : Value := (Value.lookup? idKey record).getD .null

/-- The column names of a record, which have to be texts. -/
def columnNames (record : Entries) : Except Failure (List String) :=
  textsToJoin 0 (record.map Prod.fst)

/-- Inserts a record that has its identifier and reads it back. -/
def insert (handle table : Value) (record : Entries) : Program Storage Ending :=
  let ends (result : Except Failure Value) : Program Storage Ending :=
    .done ⟨⟨result, some (.map record)⟩, []⟩
  match columnNames record with
  | .error e => ends (.error e)
  | .ok names =>
    .call (.execute handle (.insert table names (record.map Prod.snd))) fun
      | .error f => ends (.error (failing .create f))
      | .ok _ =>
        match Condition.compile (.map [(idKey, identifier record)]) with
        | .error e => ends (.error e)
        | .ok c =>
          .call (.queryOne handle (.select table c { limit := some 1 })) fun
            | .error f => ends (.error (failing .findOne f))
            | .ok found =>
              ends (if found.isNull then .error .notInserted else .ok (identifier record))

/-- Creates a record. One without an identifier, or with a null one, gets a drawn identifier,
which is written into it. -/
def create (table record : Value) : Operation Storage :=
  .guarded ⟨.error .notConnected, some record⟩ fun handle =>
    match record.entries? with
    | none => .done ⟨⟨.error (.notMapping record.kind .get), some record⟩, []⟩
    | some es =>
      if (identifier es).isNull then
        .draw fun
          | .error f => .done ⟨⟨.error (.passed f), some record⟩, []⟩
          | .ok id => insert handle table (Value.put idKey id es)
      else insert handle table es

/-- The statement of an update. The condition is compiled first, then the data are walked over for
their columns, and only then asked for their values. -/
def updateStatement (table condition changes : Value) : Except Failure Statement :=
  match Condition.compile condition with
  | .error e => .error e
  | .ok c =>
    match changes.elements? with
    | none => .error (.notIterable changes.kind)
    | some columns =>
      match changes.entries? with
      | none => .error (.notMapping changes.kind .values)
      | some es => .ok ⟨Statement.updateText table columns c, es.map Prod.snd ++ c.params⟩

/-- Changes the records that a condition selects; the answer is their number. -/
def update (table condition changes : Value) : Operation Storage :=
  data fun handle =>
    match updateStatement table condition changes with
    | .error e => ends (.error e)
    | .ok s => .call (.execute handle s) fun r => ends (answered .update r)

/-- Deletes the records that a condition selects, which must not be an empty one. -/
def delete (table condition : Value) : Operation Storage :=
  data fun handle =>
    match Condition.compile condition with
    | .error e => ends (.error e)
    | .ok c =>
      if c.isEmpty then ends (.error .missingCondition)
      else .call (.execute handle (.delete table c)) fun r => ends (answered .delete r)

end Operation

/-- The operation that serves a request of a client for the database at `path`. -/
def Request.operation (path : String) : Request → Operation Storage
  | .connect => .connect path
  | .close => .close path
  | .createTable table columns => .createTable table columns
  | .find table condition options => .find table condition options
  | .findOne table condition orderBy => .findOne table condition orderBy
  | .create table record => .create table record
  | .update table condition changes => .update table condition changes
  | .delete table condition => .delete table condition

end RecordStore
