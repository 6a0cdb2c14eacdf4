/-
The statements sent to a storage engine. Tables, columns, types and orderings are written into
the text as they are; values are bound to placeholders.
-/
import RecordStore.Condition.Clause
import RecordStore.Query.Options

namespace RecordStore

/-- The text of a statement and the values bound to its placeholders. -/
structure Statement where
  sql : String
  params : List Value := []
  deriving Repr

namespace Statement

/-- The part of a query that limits it to a page. An offset without a limit stands behind the
limit `-1`, which means none. The numbers have to be ones that can be written. -/
def paging : Option Nat → Option Nat → String
  | none, none => ""
  | some n, none => " LIMIT " ++ toString n
  | none, some m => " LIMIT -1 OFFSET " ++ toString m
  | some n, some m => " LIMIT " ++ toString n ++ " OFFSET " ++ toString m

/-- The part of a query that orders it. -/
def ordering : Option String → String
  | none => ""
  | some s => " ORDER BY " ++ s

/-- A clause behind one blank; nothing for an empty clause. -/
def filter (c : Clause) : String := if c.isEmpty then "" else " " ++ c.sql

/-- The query for the records of a table that a clause selects. Its options have to be writable. -/
def select (table : Value) (c : Clause) (o : QueryOptions) : Statement where
  sql := "SELECT * FROM " ++ table.display ++ filter c ++ ordering o.orderBy ++
    paging o.limit o.offset
  params := c.params

/-- The definition of a table from its columns and their types. -/
def createTable (table : Value) (columns : Entries) : Statement where
  sql := "CREATE TABLE IF NOT EXISTS " ++ table.display ++ " (" ++
    joinWith ", " (columns.map fun e => e.1.display ++ " " ++ e.2.display) ++ ")"

/-- The insertion of one record, given the names of its columns. -/
def insert (table : Value) (names : List String) (values : List Value) : Statement where
  sql := "INSERT INTO " ++ table.display ++ " (" ++ joinWith ", " names ++ ") VALUES (" ++
    placeholders values.length ++ ")"
  params := values

/-- The text of an update: assignments to the columns, then the clause. Blanks at the end of the
whole text are dropped. -/
def updateText (table : Value) (columns : List Value) (c : Clause) : String :=
  trimmedEnd ("UPDATE " ++ table.display ++ " SET " ++
    joinWith ", " (columns.map fun column => column.display ++ " = ?") ++ " " ++ c.sql)

/-- The deletion of the records that a clause selects. -/
def delete (table : Value) (c : Clause) : Statement where
  sql := "DELETE FROM " ++ table.display ++ " " ++ c.sql
  params := c.params

end Statement

end RecordStore
