/-
Rows of a query result. A row is read by column name: a name gives the cell of the first column
that has this name, whatever the case of its ASCII letters.
-/
import RecordStore.Text.AsciiCase
import RecordStore.Value.Equality

namespace RecordStore

/-- A row: each cell with the name of its column. -/
abbrev Row := List (String × Value)

namespace Row

/-- The cell a column name gives. -/
def cell? (row : Row) (name : String) : Option Value :=
  (row.find? fun c => sameIgnoringCase name c.1).map Prod.snd

/-- The record of a row: each column name once, at its first place, with the cell it gives. -/
def toEntries (row : Row) : Entries :=
  (row.map Prod.fst).eraseDups.map fun name => (.text name, (row.cell? name).getD .null)

end Row

/-- A query result: the names of its columns and the cells of its rows. -/
structure Table where
  columns : List String := []
  cells : List (List Value) := []
  deriving Repr

/-- The rows of a table. -/
def Table.rows (t : Table) : List Row := t.cells.map t.columns.zip

end RecordStore
