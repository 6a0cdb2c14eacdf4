/-
Ordering and paging of a query, and the check that lets only sensible options through. Every
field is checked, and all complaints are reported together.
-/
import RecordStore.Value.Convert
import RecordStore.Value.Equality
import RecordStore.Text.Blank
import RecordStore.Text.Numeral
import RecordStore.Failure

namespace RecordStore

/-- Checked options of a query. -/
structure QueryOptions where
  orderBy : Option String := none
  limit : Option Nat := none
  offset : Option Nat := none
  deriving DecidableEq, Repr

/-- Whether the limit and the offset can be written into a statement. -/
def QueryOptions.writable (o : QueryOptions) : Bool := o.limit.all hasNumeral && o.offset.all hasNumeral

/-- Options as they were asked for; null stands for an option that is not given. -/
structure RawOptions where
  orderBy : Value := .null
  limit : Value := .null
  offset : Value := .null
  deriving Repr

namespace RawOptions

/-- The options among named arguments; other names are ignored. -/
def ofEntries (es : Entries) : RawOptions where
  orderBy := (Value.lookup? (.text "order_by") es).getD .null
  limit := (Value.lookup? (.text "limit") es).getD .null
  offset := (Value.lookup? (.text "offset") es).getD .null

/-- An ordering is a text that is not blank. -/
def asOrder (v : Value) : Except Problem String := do
  let s ← v.asText
  if allBlank s then .error .blankOrder else .ok s

/-- Checks all three options. -/
def check (raw : RawOptions) : Except (List Complaint) QueryOptions :=
  let order := raw.orderBy.optional asOrder
  let limit := raw.limit.optional Value.asCount
  let offset := raw.offset.optional Value.asCount
  match order, limit, offset with
  | .ok o, .ok l, .ok f => .ok ⟨o, l, f⟩
  | _, _, _ =>
    .error (complaints "order_by" order ++ complaints "limit" limit ++ complaints "offset" offset)

end RawOptions

end RecordStore
