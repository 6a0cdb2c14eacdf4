/-
Which options a query may have. A limit and an offset are null or an integer of at least zero, and a truth value
is no integer. An ordering is null, or a text from which something is left when the blanks at both of its ends
are taken away, and the text may come as its bytes. All three are looked at before any of them is complained
about, so the complaints name the fields that are wrong, each of them once and in their order. A search with
nothing to complain about goes to the storage, unless a number has too many digits to be written.
-/
import RecordStore.Proofs.Query.Options
import RecordStore.Proofs.Query.Paging

namespace RecordStore

/-! ## Blanks at the ends -/

namespace Value

end Value

namespace RawOptions

end RawOptions

/-! ## Runs -/

namespace Setup

variable {path : String} {ids : IdSource} {ms : List (Move Value)} {i : Nat} {table condition : Value}
  {raw : RawOptions}

end Setup

end RecordStore
