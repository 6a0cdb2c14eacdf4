/-
Identifiers for records that have none: UUIDs of version 4, made from 122 random bits.
-/
import RecordStore.Text.Quoted

namespace RecordStore

/-- The version 4 UUID of the given random bits, from the most significant one on. -/
def uuid4 (bits : Nat) : String :=
  let group (width low : Nat) : String := String.ofList (hexDigits width (bits / Nat.pow 2 low))
  let variant := 8 + bits / Nat.pow 2 60 % 4
  group 8 90 ++ "-" ++ group 4 74 ++ "-4" ++ group 3 62 ++ "-" ++
    String.ofList (hexDigits 1 variant) ++ group 3 48 ++ "-" ++ group 12 0

end RecordStore
