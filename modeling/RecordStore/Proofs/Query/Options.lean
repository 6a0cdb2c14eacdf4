/-
What the options of a query have to be. A limit or an offset is null or an integer of at least zero, of any
size, and an ordering is null or a text that is not blank, which may come as its bytes. Accepted options say no
more and no less than the values they were checked from.
-/
import RecordStore.Query.Options

namespace RecordStore

namespace Value

/-- The value that gives a limit or an offset, or none. -/
def ofCount : Option Nat → Value
  | none => .null
  | some n => .int n

/-- The value gives this ordering, or none. -/
inductive Orders : Value → Option String → Prop where
  | unordered : Orders .null none
  | text {s : String} (visible : allBlank s = false) : Orders (.text s) (some s)
  | encoded {v : Value} {bs : List UInt8} {s : String} (given : v.bytes? = some bs)
    (decoded : decodeUtf8? bs = some s) (visible : allBlank s = false) : Orders v (some s)

theorem encodedText_eq_ok_iff {bs : List UInt8} {s : String} : encodedText bs = .ok s ↔ decodeUtf8? bs = some s := by
  unfold encodedText
  cases decodeUtf8? bs <;> simp

/-- The text of a value is the value itself, or what its bytes encode. -/
theorem asText_eq_ok_iff {v : Value} {s : String} :
    v.asText = .ok s ↔ v = .text s ∨ ∃ bs, v.bytes? = some bs ∧ decodeUtf8? bs = some s := by
  cases v with
  | text t => simp [asText, bytes?]
  | bytes bs => simp [asText, bytes?, encodedText_eq_ok_iff]
  | buffer bs => simp [asText, bytes?, encodedText_eq_ok_iff]
  | _ => simp [asText, bytes?]

theorem asCount_eq_ok_iff {v : Value} {n : Nat} : v.asCount = .ok n ↔ v = .int n := by
  cases v with
  | int m =>
    unfold asCount
    by_cases hm : m < 0
    · simp [hm]
      omega
    · simp [hm]
      omega
  | _ => simp [asCount]

theorem optional_eq_ok_iff {α : Type} {convert : Value → Except Problem α} {v : Value} {o : Option α} :
    v.optional convert = .ok o ↔
      v = .null ∧ o = none ∨ v ≠ .null ∧ ∃ a, convert v = .ok a ∧ o = some a := by
  have hmap : (convert v).map some = .ok o ↔ ∃ a, convert v = .ok a ∧ o = some a := by
    cases convert v <;> simp [Except.map, eq_comm]
  cases v with
  | null => simp [optional, eq_comm]
  | _ => simpa [optional] using hmap

theorem optional_asCount_iff {v : Value} {o : Option Nat} : v.optional asCount = .ok o ↔ v = ofCount o := by
  rw [optional_eq_ok_iff]
  constructor
  · rintro (⟨rfl, rfl⟩ | ⟨-, n, hn, rfl⟩)
    · rfl
    · exact asCount_eq_ok_iff.1 hn
  · rintro rfl
    cases o with
    | none => exact .inl ⟨rfl, rfl⟩
    | some n => exact .inr ⟨nofun, n, asCount_eq_ok_iff.2 rfl, rfl⟩

end Value

namespace RawOptions

theorem asOrder_eq_ok_iff {v : Value} {s : String} : asOrder v = .ok s ↔ v.asText = .ok s ∧ allBlank s = false := by
  unfold asOrder
  cases v.asText with
  | error p => simp [bind, Except.bind]
  | ok t =>
    simp only [bind, Except.bind, Except.ok.injEq]
    cases ht : allBlank t with
    | true =>
      rw [if_pos rfl]
      constructor
      · intro h
        cases h
      · rintro ⟨rfl, hs⟩
        rw [ht] at hs
        cases hs
    | false =>
      rw [if_neg Bool.false_ne_true, Except.ok.injEq]
      constructor
      · rintro rfl
        exact ⟨rfl, ht⟩
      · exact And.left

theorem optional_asOrder_iff {v : Value} {o : Option String} : v.optional asOrder = .ok o ↔ v.Orders o := by
  rw [Value.optional_eq_ok_iff]
  constructor
  · rintro (⟨rfl, rfl⟩ | ⟨hv, s, hs, rfl⟩)
    · exact .unordered
    · obtain ⟨htext, hvisible⟩ := asOrder_eq_ok_iff.1 hs
      obtain rfl | ⟨bs, hgiven, hdecode⟩ := Value.asText_eq_ok_iff.1 htext
      · exact .text hvisible
      · exact .encoded hgiven hdecode hvisible
  · intro h
    cases h with
    | unordered => exact .inl ⟨rfl, rfl⟩
    | text hvisible => exact .inr ⟨nofun, _, asOrder_eq_ok_iff.2 ⟨rfl, hvisible⟩, rfl⟩
    | encoded hgiven hdecode hvisible =>
      have hv : v ≠ .null := by
        rintro rfl
        cases hgiven
      exact .inr ⟨hv, _, asOrder_eq_ok_iff.2 ⟨Value.asText_eq_ok_iff.2 (.inr ⟨_, hgiven, hdecode⟩), hvisible⟩, rfl⟩

/-- Options are accepted exactly if each of them gives what it becomes. -/
theorem check_eq_ok_iff {raw : RawOptions} {o : QueryOptions} :
    raw.check = .ok o ↔
      raw.orderBy.Orders o.orderBy ∧ raw.limit = .ofCount o.limit ∧ raw.offset = .ofCount o.offset := by
  rw [← optional_asOrder_iff, ← Value.optional_asCount_iff, ← Value.optional_asCount_iff]
  unfold check
  dsimp only
  constructor
  · intro h
    split at h
    · rename_i horder hlimit hoffset
      cases h
      exact ⟨horder, hlimit, hoffset⟩
    · cases h
  · rintro ⟨horder, hlimit, hoffset⟩
    rw [horder, hlimit, hoffset]

/-- The options of a search for one record can be written. -/
theorem writable_one {orderBy : Value} {o : QueryOptions} (h : check ⟨orderBy, .int 1, .null⟩ = .ok o) :
    o.writable = true := by
  obtain ⟨-, hlimit, hoffset⟩ := check_eq_ok_iff.1 h
  obtain ⟨orderBy, limit, offset⟩ := o
  cases offset with
  | some m => cases hoffset
  | none =>
    cases limit with
    | none => cases hlimit
    | some n =>
      obtain rfl : 1 = n := Int.ofNat.inj (Value.int.inj hlimit)
      rfl

end RawOptions

end RecordStore
