/-
What becomes of a condition. It asks for an operator that does not exist, and the first such operator is
reported; or it is no mapping although it counts as true; or it has terms; or it has none at all, which is so
for everything that counts as false and for mappings of empty mappings alone.
-/
import RecordStore.Proofs.Condition.Clause

namespace RecordStore

/-- The key of an operator that does not exist. -/
def Operator.unknown (key : Value) : Bool := (Operator.ofKey? key).isNone

/-- The operators that a value in a condition asks for. -/
def Value.operatorKeys : Value → List Value
  | .map ops => ops.map Prod.fst
  | _ => []

/-- The condition has no term: it counts as false, or all its values are empty mappings. -/
def Value.Vacuous (condition : Value) : Prop :=
  condition.truthy = false ∨ ∃ es, condition = .map es ∧ ∀ e ∈ es, e.2 = .map []

namespace Condition

/-- The first operator of a condition that does not exist. -/
def firstUnknown? (es : Entries) : Option Value :=
  (es.flatMap fun e => e.2.operatorKeys).find? Operator.unknown

theorem comparisons_eq (column : Value) (ops : Entries) :
    (∃ key, (ops.map Prod.fst).find? Operator.unknown = some key ∧
        comparisons column ops = .error (.unknownOperator key)) ∨
      (ops.map Prod.fst).find? Operator.unknown = none ∧
        ∃ ts, comparisons column ops = .ok ts ∧ (ts = [] ↔ ops = []) := by
  induction ops with
  | nil => exact .inr ⟨rfl, [], rfl, by simp⟩
  | cons o ops ih =>
    obtain ⟨key, operand⟩ := o
    cases hkey : Operator.ofKey? key with
    | none =>
      left
      exact ⟨key, by simp [Operator.unknown, hkey], by simp [comparisons, hkey]⟩
    | some op =>
      have hfind : (((key, operand) :: ops).map Prod.fst).find? Operator.unknown =
          (ops.map Prod.fst).find? Operator.unknown := by
        simp [Operator.unknown, hkey]
      rw [hfind]
      rcases ih with ⟨key', hfirst, heq⟩ | ⟨hnone, ts, heq, -⟩
      · exact .inl ⟨key', hfirst, by simp [comparisons, hkey, heq, Except.map]⟩
      · exact .inr ⟨hnone, .compare column op operand :: ts, by simp [comparisons, hkey, heq, Except.map], by simp⟩

/-- One entry of a condition asks for an operator that does not exist, or it has terms; only an empty mapping
has none. -/
theorem entryTerms_eq (column v : Value) :
    (∃ key, v.operatorKeys.find? Operator.unknown = some key ∧
        entryTerms column v = .error (.unknownOperator key)) ∨
      v.operatorKeys.find? Operator.unknown = none ∧
        ∃ ts, entryTerms column v = .ok ts ∧ (ts = [] ↔ v = .map []) := by
  cases v with
  | map ops =>
    rcases comparisons_eq column ops with h | ⟨hnone, ts, hts, hnil⟩
    · exact .inl h
    · exact .inr ⟨hnone, ts, hts, by simpa using hnil⟩
  | _ => exact .inr ⟨rfl, _, rfl, by simp⟩

/-- A condition is refused for its first unknown operator, or it has terms; it has none if all its values are
empty mappings. -/
theorem terms_eq (es : Entries) :
    (∃ key, firstUnknown? es = some key ∧ terms es = .error (.unknownOperator key)) ∨
      firstUnknown? es = none ∧ ∃ ts, terms es = .ok ts ∧ (ts = [] ↔ ∀ e ∈ es, e.2 = .map []) := by
  induction es with
  | nil => exact .inr ⟨rfl, [], rfl, by simp⟩
  | cons e es ih =>
    obtain ⟨column, v⟩ := e
    have hfind : firstUnknown? ((column, v) :: es) =
        (v.operatorKeys.find? Operator.unknown).or (firstUnknown? es) := by
      simp [firstUnknown?, List.find?_append]
    rcases entryTerms_eq column v with ⟨key, hfirst, heq⟩ | ⟨hnone, ts, hts, hnil⟩
    · left
      exact ⟨key, by simp [hfind, hfirst], by simp [terms, heq]⟩
    · rw [hfind, hnone, Option.none_or]
      rcases ih with ⟨key, hfirst, heq⟩ | ⟨hnone', us, hus, hnil'⟩
      · exact .inl ⟨key, hfirst, by simp [terms, hts, heq, Except.map]⟩
      · refine .inr ⟨hnone', ts ++ us, by simp [terms, hts, hus, Except.map], ?_⟩
        rw [List.append_eq_nil_iff, hnil, hnil', List.forall_mem_cons]

/-- A condition without any term compiles to the empty clause. -/
theorem compile_vacuous {condition : Value} (h : condition.Vacuous) : compile condition = .ok {} := by
  rcases h with hfalse | ⟨es, rfl, hes⟩
  · simp [compile, hfalse]
  · have hparse : parse (.map es) = terms es := rfl
    rcases terms_eq es with ⟨key, hfirst, -⟩ | ⟨-, ts, hts, hnil⟩
    · -- empty mappings ask for no operator
      have hkeys : (es.flatMap fun e => e.2.operatorKeys) = [] := by
        rw [List.flatMap_eq_nil_iff]
        intro e he
        rw [hes e he]
        rfl
      rw [firstUnknown?, hkeys] at hfirst
      cases hfirst
    · rw [compile_map, hparse, hts, hnil.2 hes]
      rfl

theorem compile_unknown {es : Entries} {key : Value} (h : firstUnknown? es = some key) :
    compile (.map es) = .error (.unknownOperator key) := by
  have hparse : parse (.map es) = terms es := rfl
  rcases terms_eq es with ⟨key', hfirst, heq⟩ | ⟨hnone, -⟩
  · rw [h] at hfirst
    cases hfirst
    rw [compile_map, hparse, heq]
    rfl
  · rw [h] at hnone
    cases hnone

/-- A mapping is refused exactly if one of its operators does not exist. -/
theorem compile_fails_iff (es : Entries) :
    (∃ e, compile (.map es) = .error e) ↔ ∃ key, firstUnknown? es = some key := by
  constructor
  · rintro ⟨e, he⟩
    rcases terms_eq es with ⟨key, hfirst, -⟩ | ⟨-, ts, hts, -⟩
    · exact ⟨key, hfirst⟩
    · have hparse : parse (.map es) = .ok ts := hts
      rw [compile_map, hparse] at he
      cases he
  · rintro ⟨key, hfirst⟩
    exact ⟨_, compile_unknown hfirst⟩

/-- What a condition compiles to: nothing, an error, or the clause of some terms. -/
theorem compile_cases (condition : Value) :
    condition.Vacuous ∨
      (∃ e, compile condition = .error e ∧ ((∃ key, e = .unknownOperator key) ∨ ∃ k view, e = .notMapping k view)) ∨
      ∃ ts, parse condition = .ok ts ∧ ts ≠ [] ∧ compile condition = .ok (Clause.ofTerms ts) := by
  cases htruthy : condition.truthy with
  | false => exact .inl (.inl htruthy)
  | true =>
    cases condition with
    | map es =>
      rcases terms_eq es with ⟨key, -, heq⟩ | ⟨-, ts, hts, hnil⟩
      · have hparse : parse (.map es) = .error (.unknownOperator key) := heq
        refine .inr (.inl ⟨.unknownOperator key, ?_, .inl ⟨key, rfl⟩⟩)
        rw [compile_map, hparse]
        rfl
      · have hparse : parse (.map es) = .ok ts := hts
        by_cases hts : ts = []
        · exact .inl (.inr ⟨es, rfl, hnil.1 hts⟩)
        · refine .inr (.inr ⟨ts, hparse, hts, ?_⟩)
          rw [compile_map, hparse]
          rfl
    | _ => exact .inr (.inl ⟨_, by rw [compile, if_pos htruthy]; rfl, .inr ⟨_, _, rfl⟩⟩)

/-- A condition does not compile if it asks for an operator that does not exist, or is no mapping. -/
theorem compile_error {condition : Value} {e : Failure} (h : compile condition = .error e) :
    (∃ key, e = .unknownOperator key) ∨ ∃ k view, e = .notMapping k view := by
  rcases compile_cases condition with hvacuous | ⟨e', heq, hkind⟩ | ⟨ts, -, -, heq⟩
  · rw [compile_vacuous hvacuous] at h
    cases h
  · rw [heq] at h
    cases h
    exact hkind
  · rw [heq] at h
    cases h

end Condition

end RecordStore
