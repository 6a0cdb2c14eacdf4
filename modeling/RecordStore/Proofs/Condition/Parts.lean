/-
Conditions in parts. A mapping can be cut between two of its entries, or inside of one entry, between two of
the operators that it asks of its column. At both levels reading goes on behind the cut exactly if it found
every operator before it, so the terms of the parts stand one behind the other, and the first part that asks for
an operator that does not exist decides. Main statement: clauses of parts are put together by appending their
fragments and their values, and errors come in the order of the parts.
-/
import RecordStore.Proofs.Condition.Outcome
import RecordStore.Proofs.Condition.Reading

namespace RecordStore

/-! ## Clauses -/

theorem Term.fragment_ne_empty (t : Term) : t.fragment ≠ "" := by
  intro h
  have hlength : t.fragment.toList.length = 0 := by rw [h]; rfl
  cases t <;> simp [fragment] at hlength

namespace Clause

/-- Two clauses put together. -/
def append (c d : Clause) : Clause where
  fragments := c.fragments ++ d.fragments
  params := c.params ++ d.params

theorem ofTerms_append (ts us : List Term) : ofTerms (ts ++ us) = (ofTerms ts).append (ofTerms us) := by
  simp [ofTerms, append]

theorem text_eq_empty {ts : List Term} : (ofTerms ts).text = "" ↔ ts = [] := by
  cases ts with
  | nil => exact iff_of_true rfl rfl
  | cons t ts =>
    refine iff_of_false (fun h => ?_) (List.cons_ne_nil t ts)
    have hempty : joinWith " AND " (t.fragment :: ts.map Term.fragment) = "" := h
    cases ts with
    | nil => exact t.fragment_ne_empty hempty
    | cons u us =>
      have hlength := congrArg (·.toList.length) hempty
      simp [joinWith] at hlength

/-- The texts of two clauses are joined with `AND`, unless one of them is empty. -/
theorem text_append (ts us : List Term) : ((ofTerms ts).append (ofTerms us)).text =
    if (ofTerms ts).text = "" then (ofTerms us).text
    else if (ofTerms us).text = "" then (ofTerms ts).text
    else (ofTerms ts).text ++ " AND " ++ (ofTerms us).text := by
  by_cases hts : ts = []
  · subst hts
    simp [append, ofTerms, text, joinWith]
  · rw [if_neg (mt text_eq_empty.1 hts)]
    by_cases hus : us = []
    · subst hus
      simp [append, ofTerms, text, joinWith]
    · rw [if_neg (mt text_eq_empty.1 hus)]
      exact joinWith_append " AND " (by simpa [ofTerms] using hus) (by simpa [ofTerms] using hts)

end Clause

namespace Condition

/-! ## Terms -/

/-- The terms of two parts, or the failure of the first part that has one. -/
def both (x y : Except Failure (List Term)) : Except Failure (List Term) :=
  match x with
  | .error e => .error e
  | .ok ts => y.map (ts ++ ·)

theorem both_ok_nil (y : Except Failure (List Term)) : both (.ok []) y = y := by
  cases y <;> rfl

theorem both_assoc (x y z : Except Failure (List Term)) : both (both x y) z = both x (both y z) := by
  cases x with
  | error e => rfl
  | ok ts =>
    cases y with
    | error e => rfl
    | ok us => cases z <;> simp [both, Except.map]

theorem terms_cons (column v : Value) (es : Entries) :
    terms ((column, v) :: es) = both (entryTerms column v) (terms es) := by
  rw [terms]
  cases entryTerms column v <;> rfl

/-- Inside of an entry, operators are looked at in order, up to the first that does not exist. -/
theorem comparisons_append (column : Value) (ops ops' : Entries) :
    comparisons column (ops ++ ops') = both (comparisons column ops) (comparisons column ops') := by
  induction ops with
  | nil => exact (both_ok_nil _).symm
  | cons o ops ih =>
    obtain ⟨key, operand⟩ := o
    rw [List.cons_append, comparisons, comparisons, ih]
    cases Operator.ofKey? key with
    | none => rfl
    | some op =>
      dsimp only
      cases comparisons column ops with
      | error e => rfl
      | ok ts => cases comparisons column ops' <;> rfl

/-- Entries are looked at in order, up to the first that is refused. -/
theorem terms_append (a b : Entries) : terms (a ++ b) = both (terms a) (terms b) := by
  induction a with
  | nil => exact (both_ok_nil _).symm
  | cons e a ih =>
    obtain ⟨column, v⟩ := e
    rw [List.cons_append, terms_cons, terms_cons, ih, both_assoc]

/-! ## Parts -/

/-- The mapping consists of two parts. -/
inductive Cut : Entries → Entries → Entries → Prop where
  /-- It is cut between two entries. -/
  | between (a b : Entries) : Cut (a ++ b) a b
  /-- It is cut between two operators of one column. -/
  | inside (before after : Entries) (column : Value) (ops ops' : Entries) :
    Cut (before ++ (column, .map (ops ++ ops')) :: after) (before ++ [(column, .map ops)])
      ((column, .map ops') :: after)

variable {es a b : Entries}

theorem Cut.terms_eq (h : Cut es a b) : terms es = both (terms a) (terms b) := by
  cases h with
  | between => exact terms_append a b
  | inside before after column ops ops' =>
    have hentry (ops : Entries) : entryTerms column (.map ops) = comparisons column ops := rfl
    have hlast : both (comparisons column ops) (terms []) = comparisons column ops := by
      rw [← hentry, ← terms_cons]
      cases h : comparisons column ops <;> simp [terms, hentry, h, Except.map]
    simp only [terms_append, terms_cons, hentry, comparisons_append, both_assoc, hlast]

/-- What the whole asks for that does not exist, the first part does, or else the second. -/
theorem Cut.firstUnknown?_eq (h : Cut es a b) : firstUnknown? es = (firstUnknown? a).or (firstUnknown? b) := by
  cases h with
  | between => simp [firstUnknown?]
  | inside before after column ops ops' => simp [firstUnknown?, Value.operatorKeys, Option.or_assoc]

end Condition

/-! ## Operators -/

/-- An operator does not exist if its key is none of the five. -/
theorem Operator.unknown_iff {key : Value} :
    Operator.unknown key = true ↔ ∀ op : Operator, key ≠ .text op.key := by
  rw [unknown, Option.isNone_iff_eq_none]
  constructor
  · rintro h op rfl
    rw [ofKey?_key] at h
    cases h
  · intro h
    cases key with
    | text s =>
      refine List.find?_eq_none.2 fun op _ hs => h op ?_
      rw [eq_of_beq hs]
    | _ => rfl

namespace Condition

theorem firstUnknown?_isSome {es : Entries} : (∃ key, firstUnknown? es = some key) ↔
    ∃ e ∈ es, ∃ ops, e.2 = .map ops ∧ ∃ o ∈ ops, ∀ op : Operator, o.1 ≠ .text op.key := by
  rw [← Option.isSome_iff_exists, firstUnknown?, List.find?_isSome]
  constructor
  · rintro ⟨key, hkey, hunknown⟩
    obtain ⟨⟨column, v⟩, he, hkey⟩ := List.mem_flatMap.1 hkey
    cases v with
    | map ops =>
      obtain ⟨o, ho, rfl⟩ := List.mem_map.1 hkey
      exact ⟨_, he, ops, rfl, o, ho, Operator.unknown_iff.1 hunknown⟩
    | _ => cases hkey
  · rintro ⟨⟨column, v⟩, he, ops, rfl, o, ho, hunknown⟩
    exact ⟨o.1, List.mem_flatMap.2 ⟨_, he, List.mem_map_of_mem ho⟩, Operator.unknown_iff.2 hunknown⟩

/-- A value is refused for an operator exactly if it is a mapping with an entry that asks for one that does not
exist. -/
theorem compile_unknownOperator_iff (condition : Value) :
    (∃ key, compile condition = .error (.unknownOperator key)) ↔
      ∃ es, condition = .map es ∧
        ∃ e ∈ es, ∃ ops, e.2 = .map ops ∧ ∃ o ∈ ops, ∀ op : Operator, o.1 ≠ .text op.key := by
  constructor
  · rintro ⟨key, h⟩
    cases condition with
    | map es => exact ⟨es, rfl, firstUnknown?_isSome.1 ((compile_fails_iff es).1 ⟨_, h⟩)⟩
    | _ =>
      -- what is no mapping is refused for that, or counts as false
      unfold compile at h
      split at h <;> cases h
  · rintro ⟨es, rfl, hes⟩
    obtain ⟨key, hfirst⟩ := firstUnknown?_isSome.2 hes
    exact ⟨key, compile_unknown hfirst⟩

/-- A mapping in two parts. If the first part asks for operators that do not exist, the first of these is
reported; else if the second part does, what it reports alone; else the clause is that of the first part and then
that of the second, with their texts joined if both have one. Only such operators are reported as unknown. -/
theorem compile_cut {es a b : Entries} (h : Cut es a b) :
    (∀ key, firstUnknown? a = some key → compile (.map es) = .error (.unknownOperator key)) ∧
    (∀ key, firstUnknown? a = none → firstUnknown? b = some key →
      compile (.map b) = .error (.unknownOperator key) ∧ compile (.map es) = .error (.unknownOperator key)) ∧
    (firstUnknown? a = none → firstUnknown? b = none →
      ∃ c d e, compile (.map a) = .ok c ∧ compile (.map b) = .ok d ∧ compile (.map es) = .ok e ∧
        e.fragments = c.fragments ++ d.fragments ∧ e.params = c.params ++ d.params ∧
        e.text = if c.text = "" then d.text else if d.text = "" then c.text else c.text ++ " AND " ++ d.text) ∧
    ∀ condition : Value, (∃ key, compile condition = .error (.unknownOperator key)) ↔
      ∃ fs, condition = .map fs ∧
        ∃ f ∈ fs, ∃ ops, f.2 = .map ops ∧ ∃ o ∈ ops, ∀ op : Operator, o.1 ≠ .text op.key := by
  refine ⟨fun key ha => ?_, fun key ha hb => ⟨compile_unknown hb, ?_⟩, fun ha hb => ?_,
    compile_unknownOperator_iff⟩
  · refine compile_unknown ?_
    rw [h.firstUnknown?_eq, ha, Option.some_or]
  · refine compile_unknown ?_
    rw [h.firstUnknown?_eq, ha, Option.none_or, hb]
  · have known {fs : Entries} (hfs : firstUnknown? fs = none) : ∃ ts, terms fs = .ok ts := by
      rcases terms_eq fs with ⟨key, hsome, -⟩ | ⟨-, ts, hts, -⟩
      · rw [hfs] at hsome
        cases hsome
      · exact ⟨ts, hts⟩
    have compiled {fs : Entries} {ts : List Term} (hts : terms fs = .ok ts) :
        compile (.map fs) = .ok (Clause.ofTerms ts) := by
      have hparse : parse (.map fs) = .ok ts := hts
      rw [compile_map, hparse]
      rfl
    obtain ⟨ts, hts⟩ := known ha
    obtain ⟨us, hus⟩ := known hb
    have hes : terms es = .ok (ts ++ us) := by
      rw [h.terms_eq, hts, hus]
      rfl
    refine ⟨_, _, _, compiled hts, compiled hus, compiled hes, ?_, ?_, ?_⟩
    · rw [Clause.ofTerms_append]
      rfl
    · rw [Clause.ofTerms_append]
      rfl
    · rw [Clause.ofTerms_append, Clause.text_append]

/-- Two operators of one column in different parts, and two parts that ask for operators that do not exist. -/
theorem compile_cut_operators :
    let es (key : String) : Entries := [(.text "s", .list []),
      (.text "n", .map [(.text "gte", .int 18), (.text key, .int 65)]), (.text "m", .map [(.text "like", .text "A")])]
    let a : Entries := [(.text "s", .list []), (.text "n", .map [(.text "gte", .int 18)])]
    let b (key : String) : Entries :=
      [(.text "n", .map [(.text key, .int 65)]), (.text "m", .map [(.text "like", .text "A")])]
    let b' : Entries := [(.text "n", .map [(.text "lt", .int 65)])]
    (∀ key, Cut (es key) a (b key)) ∧ compile (.map (es "lt")) = .error (.unknownOperator (.text "like")) ∧
      compile (.map (es "is")) = .error (.unknownOperator (.text "is")) ∧
      ∃ e, compile (.map (a ++ b')) = .ok e ∧ e.params = [.int 18, .int 65] ∧
        e.text = "s IN () AND n >= ?" ++ " AND " ++ "n < ?" := by
  intro es a b b'
  have hcut (key : String) : Cut (es key) a (b key) := .inside [_] [_] _ [_] [_]
  have ha : firstUnknown? a = none := rfl
  refine ⟨hcut, ((compile_cut (hcut "lt")).2.1 _ ha rfl).2, ((compile_cut (hcut "is")).2.1 _ ha rfl).2, ?_⟩
  obtain ⟨c, d, e, hc, hd, he, -, hparams, htext⟩ := (compile_cut (.between a b')).2.2.1 ha rfl
  obtain rfl : ⟨["s IN ()", "n >= ?"], [.int 18]⟩ = c := Except.ok.inj hc
  obtain rfl : ⟨["n < ?"], [.int 65]⟩ = d := Except.ok.inj hd
  exact ⟨e, he, hparams, htext⟩

end Condition

end RecordStore
