/-
Compiled clauses and the terms they are compiled from determine each other. The fragments of a
clause tell the shapes of its terms, and the shapes say how many of the parameters each term takes,
so the flat parameter list splits in one way only.
-/
import RecordStore.Proofs.Condition.Shape

namespace RecordStore

/-! ## Equality of sequences -/

namespace Value

theorem length_of_sameList : ∀ {vs ws : List Value}, sameList vs ws = true → vs.length = ws.length
  | [], [], _ => rfl
  | v :: vs, w :: ws, h => by
    simp only [sameList, Bool.and_eq_true] at h
    rw [List.length_cons, List.length_cons, length_of_sameList h.2]
  | [], _ :: _, h => by simp [sameList] at h
  | _ :: _, [], h => by simp [sameList] at h

/-- Sequences that begin with parts of one length are compared part by part. -/
theorem sameList_append (vs' ws' : List Value) : ∀ {vs ws : List Value}, vs.length = ws.length →
    sameList (vs ++ vs') (ws ++ ws') = (sameList vs ws && sameList vs' ws')
  | [], [], _ => by simp [sameList]
  | v :: vs, w :: ws, h => by
    rw [List.length_cons, List.length_cons] at h
    have ih := sameList_append vs' ws' (Nat.succ.inj h)
    simp only [List.cons_append, sameList, ih, Bool.and_assoc]
  | [], _ :: _, h => by cases h
  | _ :: _, [], h => by cases h

end Value

/-! ## Equality of terms -/

namespace Term

/-- The column of a term. -/
def column : Term → Value
  | .equals c _ => c
  | .compare c _ _ => c
  | .member c _ => c

/-- The column of the term is a text. -/
def Textual (t : Term) : Prop := ∃ s, t.column = .text s

/-- Terms are equal exactly if their shapes agree and their values are equal. -/
theorem same_eq {t u : Term} (ht : t.Textual) (hu : u.Textual) :
    t.same u = (t.shape == u.shape && Value.sameList t.values u.values) := by
  obtain ⟨s, ht⟩ := ht
  obtain ⟨s', hu⟩ := hu
  have hcolumn : (Value.text s).same (.text s') = (s == s') := by simp [Value.same]
  rw [Bool.eq_iff_iff]
  cases t with
  | equals c v =>
    obtain rfl : c = .text s := ht
    cases u with
    | equals d w =>
      obtain rfl : d = .text s' := hu
      simp [same, shape, values, hcolumn, Value.sameList, Value.display]
    | _ => simp [same, shape]
  | compare c op v =>
    obtain rfl : c = .text s := ht
    cases u with
    | compare d op' w =>
      obtain rfl : d = .text s' := hu
      simp [same, shape, values, hcolumn, Value.sameList, Value.display]
    | _ => simp [same, shape]
  | member c vs =>
    obtain rfl : c = .text s := ht
    cases u with
    | member d ws =>
      obtain rfl : d = .text s' := hu
      have hlength : Value.sameList vs ws = true → vs.length = ws.length := Value.length_of_sameList
      simp only [same, shape, values, hcolumn, Value.display, Bool.and_eq_true, beq_iff_eq,
        Shape.member.injEq]
      constructor
      · rintro ⟨hs, hvs⟩
        exact ⟨⟨hs, hlength hvs⟩, hvs⟩
      · rintro ⟨⟨hs, -⟩, hvs⟩
        exact ⟨hs, hvs⟩
    | _ => simp [same, shape]

end Term

/-! ## Reading a clause -/

/-- The term of a shape with these values. -/
def Shape.term? : Shape → List Value → Option Term
  | .equals column, [v] => some (.equals (.text column) v)
  | .compare column op, [v] => some (.compare (.text column) op v)
  | .member column count, vs => if vs.length = count then some (.member (.text column) vs) else none
  | _, _ => none

namespace Clause

/-- Gives each shape the values it takes, in order. -/
def readTerms? : List Shape → List Value → Option (List Term)
  | [], [] => some []
  | [], _ :: _ => none
  | s :: ss, params => do
    let t ← s.term? (params.take s.arity)
    let ts ← readTerms? ss (params.drop s.arity)
    return t :: ts

/-- Reads the terms of a clause: the shapes from its fragments, their values from its parameters. -/
def read? (c : Clause) : Option (List Term) := do
  let shapes ← c.fragments.mapM Shape.read?
  readTerms? shapes c.params

theorem mapM_read? (ts : List Term) :
    (ofTerms ts).fragments.mapM Shape.read? = some (ts.map Term.shape) := by
  induction ts with
  | nil => rfl
  | cons t ts ih =>
    have hfragments : (ofTerms (t :: ts)).fragments = t.fragment :: (ofTerms ts).fragments := rfl
    rw [hfragments, List.mapM_cons, ih, t.fragment_eq, Shape.read?_text]
    rfl

theorem term?_values {t : Term} (ht : t.Textual) : t.shape.term? t.values = some t := by
  obtain ⟨s, ht⟩ := ht
  cases t <;> cases ht <;> simp [Term.shape, Term.values, Shape.term?, Value.display]

theorem readTerms?_ofTerms {ts : List Term} (hts : ∀ t ∈ ts, t.Textual) :
    readTerms? (ts.map Term.shape) (ofTerms ts).params = some ts := by
  induction ts with
  | nil => rfl
  | cons t ts ih =>
    have hrest := ih fun u hu => hts u (List.mem_cons_of_mem t hu)
    have hparams : (ofTerms (t :: ts)).params = t.values ++ (ofTerms ts).params := rfl
    rw [List.map_cons, readTerms?, hparams, ← t.length_values, List.take_left, List.drop_left,
      term?_values (hts t List.mem_cons_self), hrest]
    rfl

/-- The terms of a clause are read back from it. -/
theorem read?_ofTerms {ts : List Term} (hts : ∀ t ∈ ts, t.Textual) : (ofTerms ts).read? = some ts := by
  unfold read?
  rw [mapM_read?]
  exact readTerms?_ofTerms hts

/-- Clauses are equal exactly if their terms are. -/
theorem same_ofTerms : ∀ {ts us : List Term}, (∀ t ∈ ts, t.Textual) → (∀ u ∈ us, u.Textual) →
    (ofTerms ts).same (ofTerms us) = Term.sameAll ts us
  | [], [], _, _ => by simp [same, ofTerms, Value.sameList, Term.sameAll]
  | [], _ :: _, _, _ => rfl
  | _ :: _, [], _, _ => rfl
  | t :: ts, u :: us, hts, hus => by
    have ih := same_ofTerms (fun v hv => hts v (List.mem_cons_of_mem t hv))
      (fun v hv => hus v (List.mem_cons_of_mem u hv))
    rw [Term.sameAll, ← ih, Term.same_eq (hts t List.mem_cons_self) (hus u List.mem_cons_self)]
    show (t.fragment == u.fragment && (ofTerms ts).fragments == (ofTerms us).fragments &&
        Value.sameList (t.values ++ (ofTerms ts).params) (u.values ++ (ofTerms us).params)) = _
    -- terms of one shape take equally many parameters; others already differ in their fragments
    by_cases hshape : t.shape = u.shape
    · have hlength : t.values.length = u.values.length := by
        rw [t.length_values, u.length_values, hshape]
      rw [Term.fragment_inj.2 hshape, hshape, Value.sameList_append _ _ hlength]
      simp only [beq_self_eq_true, Bool.true_and, same]
      exact Bool.and_left_comm _ _ _
    · have hfragment : t.fragment ≠ u.fragment := fun h => hshape (Term.fragment_inj.1 h)
      rw [beq_false_of_ne hfragment, beq_false_of_ne hshape]
      simp only [Bool.false_and]

end Clause

/-! ## Conditions -/

theorem Operator.ofKey?_key (op : Operator) : ofKey? (.text op.key) = some op := by
  cases op <;> decide

namespace Condition

/-- A condition as callers write it: its columns are texts, and its operators are known. -/
structure Proper (es : Entries) : Prop where
  columns : ∀ e ∈ es, ∃ s, e.1 = .text s
  operators : ∀ e ∈ es, ∀ ops, e.2 = .map ops → ∀ o ∈ ops, ∃ op : Operator, o.1 = .text op.key

/-- A mapping of known operators is parsed, into comparisons of its column. -/
theorem comparisons_ok (column : Value) {ops : Entries}
    (hops : ∀ o ∈ ops, ∃ op : Operator, o.1 = .text op.key) :
    ∃ ts, comparisons column ops = .ok ts ∧ ∀ t ∈ ts, t.column = column := by
  induction ops with
  | nil => exact ⟨[], rfl, List.forall_mem_nil _⟩
  | cons o ops ih =>
    obtain ⟨key, operand⟩ := o
    obtain ⟨op, hop⟩ := hops _ List.mem_cons_self
    obtain rfl : key = .text op.key := hop
    obtain ⟨ts, hts, hcolumns⟩ := ih fun o ho => hops o (List.mem_cons_of_mem _ ho)
    refine ⟨.compare column op operand :: ts, ?_, List.forall_mem_cons.2 ⟨rfl, hcolumns⟩⟩
    rw [comparisons, Operator.ofKey?_key, hts]
    rfl

theorem entryTerms_ok (column : Value) {v : Value}
    (hops : ∀ ops, v = .map ops → ∀ o ∈ ops, ∃ op : Operator, o.1 = .text op.key) :
    ∃ ts, entryTerms column v = .ok ts ∧ ∀ t ∈ ts, t.column = column := by
  cases v with
  | map ops => exact comparisons_ok column (hops ops rfl)
  | list vs => exact ⟨_, rfl, List.forall_mem_singleton.2 rfl⟩
  | tuple vs => exact ⟨_, rfl, List.forall_mem_singleton.2 rfl⟩
  | _ => exact ⟨_, rfl, List.forall_mem_singleton.2 rfl⟩

/-- A proper condition is parsed, into terms with texts for columns. -/
theorem terms_ok {es : Entries} (h : Proper es) :
    ∃ ts, terms es = .ok ts ∧ ∀ t ∈ ts, t.Textual := by
  induction es with
  | nil => exact ⟨[], rfl, List.forall_mem_nil _⟩
  | cons e es ih =>
    obtain ⟨column, v⟩ := e
    obtain ⟨s, hs⟩ := h.columns _ List.mem_cons_self
    obtain ⟨ts, hts, hcolumns⟩ := entryTerms_ok column (h.operators _ List.mem_cons_self)
    obtain ⟨us, hus, htextual⟩ := ih
      ⟨fun e he => h.columns e (List.mem_cons_of_mem _ he),
        fun e he => h.operators e (List.mem_cons_of_mem _ he)⟩
    refine ⟨ts ++ us, ?_, fun t ht => ?_⟩
    · rw [terms, hts, hus]
      rfl
    · rcases List.mem_append.1 ht with ht | ht
      · exact ⟨s, (hcolumns t ht).trans hs⟩
      · exact htextual t ht

/-- A mapping compiles to the clause of the terms it is parsed into. -/
theorem compile_map (es : Entries) : compile (.map es) = (parse (.map es)).map Clause.ofTerms := by
  cases es with
  | nil => rfl
  | cons e es => rfl

/-- Two proper conditions compile to equal clauses exactly if they are parsed into equal terms. The
fragments of a clause tell the shapes of the terms, and with the parameters the terms themselves. -/
theorem compile_same_iff_parse_same {a b : Entries} (ha : Proper a) (hb : Proper b) :
    ∃ ts us c d, parse (.map a) = .ok ts ∧ parse (.map b) = .ok us ∧
      compile (.map a) = .ok c ∧ compile (.map b) = .ok d ∧
      (c.same d = true ↔ Term.sameAll ts us = true) ∧
      c.fragments.mapM Shape.read? = some (ts.map Term.shape) ∧ c.read? = some ts := by
  obtain ⟨ts, hts, htextual⟩ := terms_ok ha
  obtain ⟨us, hus, hutextual⟩ := terms_ok hb
  have hparse : parse (.map a) = .ok ts := hts
  have hparse' : parse (.map b) = .ok us := hus
  refine ⟨ts, us, .ofTerms ts, .ofTerms us, hparse, hparse', ?_, ?_, ?_, ?_, ?_⟩
  · rw [compile_map, hparse]
    rfl
  · rw [compile_map, hparse']
    rfl
  · rw [Clause.same_ofTerms htextual hutextual]
  · exact Clause.mapM_read? ts
  · exact Clause.read?_ofTerms htextual

/-- Two conditions with equal numbers of two types, a column that looks like a fragment, and a
membership without values. -/
theorem compile_same_iff_parse_same_numbers :
    let a : Entries := [(.text "age", .map [(.text "gt", .int 1)]), (.text "b IN (?) = ?", .list [])]
    let b : Entries := [(.text "age", .map [(.text "gt", .bool true)]), (.text "b IN (?) = ?", .tuple [])]
    let ts : List Term := [.compare (.text "age") .gt (.int 1), .member (.text "b IN (?) = ?") []]
    let us : List Term := [.compare (.text "age") .gt (.bool true), .member (.text "b IN (?) = ?") []]
    let c : Clause := ⟨["age > ?", "b IN (?) = ? IN ()"], [.int 1]⟩
    let d : Clause := ⟨["age > ?", "b IN (?) = ? IN ()"], [.bool true]⟩
    Proper a ∧ Proper b ∧ parse (.map a) = .ok ts ∧ parse (.map b) = .ok us ∧
      compile (.map a) = .ok c ∧ compile (.map b) = .ok d ∧ c.same d = true ∧ Term.sameAll ts us = true ∧
        c.fragments.mapM Shape.read? = some (ts.map Term.shape) ∧ c.read? = some ts := by
  intro a b ts us c d
  have ha : Proper a := by
    constructor <;> simp [a]
    exact ⟨.gt, rfl⟩
  have hb : Proper b := by
    constructor <;> simp [b]
    exact ⟨.gt, rfl⟩
  have parsed : parse (.map a) = .ok ts ∧ parse (.map b) = .ok us := ⟨rfl, rfl⟩
  have compiled : compile (.map a) = .ok c ∧ compile (.map b) = .ok d := ⟨rfl, rfl⟩
  have same : c.same d = true := by decide +kernel
  obtain ⟨_, _, _, _, hts, hus, hc, hd, hsame, hshapes, hread⟩ := compile_same_iff_parse_same ha hb
  rw [parsed.1] at hts
  rw [parsed.2] at hus
  rw [compiled.1] at hc
  rw [compiled.2] at hd
  cases hts
  cases hus
  cases hc
  cases hd
  exact ⟨ha, hb, parsed.1, parsed.2, compiled.1, compiled.2, same, hsame.1 same, hshapes, hread⟩

end Condition

end RecordStore
