/-
Placeholders in statements. Texts that bring no placeholder of their own are counted by what they
are joined from, so a statement has as many placeholders as its fragments, its columns and its
values ask for, and exactly as many as it binds values.
-/
import RecordStore.Proofs.Condition.Clause
import RecordStore.Client.Operation

namespace RecordStore

/-- How many placeholders a text has. -/
def marks (s : String) : Nat := s.toList.count '?'

/-! ## Texts -/

theorem marks_append (s t : String) : marks (s ++ t) = marks s + marks t := by
  unfold marks
  rw [String.toList_append, List.count_append]

theorem marks_comma : marks ", " = 0 := by decide

theorem marks_blank : marks " " = 0 := by decide

theorem marks_opens : marks " (" = 0 := by decide

theorem marks_closes : marks ")" = 0 := by decide

theorem marks_placeholders (n : Nat) : marks (placeholders n) = n := Shape.count_placeholders n

/-- How many placeholders texts have together. -/
def allMarks : List String → Nat
  | [] => 0
  | s :: ss => marks s + allMarks ss

/-- A separator without placeholders adds none. -/
theorem marks_joinWith {sep : String} (hsep : marks sep = 0) :
    ∀ ss : List String, marks (joinWith sep ss) = allMarks ss
  | [] => rfl
  | [s] => (Nat.add_zero _).symm
  | s :: t :: rest => by
    show marks (s ++ sep ++ joinWith sep (t :: rest)) = _
    rw [marks_append, marks_append, marks_joinWith hsep (t :: rest), hsep]
    rfl

theorem isDigit_of_mem_toString {n : Nat} {c : Char} (h : c ∈ (toString n).toList) : c.isDigit = true := by
  have hdigits : c ∈ Nat.toDigits 10 n := by simpa using h
  exact Nat.isDigit_of_mem_toDigits (by decide) (by decide) hdigits

theorem marks_toString (n : Nat) : marks (toString n) = 0 :=
  List.count_eq_zero.2 fun hmem => absurd (isDigit_of_mem_toString hmem) (by decide)

/-- A placeholder is no blank, so trimming leaves it. -/
theorem marks_trimmedEnd (s : String) : marks (trimmedEnd s) = marks s := by
  have hdrop : ∀ l : List Char, (dropLastWhile isBlank l).count '?' = l.count '?' := by
    intro l
    induction l with
    | nil => rfl
    | cons ch l ih =>
      unfold dropLastWhile
      split
      · rename_i hnone
        rw [hnone] at ih
        split
        · rename_i hblank
          have hne : ch ≠ '?' := by
            rintro rfl
            exact absurd hblank (by decide)
          simp [List.count_cons_of_ne hne, ← ih]
        · simp [List.count_cons, ← ih]
      · simp [List.count_cons, ← ih]
  unfold marks trimmedEnd
  rw [String.toList_ofList, hdrop]

theorem allMarks_eq_zero {α : Type} {f : α → String} {l : List α} (h : ∀ a ∈ l, marks (f a) = 0) :
    allMarks (l.map f) = 0 := by
  induction l with
  | nil => rfl
  | cons a l ih =>
    show marks (f a) + allMarks (l.map f) = 0
    rw [h a List.mem_cons_self, ih fun b hb => h b (List.mem_cons_of_mem a hb)]

/-! ## Clauses -/

def Value.PlainKeys (v : Value) : Prop := ∀ e ∈ v.entries?.getD [], marks e.1.display = 0

/-- The values that a condition binds for a column: the operands of its operators, the elements of its
list or tuple, or the value that it asks for. -/
def Value.bound : Value → List Value
  | .map ops => ops.map Prod.snd
  | .list vs => vs
  | .tuple vs => vs
  | v => [v]

namespace Condition

/-- The values that a condition binds, in its order. -/
def bound (condition : Value) : List Value :=
  (condition.entries?.getD []).flatMap fun e => e.2.bound

theorem comparisons_bound {column : Value} : ∀ {ops : Entries} {ts : List Term},
    comparisons column ops = .ok ts →
      ts.flatMap Term.values = ops.map Prod.snd ∧ ∀ t ∈ ts, t.column = column
  | [], ts, h => by
    cases h
    exact ⟨rfl, List.forall_mem_nil _⟩
  | (key, operand) :: ops, ts, h => by
    unfold comparisons at h
    cases hkey : Operator.ofKey? key with
    | none => simp [hkey] at h
    | some op =>
      cases hrest : comparisons column ops with
      | error e => simp [hkey, hrest, Except.map] at h
      | ok rest =>
        simp only [hkey, hrest, Except.map, Except.ok.injEq] at h
        subst h
        obtain ⟨hvalues, hcolumns⟩ := comparisons_bound hrest
        exact ⟨by simp [Term.values, hvalues], List.forall_mem_cons.2 ⟨rfl, hcolumns⟩⟩

theorem entryTerms_bound {column v : Value} {ts : List Term} (h : entryTerms column v = .ok ts) :
    ts.flatMap Term.values = v.bound ∧ ∀ t ∈ ts, t.column = column := by
  cases v with
  | map ops => exact comparisons_bound h
  | _ =>
    cases h
    exact ⟨List.append_nil _, List.forall_mem_singleton.2 rfl⟩

/-- The terms of a condition bind its values, and their columns are its keys. -/
theorem terms_bound : ∀ {es : Entries} {ts : List Term}, terms es = .ok ts →
    ts.flatMap Term.values = es.flatMap (fun e => e.2.bound) ∧ ∀ t ∈ ts, ∃ e ∈ es, t.column = e.1
  | [], ts, h => by
    cases h
    exact ⟨rfl, List.forall_mem_nil _⟩
  | (column, v) :: es, ts, h => by
    unfold terms at h
    cases hfirst : entryTerms column v with
    | error e => simp [hfirst] at h
    | ok first =>
      cases hrest : terms es with
      | error e => simp [hfirst, hrest, Except.map] at h
      | ok rest =>
        simp only [hfirst, hrest, Except.map, Except.ok.injEq] at h
        subst h
        obtain ⟨hvalues, hcolumns⟩ := entryTerms_bound hfirst
        obtain ⟨hvalues', hcolumns'⟩ := terms_bound hrest
        refine ⟨by simp [hvalues, hvalues'], fun t ht => ?_⟩
        rcases List.mem_append.1 ht with ht | ht
        · exact ⟨_, List.mem_cons_self, hcolumns t ht⟩
        · obtain ⟨e, he, heq⟩ := hcolumns' t ht
          exact ⟨e, List.mem_cons_of_mem _ he, heq⟩

end Condition

theorem Term.marks_fragment (t : Term) :
    marks t.fragment = marks t.column.display + t.values.length := by
  have hequals : marks " = ?" = 1 := by decide
  cases t with
  | equals c v =>
    show marks (c.display ++ " = ?") = _
    rw [marks_append, hequals]
    rfl
  | compare c op v =>
    have hop : marks op.symbol = 0 := by cases op <;> decide
    have hmark : marks " ?" = 1 := by decide
    show marks (c.display ++ " " ++ op.symbol ++ " ?") = _
    rw [marks_append, marks_append, marks_append, hop, marks_blank, hmark]
    rfl
  | member c vs =>
    have hopens : marks " IN (" = 0 := by decide
    show marks (c.display ++ " IN (" ++ placeholders vs.length ++ ")") = _
    rw [marks_append, marks_append, marks_append, marks_placeholders, hopens, marks_closes]
    rfl

namespace Clause

/-- The clause has a placeholder for each of its values. -/
def Balanced (c : Clause) : Prop := marks c.sql = c.params.length

theorem balanced_ofTerms {ts : List Term} (h : ∀ t ∈ ts, marks t.column.display = 0) :
    (ofTerms ts).Balanced := by
  have hall : allMarks (ts.map Term.fragment) = (ts.flatMap Term.values).length := by
    induction ts with
    | nil => rfl
    | cons t ts ih =>
      show marks t.fragment + allMarks (ts.map Term.fragment) = _
      rw [List.flatMap_cons, List.length_append, ih fun u hu => h u (List.mem_cons_of_mem t hu),
        t.marks_fragment, h t List.mem_cons_self, Nat.zero_add]
  have hand : marks " AND " = 0 := by decide
  have hwhere : marks "WHERE " = 0 := by decide
  cases ts with
  | nil => rfl
  | cons t ts =>
    show marks ("WHERE " ++ joinWith " AND " ((t :: ts).map Term.fragment)) = _
    rw [marks_append, marks_joinWith hand, hall, hwhere, Nat.zero_add]
    rfl

end Clause

/-- A compiled condition binds the values of the condition, and has as many placeholders unless its
columns bring some. -/
theorem Condition.compile_bound {v : Value} {c : Clause} (h : compile v = .ok c) :
    c.params = bound v ∧ (v.PlainKeys → c.Balanced) := by
  unfold compile at h
  split at h
  · -- only a mapping has terms
    cases v with
    | map es =>
      cases hts : terms es with
      | error e => simp [parse, Value.entries?, hts, Except.map] at h
      | ok ts =>
        simp only [parse, Value.entries?, hts, Except.map, Except.ok.injEq] at h
        subst h
        obtain ⟨hvalues, hcolumns⟩ := terms_bound hts
        refine ⟨hvalues, fun hplain => Clause.balanced_ofTerms fun t ht => ?_⟩
        obtain ⟨e, he, heq⟩ := hcolumns t ht
        exact heq ▸ hplain e he
    | _ => cases h
  · rename_i hfalse
    cases h
    refine ⟨?_, fun _ => rfl⟩
    cases v with
    | map es =>
      obtain rfl : es = [] := by simpa [Value.truthy] using hfalse
      rfl
    | _ => rfl

/-! ## Statements -/

namespace Statement

/-- The statement has a placeholder for each of its values. -/
def Balanced (s : Statement) : Prop := marks s.sql = s.params.length

theorem marks_filter (c : Clause) : marks (filter c) = marks c.sql := by
  unfold filter Clause.sql
  split
  · rfl
  · rw [marks_append, marks_blank, Nat.zero_add]

theorem marks_ordering {o : Option String} (h : ∀ s ∈ o, marks s = 0) : marks (ordering o) = 0 := by
  have horder : marks " ORDER BY " = 0 := by decide
  cases o with
  | none => rfl
  | some s =>
    show marks (" ORDER BY " ++ s) = 0
    rw [marks_append, horder, h s rfl]

theorem marks_paging (limit offset : Option Nat) : marks (paging limit offset) = 0 := by
  have hlimit : marks " LIMIT " = 0 := by decide
  have hnone : marks " LIMIT -1 OFFSET " = 0 := by decide
  have hoffset : marks " OFFSET " = 0 := by decide
  cases limit with
  | none =>
    cases offset with
    | none => rfl
    | some m =>
      show marks (" LIMIT -1 OFFSET " ++ toString m) = 0
      rw [marks_append, hnone, marks_toString]
  | some n =>
    cases offset with
    | none =>
      show marks (" LIMIT " ++ toString n) = 0
      rw [marks_append, hlimit, marks_toString]
    | some m =>
      show marks (" LIMIT " ++ toString n ++ " OFFSET " ++ toString m) = 0
      rw [marks_append, marks_append, marks_append, hlimit, hoffset, marks_toString, marks_toString]

theorem balanced_select {table : Value} {c : Clause} {o : QueryOptions} (ht : marks table.display = 0)
    (hc : c.Balanced) (ho : ∀ s ∈ o.orderBy, marks s = 0) : (select table c o).Balanced := by
  have hselect : marks "SELECT * FROM " = 0 := by decide
  show marks ("SELECT * FROM " ++ table.display ++ filter c ++ ordering o.orderBy ++
    paging o.limit o.offset) = _
  rw [marks_append, marks_append, marks_append, marks_append, hselect, ht, marks_filter,
    marks_ordering ho, marks_paging, Nat.zero_add]
  exact hc

theorem balanced_createTable {table : Value} {columns : Entries} (ht : marks table.display = 0)
    (hc : ∀ e ∈ columns, marks e.1.display = 0 ∧ marks e.2.display = 0) :
    (createTable table columns).Balanced := by
  have hcreate : marks "CREATE TABLE IF NOT EXISTS " = 0 := by decide
  show marks ("CREATE TABLE IF NOT EXISTS " ++ table.display ++ " (" ++
    joinWith ", " (columns.map fun e => e.1.display ++ " " ++ e.2.display) ++ ")") = 0
  rw [marks_append, marks_append, marks_append, marks_append, hcreate, ht, marks_opens, marks_closes,
    marks_joinWith marks_comma, allMarks_eq_zero fun e he => ?_]
  rw [marks_append, marks_append, (hc e he).1, (hc e he).2, marks_blank]

theorem balanced_insert {table : Value} {names : List String} {values : List Value}
    (ht : marks table.display = 0) (hn : allMarks names = 0) :
    (insert table names values).Balanced := by
  have hinsert : marks "INSERT INTO " = 0 := by decide
  have hvalues : marks ") VALUES (" = 0 := by decide
  show marks ("INSERT INTO " ++ table.display ++ " (" ++ joinWith ", " names ++ ") VALUES (" ++
    placeholders values.length ++ ")") = _
  rw [marks_append, marks_append, marks_append, marks_append, marks_append, marks_append, hinsert, ht,
    marks_opens, marks_joinWith marks_comma, hn, hvalues, marks_placeholders, marks_closes, Nat.add_zero]
  exact Nat.zero_add _

/-- An update has a placeholder for each column, and then those of its clause. -/
theorem marks_updateText {table : Value} {columns : List Value} {c : Clause}
    (ht : marks table.display = 0) (hcolumns : ∀ column ∈ columns, marks column.display = 0) :
    marks (updateText table columns c) = columns.length + marks c.sql := by
  have hupdate : marks "UPDATE " = 0 := by decide
  have hset : marks " SET " = 0 := by decide
  have hmark : marks " = ?" = 1 := by decide
  have hall : allMarks (columns.map fun column => column.display ++ " = ?") = columns.length := by
    induction columns with
    | nil => rfl
    | cons column columns ih =>
      show marks (column.display ++ " = ?") + allMarks (columns.map _) = columns.length + 1
      rw [ih fun d hd => hcolumns d (List.mem_cons_of_mem column hd), marks_append,
        hcolumns column List.mem_cons_self, hmark]
      omega
  show marks (trimmedEnd ("UPDATE " ++ table.display ++ " SET " ++
    joinWith ", " (columns.map fun column => column.display ++ " = ?") ++ " " ++ c.sql)) = _
  rw [marks_trimmedEnd, marks_append, marks_append, marks_append, marks_append, marks_append, hupdate, ht,
    hset, marks_joinWith marks_comma, hall, marks_blank]
  omega

theorem balanced_delete {table : Value} {c : Clause} (ht : marks table.display = 0) (hc : c.Balanced) :
    (delete table c).Balanced := by
  have hdelete : marks "DELETE FROM " = 0 := by decide
  show marks ("DELETE FROM " ++ table.display ++ " " ++ c.sql) = _
  rw [marks_append, marks_append, marks_append, hdelete, ht, marks_blank, Nat.zero_add]
  exact hc

end Statement

end RecordStore
