/-
Reading a clause back from its text. The columns of a clause are written down as they are, but a column
without blanks is one word of the text, whatever else it is made of. So the text is cut at its blanks, and
its words tell by their places alone what they are: a reader that goes through them once finds the shapes
of all terms, and with them the values that each term takes. Main statement: the text and the parameters of
a clause determine its terms.
-/
import RecordStore.Proofs.Condition.Clause

namespace RecordStore

/-! ## Words -/

/-- The words of a text: what stands between its blanks. A word may be empty. -/
def words (text : String) : List String := (text.toList.splitOn ' ').map String.ofList

/-- The text has no blank. -/
def Unbroken (w : String) : Prop := ' ' ∉ w.toList

instance (w : String) : Decidable (Unbroken w) := inferInstanceAs (Decidable (' ' ∉ w.toList))

theorem toList_joinWith (sep : String) :
    ∀ ss : List String, (joinWith sep ss).toList = sep.toList.intercalate (ss.map String.toList)
  | [] => rfl
  | [s] => by simp [joinWith]
  | s :: t :: rest => by
    have ih := toList_joinWith sep (t :: rest)
    rw [List.map_cons] at ih
    rw [joinWith, String.toList_append, String.toList_append, ih, List.map_cons, List.map_cons,
      List.intercalate_cons_cons]

/-- Words that are joined with blanks are the words of the text. -/
theorem words_joinWith {ws : List String} (hne : ws ≠ []) (hws : ∀ w ∈ ws, Unbroken w) :
    words (joinWith " " ws) = ws := by
  have hblank : " ".toList = [' '] := rfl
  have hparts : ∀ l ∈ ws.map String.toList, ' ' ∉ l := List.forall_mem_map.2 hws
  rw [words, toList_joinWith, hblank, List.splitOn_intercalate ' ' hparts (by simpa using hne),
    List.map_map]
  exact (List.map_congr_left fun w _ => String.ofList_toList).trans (List.map_id ws)

theorem joinWith_cons (sep x : String) {ys : List String} (hy : ys ≠ []) :
    joinWith sep (x :: ys) = x ++ sep ++ joinWith sep ys := by
  obtain ⟨y, ys, rfl⟩ := List.exists_cons_of_ne_nil hy
  rfl

theorem joinWith_append (sep : String) {ys : List String} (hy : ys ≠ []) :
    ∀ {xs : List String}, xs ≠ [] → joinWith sep (xs ++ ys) = joinWith sep xs ++ sep ++ joinWith sep ys
  | [x], _ => joinWith_cons sep x hy
  | x :: x' :: xs, _ => by
    have ih : joinWith sep (x' :: xs ++ ys) = _ := joinWith_append sep hy (List.cons_ne_nil x' xs)
    show x ++ sep ++ joinWith sep (x' :: xs ++ ys) = x ++ sep ++ joinWith sep (x' :: xs) ++ sep ++ _
    rw [ih]
    simp only [String.append_assoc]

/-! ## The words of terms -/

namespace Shape

def column : Shape → String
  | .equals column => column
  | .compare column _ => column
  | .member column _ => column

/-- The symbol of a comparison, or of an equality. -/
def symbol : Option Operator → String
  | none => "="
  | some op => op.symbol

/-- The words of the placeholders behind the first, up to the closing bracket. -/
def laterMarks : Nat → List String
  | 0 => ["?)"]
  | n + 1 => "?," :: laterMarks n

/-- The words of placeholders in their brackets. -/
def brackets : Nat → List String
  | 0 => ["()"]
  | 1 => ["(?)"]
  | n + 2 => "(?," :: laterMarks n

/-- The words of the text of a shape, if its column is one word. -/
def words : Shape → List String
  | .equals column => [column, symbol none, "?"]
  | .compare column op => [column, symbol (some op), "?"]
  | .member column count => column :: "IN" :: brackets count

theorem words_ne_nil (s : Shape) : s.words ≠ [] := by
  cases s <;> exact List.cons_ne_nil _ _

theorem laterMarks_ne_nil (n : Nat) : laterMarks n ≠ [] := by
  cases n <;> exact List.cons_ne_nil _ _

theorem brackets_ne_nil (n : Nat) : brackets n ≠ [] := by
  rcases n with _ | _ | n <;> exact List.cons_ne_nil _ _

theorem joinWith_laterMarks : ∀ n : Nat, joinWith " " (laterMarks n) = placeholders (n + 1) ++ ")"
  | 0 => rfl
  | n + 1 => by
    have hmark : placeholders (n + 2) = "?" ++ ", " ++ placeholders (n + 1) := rfl
    have hcomma : "?," ++ " " = "?" ++ ", " := rfl
    rw [laterMarks, joinWith_cons " " _ (laterMarks_ne_nil n), joinWith_laterMarks n, hmark, hcomma]
    simp only [String.append_assoc]

theorem joinWith_brackets (n : Nat) : joinWith " " (brackets n) = "(" ++ placeholders n ++ ")" := by
  match n with
  | 0 => rfl
  | 1 => rfl
  | n + 2 =>
    have hmark : placeholders (n + 2) = "?" ++ ", " ++ placeholders (n + 1) := rfl
    have hopens : "(?," ++ " " = "(" ++ ("?" ++ ", ") := rfl
    rw [brackets, joinWith_cons " " _ (laterMarks_ne_nil n), joinWith_laterMarks, hmark, hopens]
    simp only [String.append_assoc]

/-- The words of a shape make up its text. -/
theorem joinWith_words (s : Shape) : joinWith " " s.words = s.text := by
  cases s with
  | equals column =>
    have hequals : ending none = " " ++ ("=" ++ " " ++ "?") := rfl
    rw [text, hequals, ← String.append_assoc]
    rfl
  | compare column op =>
    have hmark : " ?" = " " ++ "?" := rfl
    show column ++ " " ++ (op.symbol ++ " " ++ "?") = column ++ (" " ++ op.symbol ++ " ?")
    rw [hmark]
    simp only [String.append_assoc]
  | member column count =>
    have hopens : " IN (" = " " ++ ("IN" ++ (" " ++ "(")) := rfl
    rw [words, joinWith_cons " " _ (List.cons_ne_nil _ _), joinWith_cons " " _ (brackets_ne_nil count),
      joinWith_brackets, text, hopens]
    simp only [String.append_assoc]

theorem laterMarks_unbroken : ∀ n : Nat, ∀ w ∈ laterMarks n, Unbroken w
  | 0 => List.forall_mem_singleton.2 (by decide)
  | n + 1 => List.forall_mem_cons.2 ⟨by decide, laterMarks_unbroken n⟩

theorem words_unbroken {s : Shape} (hs : Unbroken s.column) : ∀ w ∈ s.words, Unbroken w := by
  have hsymbol (o : Option Operator) : Unbroken (symbol o) := by
    cases o with
    | none => decide
    | some op => cases op <;> decide
  cases s with
  | equals column | compare column op =>
    refine List.forall_mem_cons.2 ⟨hs, List.forall_mem_cons.2 ⟨hsymbol _, ?_⟩⟩
    exact List.forall_mem_singleton.2 (by decide)
  | member column count =>
    refine List.forall_mem_cons.2 ⟨hs, List.forall_mem_cons.2 ⟨by decide, ?_⟩⟩
    match count with
    | 0 | 1 => exact List.forall_mem_singleton.2 (by decide)
    | n + 2 => exact List.forall_mem_cons.2 ⟨by decide, laterMarks_unbroken n⟩

end Shape

/-- The words of a clause whose terms have these shapes, without its keyword. -/
def clauseWords : List Shape → List String
  | [] => []
  | [s] => s.words
  | s :: t :: rest => s.words ++ "AND" :: clauseWords (t :: rest)

theorem clauseWords_ne_nil (s : Shape) (ss : List Shape) : clauseWords (s :: ss) ≠ [] := by
  cases ss with
  | nil => exact s.words_ne_nil
  | cons t rest => exact List.append_ne_nil_of_left_ne_nil s.words_ne_nil _

theorem joinWith_clauseWords (s : Shape) (ss : List Shape) :
    joinWith " " (clauseWords (s :: ss)) = joinWith " AND " ((s :: ss).map Shape.text) := by
  induction ss generalizing s with
  | nil => exact s.joinWith_words
  | cons t rest ih =>
    have hand : " AND " = " " ++ ("AND" ++ " ") := rfl
    rw [clauseWords, joinWith_append " " (List.cons_ne_nil _ _) s.words_ne_nil,
      joinWith_cons " " _ (clauseWords_ne_nil t rest), ih, s.joinWith_words]
    show s.text ++ " " ++ ("AND" ++ " " ++ _) = s.text ++ " AND " ++ _
    rw [hand]
    simp only [String.append_assoc]
    rfl

theorem clauseWords_unbroken : ∀ {ss : List Shape}, (∀ s ∈ ss, Unbroken s.column) →
    ∀ w ∈ clauseWords ss, Unbroken w
  | [], _ => List.forall_mem_nil _
  | [_], h => Shape.words_unbroken (h _ List.mem_cons_self)
  | _ :: t :: rest, h =>
    List.forall_mem_append.2 ⟨Shape.words_unbroken (h _ List.mem_cons_self),
      List.forall_mem_cons.2 ⟨by decide, clauseWords_unbroken fun s hs => h s (List.mem_cons_of_mem _ hs)⟩⟩

/-! ## Reading words -/

/-- Where a reader stands between the words of a clause. -/
inductive Place where
  /-- Before a column. -/
  | front
  /-- Behind a column. -/
  | column (column : String)
  /-- Before the placeholder of an equality or of a comparison. -/
  | mark (s : Shape)
  /-- Before the brackets of a membership. -/
  | brackets (column : String)
  /-- Behind this many placeholders of a membership. -/
  | inside (column : String) (count : Nat)
  /-- Behind a term. -/
  | behind

/-- Reads the symbol of an equality or of a comparison. -/
def Shape.readSymbol? (w : String) : Option (Option Operator) :=
  (none :: Operator.all.map some).find? fun o => symbol o == w

/-- Reads one word: the place behind it, and the shape of the term if one ends here. The word at the front is
a column, whatever it spells. -/
def Place.read? : Place → String → Option (Place × Option Shape)
  | .front, w => some (.column w, none)
  | .column c, w =>
    if w = "IN" then some (.brackets c, none)
    else (Shape.readSymbol? w).map fun o => (.mark (.comparison c o), none)
  | .mark s, w => if w = "?" then some (.behind, some s) else none
  | .brackets c, w =>
    if w = "()" then some (.behind, some (.member c 0))
    else if w = "(?)" then some (.behind, some (.member c 1))
    else if w = "(?," then some (.inside c 1, none)
    else none
  | .inside c n, w =>
    if w = "?)" then some (.behind, some (.member c (n + 1)))
    else if w = "?," then some (.inside c (n + 1), none)
    else none
  | .behind, w => if w = "AND" then some (.front, none) else none

/-- Reads the shapes of the terms from here to the end, which has to be the end of a term. -/
def readWords? : Place → List String → Option (List Shape)
  | .behind, [] => some []
  | _, [] => none
  | p, w :: ws => do
    let (q, s) ← p.read? w
    let ss ← readWords? q ws
    return s.toList ++ ss

theorem Shape.readSymbol?_symbol (o : Option Operator) : readSymbol? (symbol o) = some o := by
  rcases o with _ | o
  · decide
  · cases o <;> decide

/-- A word inside a term. -/
theorem readWords?_inner {p q : Place} {w : String} (h : p.read? w = some (q, none)) (ws : List String) :
    readWords? p (w :: ws) = readWords? q ws := by
  cases hws : readWords? q ws <;> simp [readWords?, h, hws]

/-- The last word of a term. -/
theorem readWords?_last {p q : Place} {w : String} {s : Shape} (h : p.read? w = some (q, some s)) (ws : List String) :
    readWords? p (w :: ws) = (readWords? q ws).map (s :: ·) := by
  cases hws : readWords? q ws <;> simp [readWords?, h, hws]

theorem Place.read?_symbol (column : String) (o : Option Operator) :
    (Place.column column).read? (Shape.symbol o) = some (.mark (.comparison column o), none) := by
  have hin : Shape.symbol o ≠ "IN" := by
    rcases o with _ | o
    · decide
    · cases o <;> decide
  rw [read?, if_neg hin, Shape.readSymbol?_symbol, Option.map_some]

theorem readWords?_comparison (column : String) (o : Option Operator) (ws : List String) :
    readWords? .front (column :: Shape.symbol o :: "?" :: ws) =
      (readWords? .behind ws).map (.comparison column o :: ·) := by
  rw [readWords?_inner rfl, readWords?_inner (Place.read?_symbol column o)]
  exact readWords?_last rfl ws

theorem readWords?_laterMarks (column : String) (ws : List String) : ∀ n count : Nat,
    readWords? (.inside column count) (Shape.laterMarks n ++ ws) =
      (readWords? .behind ws).map (.member column (count + n + 1) :: ·)
  | 0, count => readWords?_last rfl ws
  | n + 1, count => by
    have ih := readWords?_laterMarks column ws n (count + 1)
    rw [show count + 1 + n + 1 = count + (n + 1) + 1 by omega] at ih
    rw [Shape.laterMarks, List.cons_append, readWords?_inner rfl, ih]

theorem readWords?_brackets (column : String) (count : Nat) (ws : List String) :
    readWords? (.brackets column) (Shape.brackets count ++ ws) =
      (readWords? .behind ws).map (.member column count :: ·) := by
  match count with
  | 0 => exact readWords?_last rfl ws
  | 1 => exact readWords?_last rfl ws
  | n + 2 =>
    have hlater := readWords?_laterMarks column ws n 1
    rw [show 1 + n + 1 = n + 2 by omega] at hlater
    rw [Shape.brackets, List.cons_append, readWords?_inner rfl, hlater]

/-- The words of a term are read as its shape, whatever its column spells. -/
theorem readWords?_words (s : Shape) (ws : List String) :
    readWords? .front (s.words ++ ws) = (readWords? .behind ws).map (s :: ·) := by
  cases s with
  | equals column => exact readWords?_comparison column none ws
  | compare column op => exact readWords?_comparison column (some op) ws
  | member column count =>
    rw [Shape.words, List.cons_append, List.cons_append, readWords?_inner rfl, readWords?_inner rfl]
    exact readWords?_brackets column count ws

/-- The shapes of a clause are read from its words. -/
theorem readWords?_clauseWords (s : Shape) (ss : List Shape) :
    readWords? .front (clauseWords (s :: ss)) = some (s :: ss) := by
  induction ss generalizing s with
  | nil =>
    have h := readWords?_words s []
    rw [List.append_nil] at h
    exact h
  | cons t rest ih =>
    have hand : readWords? .behind ("AND" :: clauseWords (t :: rest)) = some (t :: rest) := by
      rw [readWords?_inner rfl, ih t]
    rw [clauseWords, readWords?_words, hand]
    rfl

/-! ## Reading clauses -/

namespace Clause

/-- Reads the shapes of the terms from the text of a clause with its keyword; the empty text has none. -/
def readShapes? (sql : String) : Option (List Shape) :=
  if sql = "" then some []
  else match words sql with
    | w :: ws => if w = "WHERE" then readWords? .front ws else none
    | [] => none

/-- Reads the terms of a clause from its text and its parameters, all of which have to be taken. -/
def readSql? (sql : String) (params : List Value) : Option (List Term) := do
  let shapes ← readShapes? sql
  readTerms? shapes params

theorem fragments_ofTerms (ts : List Term) :
    (ofTerms ts).fragments = (ts.map Term.shape).map Shape.text := by
  rw [List.map_map]
  exact List.map_congr_left fun t _ => t.fragment_eq

theorem sql_ofTerms {ts : List Term} (hts : ts ≠ []) :
    (ofTerms ts).sql = joinWith " " ("WHERE" :: clauseWords (ts.map Term.shape)) := by
  obtain ⟨t, ts, rfl⟩ := List.exists_cons_of_ne_nil hts
  have hkeyword : "WHERE" ++ " " = "WHERE " := rfl
  show "WHERE " ++ joinWith " AND " (ofTerms (t :: ts)).fragments = _
  rw [fragments_ofTerms, List.map_cons, ← joinWith_clauseWords, joinWith_cons " " _ (clauseWords_ne_nil _ _),
    hkeyword]

theorem sql_eq_empty {ts : List Term} : (ofTerms ts).sql = "" ↔ ts = [] := by
  cases ts with
  | nil => exact iff_of_true rfl rfl
  | cons t ts =>
    refine iff_of_false (fun h => ?_) (List.cons_ne_nil t ts)
    have hlength : ("WHERE " ++ (ofTerms (t :: ts)).text).toList.length = 0 := congrArg (·.toList.length) h
    simp at hlength

/-- The shapes of all terms are read from the text of their clause if no column has a blank. -/
theorem readShapes?_ofTerms {ts : List Term} (hts : ∀ t ∈ ts, Unbroken t.column.display) :
    readShapes? (ofTerms ts).sql = some (ts.map Term.shape) := by
  by_cases hnil : ts = []
  · subst hnil
    rfl
  · have hcolumns : ∀ s ∈ ts.map Term.shape, Unbroken s.column := by
      refine List.forall_mem_map.2 fun t ht => ?_
      have hcolumn : t.shape.column = t.column.display := by cases t <;> rfl
      rw [hcolumn]
      exact hts t ht
    have hwords : words (ofTerms ts).sql = "WHERE" :: clauseWords (ts.map Term.shape) := by
      rw [sql_ofTerms hnil]
      exact words_joinWith (List.cons_ne_nil _ _)
        (List.forall_mem_cons.2 ⟨by decide, clauseWords_unbroken hcolumns⟩)
    obtain ⟨t, ts, rfl⟩ := List.exists_cons_of_ne_nil hnil
    rw [readShapes?, if_neg (mt sql_eq_empty.1 hnil), hwords]
    exact readWords?_clauseWords _ _

/-- The terms of a clause are read from its text and its parameters if no column has a blank. -/
theorem readSql?_ofTerms {ts : List Term} (htextual : ∀ t ∈ ts, t.Textual)
    (hts : ∀ t ∈ ts, Unbroken t.column.display) : readSql? (ofTerms ts).sql (ofTerms ts).params = some ts := by
  rw [readSql?, readShapes?_ofTerms hts]
  exact readTerms?_ofTerms htextual

theorem values_term? {s : Shape} {vs : List Value} {t : Term} (h : s.term? vs = some t) : t.values = vs := by
  cases s with
  | equals column | compare column op =>
    match vs with
    | [v] =>
      cases h
      rfl
    | [] | _ :: _ :: _ => cases h
  | member column count =>
    rw [Shape.term?] at h
    split at h
    · cases h
      rfl
    · cases h

/-- The terms that a reader finds take all parameters, in order. -/
theorem readTerms?_values {ss : List Shape} {params : List Value} {ts : List Term}
    (h : readTerms? ss params = some ts) : ts.flatMap Term.values = params := by
  induction ss generalizing params ts with
  | nil =>
    cases params with
    | nil =>
      cases h
      rfl
    | cons v vs => cases h
  | cons s ss ih =>
    simp only [readTerms?, Option.bind_eq_bind, Option.bind_eq_some_iff, Option.pure_def,
      Option.some.injEq] at h
    obtain ⟨t, ht, us, hus, rfl⟩ := h
    rw [List.flatMap_cons, values_term? ht, ih hus, List.take_append_drop]

theorem readSql?_values {sql : String} {params : List Value} {ts : List Term}
    (h : readSql? sql params = some ts) : ts.flatMap Term.values = params := by
  obtain ⟨ss, -, hss⟩ := Option.bind_eq_some_iff.1 h
  exact readTerms?_values hss

/-- The empty text is read as no term, and takes no parameter. -/
theorem readSql?_empty {params : List Value} {ts : List Term} :
    readSql? "" params = some ts ↔ ts = [] ∧ params = [] := by
  have hshapes : readSql? "" params = readTerms? [] params := rfl
  rw [hshapes]
  cases params with
  | nil => simp [readTerms?, eq_comm]
  | cons v vs => simp [readTerms?]

/-- Texts and equal parameters determine the terms of a clause if no column has a blank. -/
theorem sameAll_iff_sql {ts us : List Term} (hts : ∀ t ∈ ts, t.Textual) (hus : ∀ u ∈ us, u.Textual)
    (hts' : ∀ t ∈ ts, Unbroken t.column.display) (hus' : ∀ u ∈ us, Unbroken u.column.display) :
    (ofTerms ts).sql = (ofTerms us).sql ∧ Value.sameList (ofTerms ts).params (ofTerms us).params = true ↔
      Term.sameAll ts us = true := by
  rw [← same_ofTerms hts hus, same, Bool.and_eq_true, beq_iff_eq]
  refine and_congr_left fun _ => ⟨fun h => ?_, fun h => ?_⟩
  · -- the text tells the shapes, and these the fragments
    have hshapes : ts.map Term.shape = us.map Term.shape := by
      rw [← Option.some_inj, ← readShapes?_ofTerms hts', ← readShapes?_ofTerms hus', h]
    rw [fragments_ofTerms, fragments_ofTerms, hshapes]
  · rw [sql, sql, isEmpty, isEmpty, text, text, h]

end Clause

/-! ## Reading conditions -/

namespace Condition

/-- A proper condition whose columns have no blanks. -/
structure Plain (es : Entries) : Prop extends Proper es where
  unbroken : ∀ e ∈ es, Unbroken e.1.display

/-- The terms of a condition have its columns. -/
theorem terms_columns {es : Entries} {ts : List Term} (h : Proper es) (hts : terms es = .ok ts) :
    ∀ t ∈ ts, ∃ e ∈ es, t.column = e.1 := by
  induction es generalizing ts with
  | nil =>
    cases hts
    exact List.forall_mem_nil _
  | cons e es ih =>
    obtain ⟨column, v⟩ := e
    have hrest : Proper es :=
      ⟨fun e he => h.columns e (List.mem_cons_of_mem _ he), fun e he => h.operators e (List.mem_cons_of_mem _ he)⟩
    obtain ⟨us, hus, hcolumns⟩ := entryTerms_ok column (h.operators _ List.mem_cons_self)
    obtain ⟨us', hus', -⟩ := terms_ok hrest
    rw [terms, hus, hus'] at hts
    cases hts
    refine List.forall_mem_append.2 ⟨fun t ht => ?_, fun t ht => ?_⟩
    · exact ⟨(column, v), List.mem_cons_self, hcolumns t ht⟩
    · obtain ⟨e, he, hcolumn⟩ := ih hrest hus' t ht
      exact ⟨e, List.mem_cons_of_mem _ he, hcolumn⟩

/-- A plain condition is parsed, and compiled to the clause of its terms, whose columns are texts without
blanks. -/
theorem Plain.compiled {es : Entries} (h : Plain es) :
    ∃ ts, parse (.map es) = .ok ts ∧ compile (.map es) = .ok (Clause.ofTerms ts) ∧
      (∀ t ∈ ts, t.Textual) ∧ ∀ t ∈ ts, Unbroken t.column.display := by
  obtain ⟨ts, hts, htextual⟩ := terms_ok h.toProper
  have hparse : parse (.map es) = .ok ts := hts
  refine ⟨ts, hparse, ?_, htextual, fun t ht => ?_⟩
  · rw [compile_map, hparse]
    rfl
  · obtain ⟨e, he, hcolumn⟩ := terms_columns h.toProper hts t ht
    rw [hcolumn]
    exact h.unbroken e he

/-- The text and the parameters of a condition are read back as its terms, and they take all parameters. Only
the empty text belongs to no term, and no two conditions with different terms have the same text and equal
parameters. -/
theorem readSql?_compile {es : Entries} (h : Plain es) :
    ∃ ts c, parse (.map es) = .ok ts ∧ compile (.map es) = .ok c ∧
      Clause.readSql? c.sql c.params = some ts ∧
      (∀ sql params us, Clause.readSql? sql params = some us → us.flatMap Term.values = params) ∧
      (c.sql = "" ↔ ts = []) ∧
      (∀ params us, Clause.readSql? "" params = some us ↔ us = [] ∧ params = []) ∧
      ∀ fs us d, Plain fs → parse (.map fs) = .ok us → compile (.map fs) = .ok d →
        (c.sql = d.sql ∧ Value.sameList c.params d.params = true ↔ Term.sameAll ts us = true) := by
  obtain ⟨ts, hparse, hcompile, htextual, hcolumns⟩ := h.compiled
  refine ⟨ts, .ofTerms ts, hparse, hcompile, Clause.readSql?_ofTerms htextual hcolumns,
    fun sql params us => Clause.readSql?_values, Clause.sql_eq_empty, fun params us => Clause.readSql?_empty,
    fun fs us d hfs hus hd => ?_⟩
  obtain ⟨us', hparse', hcompile', htextual', hcolumns'⟩ := hfs.compiled
  rw [hparse'] at hus
  rw [hcompile'] at hd
  cases hus
  cases hd
  exact Clause.sameAll_iff_sql htextual htextual' hcolumns hcolumns'

/-- Columns that are spelled like the words of a clause, one without any character, and memberships of no value
and of two; and the same condition with an equal value of another type. -/
theorem readSql?_compile_keywords :
    let es : Entries := [(.text "AND", .list []), (.text "", .text "AND"),
      (.text "IN", .tuple [.int 1, .int 2]), (.text "?", .map [(.text "ne", .null), (.text "gt", .int 3)])]
    let fs : Entries := [(.text "AND", .list []), (.text "", .text "AND"),
      (.text "IN", .tuple [.bool true, .int 2]), (.text "?", .map [(.text "ne", .null), (.text "gt", .int 3)])]
    let ts : List Term := [.member (.text "AND") [], .equals (.text "") (.text "AND"),
      .member (.text "IN") [.int 1, .int 2], .compare (.text "?") .ne .null, .compare (.text "?") .gt (.int 3)]
    let sql := "WHERE AND IN () AND  = ? AND IN IN (?, ?) AND ? != ? AND ? > ?"
    let params : List Value := [.text "AND", .int 1, .int 2, .null, .int 3]
    Plain es ∧ Plain fs ∧ parse (.map es) = .ok ts ∧
      (∃ c, compile (.map es) = .ok c ∧ c.sql = sql ∧ c.params = params ∧ Clause.readSql? sql params = some ts) ∧
      ∃ d us, compile (.map fs) = .ok d ∧ parse (.map fs) = .ok us ∧ d.sql = sql ∧ Term.sameAll ts us = true := by
  intro es fs ts sql params
  have plain {v : Value} : Plain [(.text "AND", .list []), (.text "", .text "AND"),
      (.text "IN", .tuple [v, .int 2]), (.text "?", .map [(.text "ne", .null), (.text "gt", .int 3)])] := by
    refine ⟨⟨?_, ?_⟩, ?_⟩
    · simp
    · simp
      rintro _ _ (⟨rfl, rfl⟩ | ⟨rfl, rfl⟩)
      · exact ⟨.ne, rfl⟩
      · exact ⟨.gt, rfl⟩
    · simp [Value.display, Unbroken]
  have hes : Plain es := plain
  have parsed : parse (.map es) = .ok ts := rfl
  have compiled : compile (.map es) = .ok (.ofTerms ts) := rfl
  have compiled' : compile (.map fs) = .ok (.ofTerms [.member (.text "AND") [],
    .equals (.text "") (.text "AND"), .member (.text "IN") [.bool true, .int 2],
    .compare (.text "?") .ne .null, .compare (.text "?") .gt (.int 3)]) := rfl
  obtain ⟨_, _, hts, hc, hread, -, -, -, hinjective⟩ := readSql?_compile hes
  rw [parsed] at hts
  rw [compiled] at hc
  cases hts
  cases hc
  have hsql : (Clause.ofTerms ts).sql = sql := by decide
  rw [hsql] at hread
  refine ⟨hes, plain, parsed, ⟨_, compiled, hsql, rfl, hread⟩, _, _, compiled', rfl, by decide, ?_⟩
  exact (hinjective fs _ _ plain rfl compiled').1 ⟨by decide, by decide +kernel⟩

end Condition

end RecordStore
