/-
Shapes of terms. The shape of a term is its form, its column, its operator and the number of its
values, and its fragment tells no more and no less: `Shape.read?` reads a shape back from its text,
whatever text the column is. It reads from the end, where a membership has its placeholders in
brackets and no ending of a comparison ends as another one does.
-/
import RecordStore.Condition.Clause

namespace RecordStore

/-- A term without its values. -/
inductive Shape where
  | equals (column : String)
  | compare (column : String) (op : Operator)
  | member (column : String) (count : Nat)
  deriving DecidableEq, Repr

/-- The shape of a term. -/
def Term.shape : Term → Shape
  | .equals c _ => .equals c.display
  | .compare c op _ => .compare c.display op
  | .member c vs => .member c.display vs.length

namespace Shape

/-- How many values a term of this shape binds. -/
def arity : Shape → Nat
  | .equals _ => 1
  | .compare _ _ => 1
  | .member _ count => count

/-- What stands behind the column in the text of a comparison, or of an equality. -/
def ending : Option Operator → String
  | none => " = ?"
  | some op => " " ++ op.symbol ++ " ?"

/-- The comparison of a column by an operator, or its equality without one. -/
def comparison (column : String) : Option Operator → Shape
  | none => .equals column
  | some op => .compare column op

/-- The text of a term of this shape. -/
def text : Shape → String
  | .equals column => column ++ ending none
  | .compare column op => column ++ ending (some op)
  | .member column count => column ++ " IN (" ++ placeholders count ++ ")"

/-! ## Reading -/

/-- What stands before an ending. -/
def stripEnd? (ending text : List Char) : Option (List Char) :=
  if ending.isSuffixOf text then some (text.take (text.length - ending.length)) else none

/-- Reads an equality or a comparison. -/
def readComparison? (text : List Char) : Option Shape :=
  (none :: Operator.all.map some).findSome? fun op =>
    (stripEnd? (ending op).toList text).map fun column => comparison (String.ofList column) op

/-- Reads a membership without its closing bracket: what follows the last opening bracket are its
placeholders. -/
def readMember? (text : List Char) : Option Shape :=
  let inside := text.reverse.takeWhile (· ≠ '(')
  let before := text.reverse.dropWhile (· ≠ '(')
  (stripEnd? " IN (".toList before.reverse).map fun column =>
    .member (String.ofList column) (inside.count '?')

/-- Reads a shape from its text. -/
def read? (text : String) : Option Shape :=
  match stripEnd? [')'] text.toList with
  | some text => readMember? text
  | none => readComparison? text.toList

theorem stripEnd?_append (ending text : List Char) : stripEnd? ending (text ++ ending) = some text := by
  simp [stripEnd?]

/-- A text does not end in two ways of which neither is an ending of the other. -/
theorem stripEnd?_apart {ending ending' : List Char} (h : ¬ ending <:+ ending')
    (h' : ¬ ending' <:+ ending) (text : List Char) : stripEnd? ending (text ++ ending') = none := by
  have hn : ¬ ending <:+ text ++ ending' := by
    intro hs
    rcases List.suffix_or_suffix_of_suffix hs (List.suffix_append text ending') with hs | hs
    · exact h hs
    · exact h' hs
  simp [stripEnd?, hn]

/-- No ending of a comparison ends as another one does. -/
theorem ending_apart {o o' : Option Operator} (h : (ending o).toList <:+ (ending o').toList) :
    o = o' := by
  revert h
  rcases o with _ | o <;> rcases o' with _ | o'
  · exact fun _ => rfl
  · cases o' <;> decide
  · cases o <;> decide
  · cases o <;> cases o' <;> decide

theorem readComparison?_ending (column : String) (o : Option Operator) :
    readComparison? (column.toList ++ (ending o).toList) = some (comparison column o) := by
  have hmem : o ∈ none :: Operator.all.map some := by
    rcases o with _ | o
    · exact List.mem_cons_self
    · cases o <;> decide
  obtain ⟨before, after, hsplit, hbefore⟩ := List.eq_append_cons_of_mem hmem
  refine List.findSome?_eq_some_iff.2 ⟨before, o, after, hsplit, ?_, fun o' ho' => ?_⟩
  · rw [stripEnd?_append, Option.map_some, String.ofList_toList]
  · have hne : o' ≠ o := fun h => hbefore (h ▸ ho')
    rw [stripEnd?_apart (fun h => hne (ending_apart h)) (fun h => hne (ending_apart h).symm)]
    rfl

theorem placeholders_succ (n : Nat) :
    (placeholders (n + 2)).toList = ['?', ',', ' '] ++ (placeholders (n + 1)).toList := by
  show ("?" ++ ", " ++ placeholders (n + 1)).toList = _
  simp [String.toList_append]

theorem placeholders_noBracket : ∀ (n : Nat), ∀ ch ∈ (placeholders n).toList, ch ≠ '('
  | 0 => by
    have hnone : (placeholders 0).toList = [] := rfl
    simp [hnone]
  | 1 => by
    have hone : (placeholders 1).toList = ['?'] := rfl
    simp [hone]
  | n + 2 => by
    intro ch hch
    rw [placeholders_succ] at hch
    rcases List.mem_append.1 hch with hch | hch
    · have hfirst : ∀ ch ∈ ['?', ',', ' '], ch ≠ '(' := by simp
      exact hfirst ch hch
    · exact placeholders_noBracket (n + 1) ch hch

theorem count_placeholders : ∀ n : Nat, (placeholders n).toList.count '?' = n
  | 0 => by decide
  | 1 => by decide
  | n + 2 => by
    rw [placeholders_succ, List.count_append, count_placeholders (n + 1)]
    have hmark : ['?', ',', ' '].count '?' = 1 := by decide
    omega

theorem readMember?_text (column : String) (n : Nat) :
    readMember? (column.toList ++ " IN (".toList ++ (placeholders n).toList) =
      some (.member column n) := by
  have hinside : ∀ ch ∈ (placeholders n).toList.reverse, decide (ch ≠ '(') = true := by
    intro ch hch
    exact decide_eq_true (placeholders_noBracket n ch (List.mem_reverse.1 hch))
  have hbefore : (column.toList ++ " IN (".toList).reverse =
      '(' :: (column.toList ++ [' ', 'I', 'N', ' ']).reverse := by simp
  -- backwards, the placeholders go up to the bracket that opens them
  have hback : ('(' :: (column.toList ++ [' ', 'I', 'N', ' ']).reverse).reverse =
      column.toList ++ " IN (".toList := by simp
  unfold readMember?
  dsimp only
  rw [List.reverse_append, List.takeWhile_append_of_pos hinside, List.dropWhile_append_of_pos hinside,
    hbefore, List.takeWhile_cons_of_neg (by decide), List.dropWhile_cons_of_neg (by decide), hback,
    stripEnd?_append, List.append_nil, List.count_reverse, count_placeholders, Option.map_some,
    String.ofList_toList]

/-- Every shape is read back from its text. -/
theorem read?_text (s : Shape) : read? s.text = some s := by
  have hcomparison (column : String) (o : Option Operator) :
      stripEnd? [')'] (column.toList ++ (ending o).toList) = none := by
    refine stripEnd?_apart ?_ ?_ _ <;> rcases o with _ | o
    · decide
    · cases o <;> decide
    · decide
    · cases o <;> decide
  unfold read?
  cases s with
  | equals column =>
    simp only [text, String.toList_append, hcomparison]
    exact readComparison?_ending column none
  | compare column op =>
    simp only [text, String.toList_append, hcomparison]
    exact readComparison?_ending column (some op)
  | member column n =>
    have hclosing : (text (.member column n)).toList =
        (column.toList ++ " IN (".toList ++ (placeholders n).toList) ++ [')'] := by
      simp [text, String.toList_append]
    rw [hclosing, stripEnd?_append]
    exact readMember?_text column n

end Shape

theorem Term.fragment_eq (t : Term) : t.fragment = t.shape.text := by
  cases t with
  | equals c v => rfl
  | compare c op v => simp [fragment, shape, Shape.text, Shape.ending, String.append_assoc]
  | member c vs => rfl

/-- The fragments of two terms agree exactly if their shapes do. -/
theorem Term.fragment_inj {t u : Term} : t.fragment = u.fragment ↔ t.shape = u.shape := by
  rw [fragment_eq, fragment_eq]
  constructor
  · intro h
    exact Option.some.inj ((Shape.read?_text t.shape).symm.trans ((congrArg _ h).trans (Shape.read?_text _)))
  · exact congrArg Shape.text

theorem Term.length_values (t : Term) : t.values.length = t.shape.arity := by
  cases t <;> rfl

end RecordStore
