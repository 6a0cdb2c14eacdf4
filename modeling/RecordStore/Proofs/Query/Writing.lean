/-
Statements that write and statements that read, told apart by the word they begin with.
-/
import RecordStore.Client.Operation

namespace RecordStore

/-- The words that statements which write begin with. -/
def writingWords : List String := ["CREATE", "INSERT", "UPDATE", "DELETE"]

/-- Whether a text is one of a statement that writes. -/
def writes (sql : String) : Bool := writingWords.any fun word => word.toList.isPrefixOf sql.toList

theorem writes_of_prefix {w sql : String} (hw : w ∈ writingWords)
    (h : w.toList <+: sql.toList) : writes sql = true :=
  List.any_eq_true.2 ⟨w, hw, List.isPrefixOf_iff_prefix.2 h⟩

theorem prefix_append {word s : String} (h : word.toList <+: s.toList) (t : String) :
    word.toList <+: (s ++ t).toList := by
  rw [String.toList_append]
  exact h.trans (List.prefix_append _ _)

/-- A text that begins with a letter that no such word begins with does not write. -/
theorem not_writes {c : Char} {sql : String} (hc : ∀ word ∈ writingWords, word.toList.head? ≠ some c)
    (h : sql.toList.head? = some c) : writes sql = false := by
  refine Bool.eq_false_iff.2 fun hwrites => ?_
  obtain ⟨word, hword, hp⟩ := List.any_eq_true.1 hwrites
  obtain ⟨rest, hrest⟩ := List.isPrefixOf_iff_prefix.1 hp
  have hfirst : ∀ word ∈ writingWords, word.toList.head?.isSome = true := by decide
  obtain ⟨d, hd⟩ := Option.isSome_iff_exists.1 (hfirst word hword)
  have hsql : sql.toList.head? = some d := by rw [← hrest, List.head?_append, hd]; rfl
  exact hc word hword (hd.trans (hsql.symm.trans h))

namespace Statement

/-- The words a text begins with stay when the blanks at its end are dropped. -/
theorem prefix_trimmedEnd {word s : String} (hword : word.toList.all (fun c => !isBlank c) = true)
    (h : word.toList <+: s.toList) : word.toList <+: (trimmedEnd s).toList := by
  have hdrop : ∀ word l : List Char, word.all (fun c => !isBlank c) = true → word <+: l →
      word <+: dropLastWhile isBlank l := by
    intro word
    induction word with
    | nil => exact fun l _ _ => List.nil_prefix
    | cons c word ih =>
      intro l hword hp
      obtain ⟨rest, rfl⟩ := hp
      obtain ⟨hc, hword⟩ := Bool.and_eq_true_iff.1 hword
      have hrest := ih (word ++ rest) hword (List.prefix_append _ _)
      rw [List.cons_append]
      unfold dropLastWhile
      split
      · rename_i hnil
        rw [hnil] at hrest
        obtain rfl := List.prefix_nil.1 hrest
        have hblank : isBlank c = false := by simpa using hc
        simp [hblank]
      · exact List.cons_prefix_cons.2 ⟨rfl, hrest⟩
  rw [trimmedEnd, String.toList_ofList]
  exact hdrop _ _ hword h

theorem createTable_begins (table : Value) (columns : Entries) :
    "CREATE".toList <+: (createTable table columns).sql.toList := by
  have hword : "CREATE".toList <+: "CREATE TABLE IF NOT EXISTS ".toList := by decide
  exact prefix_append (prefix_append (prefix_append (prefix_append hword _) _) _) _

theorem insert_begins (table : Value) (names : List String) (values : List Value) :
    "INSERT".toList <+: (insert table names values).sql.toList := by
  have hword : "INSERT".toList <+: "INSERT INTO ".toList := by decide
  exact prefix_append (prefix_append (prefix_append (prefix_append (prefix_append (prefix_append hword _) _) _) _) _) _

theorem update_begins (table : Value) (columns : List Value) (c : Clause) :
    "UPDATE".toList <+: (updateText table columns c).toList := by
  refine prefix_trimmedEnd (by decide) ?_
  have hword : "UPDATE".toList <+: "UPDATE ".toList := by decide
  exact prefix_append (prefix_append (prefix_append (prefix_append (prefix_append hword _) _) _) _) _

theorem delete_begins (table : Value) (c : Clause) : "DELETE".toList <+: (delete table c).sql.toList := by
  have hword : "DELETE".toList <+: "DELETE FROM ".toList := by decide
  exact prefix_append (prefix_append (prefix_append hword _) _) _

theorem createTable_writes (table : Value) (columns : Entries) : writes (createTable table columns).sql = true :=
  writes_of_prefix (by decide) (createTable_begins table columns)

theorem insert_writes (table : Value) (names : List String) (values : List Value) :
    writes (insert table names values).sql = true :=
  writes_of_prefix (by decide) (insert_begins table names values)

theorem update_writes (table : Value) (columns : List Value) (c : Clause) :
    writes (updateText table columns c) = true :=
  writes_of_prefix (by decide) (update_begins table columns c)

theorem delete_writes (table : Value) (c : Clause) : writes (delete table c).sql = true :=
  writes_of_prefix (by decide) (delete_begins table c)

theorem select_not_writes (table : Value) (c : Clause) (o : QueryOptions) :
    writes (select table c o).sql = false := by
  refine not_writes (c := 'S') (by decide) ?_
  have hword : "SELECT * FROM ".toList.head? = some 'S' := by decide
  show ("SELECT * FROM " ++ table.display ++ filter c ++ ordering o.orderBy ++
    paging o.limit o.offset).toList.head? = _
  simp only [String.toList_append, List.append_assoc]
  rw [List.head?_append, hword]
  rfl

end Statement

end RecordStore
