/-
The page that a query asks for. Behind its table, its clause and its ordering a statement ends in the limit and
the offset, and the end of the text tells them: an end without words asks for all records, and one that skips
records without limiting them has the limit `-1`, which no accepted limit is. So statements that differ in
nothing but their end ask for different pages.
-/
import RecordStore.Proofs.Condition.Reading
import RecordStore.Proofs.Query.Options
import RecordStore.Proofs.Query.Selection

namespace RecordStore

/-- What stands at the end of a query. There is no offset without a limit, and a negative limit is none. -/
structure Page where
  limit : Int
  offset : Option Nat
  deriving DecidableEq, Repr

namespace Page

/-- The words of a page behind the blank that every page starts with. -/
def wording : Option Page → List String
  | none => [""]
  | some ⟨n, none⟩ => ["", "LIMIT", toString n]
  | some ⟨n, some m⟩ => ["", "LIMIT", toString n, "OFFSET", toString m]

def text (p : Option Page) : String := joinWith " " (wording p)

/-- The number that digits stand for. -/
def digits? (cs : List Char) : Option Nat :=
  if cs ≠ [] ∧ cs.all Char.isDigit then some (Nat.ofDigitChars 10 cs 0) else none

/-- The number that digits stand for, behind a minus if it is negative. -/
def number? : List Char → Option Int
  | '-' :: cs => (digits? cs).map fun n => -(n : Int)
  | cs => (digits? cs).map Int.ofNat

/-- Reads a page from the end of a query. -/
def read? (tail : String) : Option (Option Page) :=
  match words tail with
  | [""] => some none
  | ["", "LIMIT", n] => (number? n.toList).map fun n => some ⟨n, none⟩
  | ["", "LIMIT", n, "OFFSET", m] =>
    (number? n.toList).bind fun n => (digits? m.toList).map fun m => some ⟨n, some m⟩
  | _ => none

/-- The limit and the offset that a page stands for. -/
def range : Option Page → Option Nat × Option Nat
  | none => (none, none)
  | some p => (if p.limit < 0 then none else some p.limit.toNat, p.offset)

/-- The page that a limit and an offset are written down as. -/
def ofRange : Option Nat → Option Nat → Option Page
  | none, none => none
  | some n, m => some ⟨n, m⟩
  | none, some m => some ⟨-1, some m⟩

/-! ## Reading a page -/

theorem toString_nat_unbroken (n : Nat) : Unbroken (toString n) :=
  fun hmem => absurd (isDigit_of_mem_toString hmem) (by decide)

/-- A negative number is written as a minus and digits. -/
theorem toList_toString_negSucc (n : Nat) :
    (toString (Int.negSucc n)).toList = '-' :: (toString (n + 1)).toList := by
  show ("-" ++ toString (n + 1)).toList = _
  rw [String.toList_append]
  rfl

theorem toString_int_unbroken (n : Int) : Unbroken (toString n) := by
  cases n with
  | ofNat n => exact toString_nat_unbroken n
  | negSucc n =>
    unfold Unbroken
    rw [toList_toString_negSucc, List.mem_cons]
    rintro (hblank | hmem)
    · exact absurd hblank (by decide)
    · exact toString_nat_unbroken (n + 1) hmem

theorem wording_unbroken (p : Option Page) : ∀ w ∈ wording p, Unbroken w := by
  rcases p with _ | ⟨n, _ | m⟩
  · exact List.forall_mem_singleton.2 (by decide)
  · refine List.forall_mem_cons.2 ⟨by decide, List.forall_mem_cons.2 ⟨by decide, ?_⟩⟩
    exact List.forall_mem_singleton.2 (toString_int_unbroken n)
  · refine List.forall_mem_cons.2 ⟨by decide, List.forall_mem_cons.2 ⟨by decide, ?_⟩⟩
    refine List.forall_mem_cons.2 ⟨toString_int_unbroken n, List.forall_mem_cons.2 ⟨by decide, ?_⟩⟩
    exact List.forall_mem_singleton.2 (toString_nat_unbroken m)

theorem wording_ne_nil (p : Option Page) : wording p ≠ [] := by
  rcases p with _ | ⟨n, _ | m⟩ <;> exact List.cons_ne_nil _ _

theorem digits?_toString (n : Nat) : digits? (toString n).toList = some n := by
  have hdigits : (toString n).toList = Nat.toDigits 10 n := by rw [Nat.toString_eq_repr, Nat.toList_repr]
  have hnil : (toString n).toList ≠ [] := by
    rw [hdigits]
    exact Nat.toDigits_ne_nil
  have hall : (toString n).toList.all Char.isDigit := List.all_eq_true.2 fun c => isDigit_of_mem_toString
  rw [digits?, if_pos ⟨hnil, hall⟩, hdigits, Nat.ofDigitChars_ten_toDigits]

theorem number?_toString (n : Int) : number? (toString n).toList = some n := by
  cases n with
  | ofNat n =>
    show number? (toString n).toList = _
    unfold number?
    split
    · rename_i cs hcs
      -- no digit is a minus
      exact absurd (isDigit_of_mem_toString (hcs ▸ List.mem_cons_self)) (by decide)
    · rw [digits?_toString]
      rfl
  | negSucc n =>
    rw [toList_toString_negSucc, number?, digits?_toString]
    rfl

/-- Every page is read from its own text. -/
theorem read?_text (p : Option Page) : read? (text p) = some p := by
  have hwords : words (text p) = wording p := words_joinWith (wording_ne_nil p) (wording_unbroken p)
  unfold read?
  rw [hwords]
  rcases p with _ | ⟨n, _ | m⟩
  · rfl
  · show (number? (toString n).toList).map _ = _
    rw [number?_toString]
    rfl
  · show (number? (toString n).toList).bind _ = _
    rw [number?_toString, Option.bind_some, digits?_toString]
    rfl

theorem range_ofRange (limit offset : Option Nat) : range (ofRange limit offset) = (limit, offset) := by
  rcases limit with _ | n <;> rcases offset with _ | m
  · rfl
  · rfl
  · simp [ofRange, range]
  · simp [ofRange, range]

theorem ofRange_negative {limit offset : Option Nat} {p : Page} (hp : p ∈ ofRange limit offset)
    (hnegative : p.limit < 0) : p.limit = -1 ∧ limit = none := by
  rcases limit with _ | n <;> rcases offset with _ | m <;> cases hp
  · exact ⟨rfl, rfl⟩
  · simp at hnegative
    omega
  · simp at hnegative
    omega

end Page

/-! ## The end of a query -/

namespace Statement

theorem paging_eq_text (limit offset : Option Nat) : paging limit offset = Page.text (Page.ofRange limit offset) := by
  have hlimit : " LIMIT " = "" ++ " " ++ ("LIMIT" ++ " ") := rfl
  have hoffset : " OFFSET " = " " ++ ("OFFSET" ++ " ") := rfl
  have hminus : " LIMIT -1 OFFSET " = " LIMIT " ++ toString (-1 : Int) ++ " OFFSET " := rfl
  rcases limit with _ | n <;> rcases offset with _ | m
  · rfl
  · show " LIMIT -1 OFFSET " ++ toString m = joinWith " " ["", "LIMIT", toString (-1 : Int), "OFFSET", toString m]
    rw [hminus, hlimit, hoffset]
    simp only [joinWith, String.append_assoc]
  · show " LIMIT " ++ toString n = joinWith " " ["", "LIMIT", toString n]
    rw [hlimit]
    simp only [joinWith, String.append_assoc]
  · show " LIMIT " ++ toString n ++ " OFFSET " ++ toString m =
      joinWith " " ["", "LIMIT", toString n, "OFFSET", toString m]
    rw [hlimit, hoffset]
    simp only [joinWith, String.append_assoc]

theorem read?_paging (limit offset : Option Nat) :
    Page.read? (paging limit offset) = some (Page.ofRange limit offset) := by
  rw [paging_eq_text, Page.read?_text]

/-- Two ends with one text ask for one page. -/
theorem paging_inj {limit limit' offset offset' : Option Nat} (h : paging limit offset = paging limit' offset') :
    limit = limit' ∧ offset = offset' := by
  have hread := congrArg Page.read? h
  rw [read?_paging, read?_paging, Option.some.injEq] at hread
  have hrange := congrArg Page.range hread
  rw [Page.range_ofRange, Page.range_ofRange] at hrange
  exact Prod.mk.inj hrange

/-- An end that has words starts with the limit. -/
theorem paging_limited {limit offset : Option Nat} (h : paging limit offset ≠ "") :
    " LIMIT ".toList <+: (paging limit offset).toList := by
  have hprefix (head tail : String) : head.toList <+: (head ++ tail).toList :=
    ⟨tail.toList, String.toList_append.symm⟩
  have hminus : " LIMIT -1 OFFSET " = " LIMIT " ++ "-1 OFFSET " := rfl
  rcases limit with _ | n <;> rcases offset with _ | m
  · exact absurd rfl h
  · show _ <+: (" LIMIT -1 OFFSET " ++ toString m).toList
    rw [hminus, String.append_assoc]
    exact hprefix _ _
  · exact hprefix _ _
  · show _ <+: (" LIMIT " ++ toString n ++ " OFFSET " ++ toString m).toList
    rw [String.append_assoc, String.append_assoc]
    exact hprefix _ _

end Statement

/-! ## Runs -/

theorem Run.Sends.queryAll_eq {r : Run ScriptedStorage} {i : Nat} {s s' : Statement} (h : r.Sends i .queryAll s)
    (h' : r.Sends i .queryAll s') : s = s' := by
  obtain ⟨v, hv⟩ := h
  obtain ⟨v', hv'⟩ := h'
  exact (StorageCall.queryAll.inj ((hv' _).1 ((hv _).2 rfl))).2

namespace Setup

variable {path : String} {ids : IdSource} {ms : List (Move Value)} {i : Nat} {table condition : Value}
  {raw : RawOptions} {o : QueryOptions} {c : Clause}

theorem play_finds (admits : ((Setup.direct path ids).play ms).Admits i (.find table condition raw))
    (accepted : raw.check = .ok o) (writable : o.writable = true) (compiled : Condition.compile condition = .ok c) :
    ((Setup.direct path ids).play ms).Sends i .queryAll (.select table c o) := by
  have hwritable : (Request.find table condition raw).Writable := fun o' accepted' => by
    rw [accepted, Except.ok.injEq] at accepted'
    exact accepted' ▸ writable
  rw [Statement.select_filter]
  exact play_sends admits (.find accepted) hwritable compiled fun _ _ => nofun

/-- A limit with a digit too many is accepted, but no statement can ask for it. -/
theorem play_finds_long :
    let raw : RawOptions := { limit := .int leastUnwritable }
    let r := (Setup.direct "a.db" fun n => .ok (.int n)).play
      [.start ⟨.connect, []⟩, .turn 0, .start ⟨.find (.text "t") .null raw, []⟩, .turn 0]
    raw.check = .ok { limit := some leastUnwritable } ∧ r.Admits 1 (.find (.text "t") .null raw) ∧
      r.Refuses 1 .tooManyDigits := by
  intro raw r
  have accepted : raw.check = .ok { limit := some leastUnwritable } :=
    RawOptions.check_eq_ok_iff.2 ⟨.unordered, rfl, rfl⟩
  have hlong : ¬QueryOptions.writable { limit := some leastUnwritable } = true := by
    rw [QueryOptions.writable, Option.all_some, Option.all_none, Bool.and_true, hasNumeral_iff]
    exact Nat.lt_irrefl _
  have admits : r.Admits 1 (.find (.text "t") .null raw) := ⟨⟨_, rfl, rfl⟩, Run.mem_entered (by decide +kernel)⟩
  refine ⟨accepted, admits, play_refuses admits rfl fun w => ?_⟩
  simp only [Operation.query, accepted, hlong]
  rfl

/-- A search that waits for the lock behind a closing finds the client closed. -/
theorem play_finds_late :
    let r := (Setup.direct "a.db" fun n => .ok (.int n)).play
      [.start ⟨.connect, []⟩, .turn 0, .start ⟨.find (.text "t") .null {}, [{ ticks := 1 }]⟩,
        .start ⟨.close, []⟩, .start ⟨.find (.text "t") .null { limit := .int 5 }, []⟩,
        .turn 0, .turn 0, .turn 0, .turn 0, .turn 0, .turn 0]
    (∃ job, r.jobs[3]? = some job ∧ job.request = .find (.text "t") .null { limit := .int 5 }) ∧
      (3, .began .connected) ∈ r.history ∧ r.Refuses 3 .notConnected := by
  intro r
  have own : eventsOf 3 r.history = [.began .connected, .entered .closed, .replied ⟨.error .notConnected, none⟩] := rfl
  refine ⟨⟨_, rfl, rfl⟩, ?_, fun reply => ?_, fun k => ?_⟩
  · rw [← mem_eventsOf, own]
    exact List.mem_cons_self
  · rw [← mem_eventsOf, own]
    simp
  · rw [← mem_eventsOf, own]
    simp

/-- In every run, a search on a connected client, with options that are accepted and can be written and a condition
that compiles, sends its table, its clause if it has terms, its ordering as it was given, and an end from which
the limit and the offset are read back. The offset does not stand there without a limit, and the limit is not
negative but where none was given. Searches that differ in nothing but limit and offset send different
statements. -/
theorem play_pages (admits : ((Setup.direct path ids).play ms).Admits i (.find table condition raw))
    (accepted : raw.check = .ok o) (writable : o.writable = true) (compiled : Condition.compile condition = .ok c) :
    (raw.orderBy.Orders o.orderBy ∧ raw.limit = .ofCount o.limit ∧ raw.offset = .ofCount o.offset) ∧
    (∃ tail,
      ((Setup.direct path ids).play ms).Sends i .queryAll
        ⟨"SELECT * FROM " ++ table.display ++ (if c.isEmpty then "" else " " ++ c.sql) ++
          (match o.orderBy with
            | none => ""
            | some s => " ORDER BY " ++ s) ++ tail, c.params⟩ ∧
      tail = (match o.limit, o.offset with
        | none, none => ""
        | some n, none => " LIMIT " ++ toString n
        | some n, some m => " LIMIT " ++ toString n ++ " OFFSET " ++ toString m
        | none, some m => " LIMIT -1 OFFSET " ++ toString m) ∧
      (∃ page, Page.read? tail = some page ∧ Page.text page = tail ∧ Page.range page = (o.limit, o.offset) ∧
        ∀ p ∈ page, p.limit < 0 → p.limit = -1 ∧ o.limit = none) ∧
      ("OFFSET".toList <:+: tail.toList → " LIMIT ".toList <+: tail.toList)) ∧
    ∀ path' ids' ms' j limit offset o' s s',
      ((Setup.direct path' ids').play ms').Admits j
        (.find table condition { raw with limit := limit, offset := offset }) →
      RawOptions.check { raw with limit := limit, offset := offset } = .ok o' → o'.writable = true →
      ((Setup.direct path ids).play ms).Sends i .queryAll s →
      ((Setup.direct path' ids').play ms').Sends j .queryAll s' →
      s.sql = s'.sql → limit = raw.limit ∧ offset = raw.offset := by
  have hsends := play_finds admits accepted writable compiled
  obtain ⟨horder, hlimit, hoffset⟩ := RawOptions.check_eq_ok_iff.1 accepted
  refine ⟨⟨horder, hlimit, hoffset⟩, ⟨Statement.paging o.limit o.offset, ?_, ?_, ?_, ?_⟩, ?_⟩
  · obtain ⟨order, _, _⟩ := o
    cases order <;> exact hsends
  · obtain ⟨_, limit, offset⟩ := o
    cases limit <;> cases offset <;> rfl
  · exact ⟨_, Statement.read?_paging _ _, (Statement.paging_eq_text _ _).symm, Page.range_ofRange _ _,
      fun p hp => Page.ofRange_negative hp⟩
  · intro hinfix
    refine Statement.paging_limited fun hempty => ?_
    rw [hempty] at hinfix
    exact absurd (List.infix_nil.1 hinfix) (by decide)
  · intro path' ids' ms' j limit offset o' s s' admits' accepted' writable' hs hs' hsql
    obtain ⟨horder', hlimit', hoffset'⟩ := RawOptions.check_eq_ok_iff.1 accepted'
    have hsame : o'.orderBy = o.orderBy := by
      rw [← RawOptions.optional_asOrder_iff] at horder horder'
      exact Except.ok.inj (horder'.symm.trans horder)
    obtain rfl := hs.queryAll_eq hsends
    obtain rfl := hs'.queryAll_eq (play_finds admits' accepted' writable' compiled)
    rw [Statement.select_filter, Statement.select_filter, hsame] at hsql
    have hend := (String.append_right_inj _).1 ((String.append_right_inj _).1 hsql)
    obtain ⟨hl, ho⟩ := Statement.paging_inj hend
    rw [hlimit, hoffset, hl, ho]
    exact ⟨hlimit', hoffset'⟩

/-- One search takes no record, and the other one skips none. Neither zero is left out. -/
theorem play_pages_zero :
    let r (raw : RawOptions) := (Setup.direct "a.db" fun n => .ok (.int n)).play
      [.start ⟨.connect, []⟩, .turn 0, .start ⟨.find (.text "t") .null raw, []⟩, .turn 0]
    (r { limit := .int 0 }).Sends 1 .queryAll ⟨"SELECT * FROM t LIMIT 0", []⟩ ∧
      (r { orderBy := .text "b ", offset := .int 0 }).Sends 1 .queryAll
        ⟨"SELECT * FROM t ORDER BY b  LIMIT -1 OFFSET 0", []⟩ := by
  intro r
  have admits (raw : RawOptions) (entered : (r raw).history[7]? = some (1, .entered .connected)) :
      (r raw).Admits 1 (.find (.text "t") .null raw) :=
    ⟨⟨_, rfl, rfl⟩, List.mem_of_getElem? entered⟩
  constructor
  · obtain ⟨-, ⟨tail, hsends, rfl, -⟩, -⟩ := play_pages (o := ⟨none, some 0, none⟩) (c := {})
      (admits { limit := .int 0 } rfl) rfl rfl rfl
    exact hsends
  · obtain ⟨-, ⟨tail, hsends, rfl, -⟩, -⟩ := play_pages (o := ⟨some "b ", none, some 0⟩) (c := {})
      (admits { orderBy := .text "b ", offset := .int 0 } rfl) rfl rfl rfl
    exact hsends

/-- A limit with a digit too many is accepted, but the search sends nothing. Nor does a search that began on a
connected client and finds it closed when it obtains the lock. -/
theorem not_pages :
    let r (ms : List (Move Value)) := (Setup.direct "a.db" fun n => .ok (.int n)).play ms
    let raw : RawOptions := { limit := .int leastUnwritable }
    let long := r [.start ⟨.connect, []⟩, .turn 0, .start ⟨.find (.text "t") .null raw, []⟩, .turn 0]
    let late := r [.start ⟨.connect, []⟩, .turn 0, .start ⟨.find (.text "t") .null {}, [{ ticks := 1 }]⟩,
      .start ⟨.close, []⟩, .start ⟨.find (.text "t") .null { limit := .int 5 }, []⟩,
      .turn 0, .turn 0, .turn 0, .turn 0, .turn 0, .turn 0]
    Condition.compile .null = .ok {} ∧
      (raw.check = .ok { limit := some leastUnwritable } ∧ long.Admits 1 (.find (.text "t") .null raw) ∧
        long.Refuses 1 .tooManyDigits ∧ ∀ s, ¬long.Sends 1 .queryAll s) ∧
      RawOptions.check { limit := .int 5 } = .ok { limit := some 5 } ∧ (3, .began .connected) ∈ late.history ∧
        late.Refuses 3 .notConnected ∧ ∀ s, ¬late.Sends 3 .queryAll s := by
  intro r raw long late
  obtain ⟨accepted, admits, hlong⟩ := play_finds_long
  obtain ⟨-, began, hlate⟩ := play_finds_late
  exact ⟨rfl, ⟨accepted, admits, hlong, fun _ => hlong.not_sends⟩, rfl, began, hlate, fun _ => hlate.not_sends⟩

end Setup

end RecordStore
