/-
Creations. A record without an identifier, or with a null one, is given a drawn identifier before anything is
asked of the storage, so it stays changed whatever becomes of the insertion. Everything later goes by the
changed record: the columns and the values of the insertion, and the answer.
-/
import RecordStore.Proofs.Lifecycle.Arguments

namespace RecordStore

/-! ## Entries -/

namespace Value

variable {α : Type} {k : Value} {v : α} {es : List (Value × α)}

theorem lookup?_cons (k k' : Value) (v' : α) (es : List (Value × α)) :
    lookup? k ((k', v') :: es) = if k'.same k then some v' else lookup? k es := by
  cases h : k'.same k <;> simp [lookup?, h]

/-- A key that is not there gets a new last entry. -/
theorem put_of_none (h : lookup? k es = none) : put k v es = es ++ [(k, v)] := by
  induction es with
  | nil => rfl
  | cons e es ih =>
    obtain ⟨k', v'⟩ := e
    rw [lookup?_cons] at h
    cases hk : k'.same k with
    | true => simp [hk] at h
    | false =>
      rw [hk, if_neg Bool.false_ne_true] at h
      rw [put, hk, if_neg Bool.false_ne_true, ih h, List.cons_append]

/-- A key that is there keeps its place. -/
theorem put_of_some {v' : α} (h : lookup? k es = some v') :
    ∃ before k' after, es = before ++ (k', v') :: after ∧ k'.same k = true ∧ lookup? k before = none ∧
      put k v es = before ++ (k', v) :: after := by
  induction es with
  | nil => cases h
  | cons e es ih =>
    obtain ⟨k', w⟩ := e
    rw [lookup?_cons] at h
    cases hk : k'.same k with
    | true =>
      rw [hk, if_pos rfl] at h
      cases h
      exact ⟨[], k', es, rfl, hk, rfl, by rw [put, hk, if_pos rfl]; rfl⟩
    | false =>
      rw [hk, if_neg Bool.false_ne_true] at h
      obtain ⟨before, k'', after, rfl, hsame, hbefore, hput⟩ := ih h
      refine ⟨(k', w) :: before, k'', after, rfl, hsame, ?_, ?_⟩
      · rw [lookup?_cons, hk, if_neg Bool.false_ne_true, hbefore]
      · rw [put, hk, if_neg Bool.false_ne_true, hput]
        rfl

/-- What is put at a key is found there. -/
theorem lookup?_put (hk : k.same k = true) (v : α) (es : List (Value × α)) : lookup? k (put k v es) = some v := by
  induction es with
  | nil => rw [put, lookup?_cons, if_pos hk]
  | cons e es ih =>
    obtain ⟨k', w⟩ := e
    rw [put]
    cases h : k'.same k with
    | true => rw [if_pos rfl, lookup?_cons, if_pos h]
    | false => rw [if_neg Bool.false_ne_true, lookup?_cons, h, if_neg Bool.false_ne_true, ih]

/-- The value at a text among keys that are texts, by the place of the text. -/
theorem getElem?_of_lookup? {s : String} {es : Entries} {names : List String} {x : Value}
    (hnames : es.map Prod.fst = names.map .text) (h : lookup? (.text s) es = some x) :
    names[names.idxOf s]? = some s ∧ (es.map Prod.snd)[names.idxOf s]? = some x := by
  induction es generalizing names with
  | nil => cases h
  | cons e es ih =>
    obtain ⟨k', v'⟩ := e
    cases names with
    | nil => cases hnames
    | cons t names =>
      obtain ⟨rfl, htail⟩ := List.cons.inj hnames
      have hsame : (text t).same (text s) = (t == s) := by simp [same]
      rw [lookup?_cons, hsame] at h
      rw [List.idxOf_cons]
      cases ht : t == s with
      | true =>
        rw [ht, if_pos rfl] at h
        rw [eq_of_beq ht]
        exact ⟨rfl, h⟩
      | false =>
        rw [ht, if_neg Bool.false_ne_true] at h
        exact ih htail h

end Value

namespace Operation

/-- The record has no identifier, or a null one. -/
def Lacks (record : Entries) : Prop :=
  Value.lookup? idKey record = none ∨ Value.lookup? idKey record = some .null

/-- What becomes of a record, by the identifiers that were drawn for it. A drawn identifier is appended, or it
takes the place of the null. -/
inductive Leaves (record : Entries) : List (Except Fault Value) → Entries → Prop where
  | kept : Leaves record [] record
  | undrawn (f : Fault) : Leaves record [.error f] record
  | appended (id : Value) : Value.lookup? idKey record = none → Leaves record [.ok id] (record ++ [(idKey, id)])
  | filled (id : Value) {before after : Entries} : record = before ++ (idKey, .null) :: after →
    Value.lookup? idKey before = none → Leaves record [.ok id] (before ++ (idKey, id) :: after)

theorem isNull_identifier {record : Entries} : (identifier record).isNull = true ↔ Lacks record := by
  unfold identifier Lacks
  cases h : Value.lookup? idKey record with
  | none => simp [Value.isNull]
  | some v => cases v <;> simp [Value.isNull]

/-- The keys of the record are texts. -/
def Named (record : Entries) : Prop := ∀ e ∈ record, ∃ s, e.1 = .text s

theorem leaves_put {record : Entries} (hnamed : Named record) (hlacks : Lacks record) (id : Value) :
    Leaves record [.ok id] (Value.put idKey id record) := by
  rcases hlacks with hnone | hnull
  · rw [Value.put_of_none hnone]
    exact .appended id hnone
  · obtain ⟨before, k, after, rfl, hsame, hbefore, hput⟩ := Value.put_of_some (v := id) hnull
    obtain ⟨s, hs⟩ : ∃ s, k = .text s := hnamed (k, .null) (by simp)
    subst hs
    obtain rfl : s = "id" := by simpa [Value.same, idKey] using hsame
    rw [hput]
    exact .filled id rfl hbefore

/-! ## Insertions -/

/-- What an insertion of a record goes through, and how it ends. -/
structure Inserting (handle table : Value) (record : Entries) (es : List (Event Storage)) (a : Ending) : Prop where
  inner : ∀ e ∈ es, e.Inner
  undrawn : ∀ x, .drew x ∉ es
  data : a.reply.data = some (.map record)
  sent : ∀ v s, .called (.execute v s) ∈ es →
    ∃ names, columnNames record = .ok names ∧ s = .insert table names (record.map Prod.snd)
  returned : ∀ x, a.reply.result = .ok x → x = identifier record ∧ ∃ v s, .called (.execute v s) ∈ es

theorem insert_inserting {handle table : Value} {record : Entries} {es : List (Event Storage)} {a : Ending}
    (h : (insert handle table record).Ends es a) : Inserting handle table record es a := by
  have hinner := h.inner
  unfold insert at h
  dsimp only at h
  cases hnames : columnNames record with
  | error e =>
    rw [hnames] at h
    obtain ⟨rfl, rfl⟩ := h
    exact ⟨hinner, by simp, rfl, by simp, nofun⟩
  | ok names =>
    rw [hnames] at h
    obtain ⟨inserted, es, rfl, h⟩ := h
    -- behind the insertion, nothing but the reading back is called
    have hsent {es : List (Event Storage)} (hes : ∀ v s, .called (.execute v s) ∉ es) : ∀ v s,
        .called (.execute v s) ∈ .called (.execute handle (.insert table names (record.map Prod.snd))) ::
          .answered (.execute handle (.insert table names (record.map Prod.snd))) inserted :: es →
        ∃ names, columnNames record = .ok names ∧ s = .insert table names (record.map Prod.snd) := by
      intro v s hs
      simp only [List.mem_cons, Event.called.injEq, StorageCall.execute.injEq, reduceCtorEq, hes v s, or_false] at hs
      exact ⟨names, hnames, hs.2⟩
    cases inserted with
    | error f =>
      obtain ⟨rfl, rfl⟩ := h
      exact ⟨hinner, by simp, rfl, hsent (by simp), nofun⟩
    | ok n =>
      dsimp only at h
      cases hcompile : Condition.compile (.map [(idKey, identifier record)]) with
      | error e =>
        rw [hcompile] at h
        obtain ⟨rfl, rfl⟩ := h
        exact ⟨hinner, by simp, rfl, hsent (by simp), nofun⟩
      | ok c =>
        rw [hcompile] at h
        obtain ⟨r, es, rfl, h⟩ := h
        cases r with
        | error f =>
          obtain ⟨rfl, rfl⟩ := h
          exact ⟨hinner, by simp, rfl, hsent (by simp), nofun⟩
        | ok found =>
          obtain ⟨rfl, rfl⟩ := h
          refine ⟨hinner, by simp, rfl, hsent (by simp), fun x hx => ?_⟩
          dsimp only at hx
          split at hx
          · cases hx
          · cases hx
            exact ⟨rfl, handle, _, List.mem_cons_self⟩

end Operation

/-- The statement inserts a record under these column names. -/
structure Statement.Inserts (table : Value) (names : List String) (record : Entries) (s : Statement) : Prop where
  columns : record.map Prod.fst = names.map .text
  sql : s.sql = "INSERT INTO " ++ table.display ++ " (" ++ joinWith ", " names ++ ") VALUES (" ++
    placeholders names.length ++ ")"
  params : s.params = record.map Prod.snd

theorem Statement.insert_inserts {table : Value} {record : Entries} {names : List String}
    (h : Operation.columnNames record = .ok names) :
    (insert table names (record.map Prod.snd)).Inserts table names record := by
  have hnames := textsToJoin_ok h
  refine ⟨hnames, ?_, rfl⟩
  have hlength : (record.map Prod.snd).length = names.length := by
    simpa using congrArg List.length hnames
  show _ ++ placeholders (record.map Prod.snd).length ++ ")" = _
  rw [hlength]

/-! ## Courses -/

/-- What the source of identifiers came to whenever it was asked. -/
def draws (es : List (Event Storage)) : List (Except Fault Value) :=
  es.filterMap fun
    | .drew x => some x
    | _ => none

theorem draws_append (es fs : List (Event Storage)) : draws (es ++ fs) = draws es ++ draws fs :=
  List.filterMap_append

theorem draws_eq_nil {es : List (Event Storage)} (h : ∀ x, .drew x ∉ es) : draws es = [] := by
  refine List.filterMap_eq_nil_iff.2 fun e he => ?_
  cases e with
  | drew x => exact absurd he (h x)
  | _ => rfl

theorem mem_draws {x : Except Fault Value} {es : List (Event Storage)} : x ∈ draws es ↔ .drew x ∈ es := by
  rw [draws, List.mem_filterMap]
  constructor
  · rintro ⟨e, he, hx⟩
    cases e with
    | drew y => exact Option.some.inj hx ▸ he
    | _ => cases hx
  · exact fun hx => ⟨_, hx, rfl⟩

/-- What a creation of a record has done so far, and the record that it has left by then. -/
structure Created (table : Value) (record : Entries) (es : List (Event Storage)) (final : Entries) : Prop where
  /-- The source of identifiers is asked once if the client is connected and the record lacks its identifier. -/
  drawn : .entered .connected ∈ es → Operation.Lacks record → ∃ x, draws es = [x]
  undrawn : ¬ (.entered .connected ∈ es ∧ Operation.Lacks record) → draws es = []
  /-- It is asked before anything else. -/
  first : ∀ x, .drew x ∈ es → ∃ fs, es = .began .connected :: .entered .connected :: .drew x :: fs
  leaves : Operation.Leaves record (draws es) final
  /-- With whatever result the creation ends, this is the record it leaves behind. -/
  data : ∀ reply, .replied reply ∈ es → reply.data = some (.map final)
  quiet : .entered .connected ∉ es ∨ (∃ f, draws es = [.error f]) → ∀ k, .called k ∉ es
  sent : ∀ v s, .called (.execute v s) ∈ es → ∃ names, s.Inserts table names final
  /-- The answer is the identifier of the record as it was bound in the insertion. -/
  returned : ∀ reply x, .replied reply ∈ es → reply.result = .ok x → Value.lookup? Operation.idKey final = some x ∧
    ∃ (v : Value) (s : Statement) (names : List String) (p : Nat), .called (.execute v s) ∈ es ∧
      s.Inserts table names final ∧ names[p]? = some "id" ∧ s.params[p]? = some x

namespace Operation

variable {handle table : Value} {record : Entries} {es : List (Event Storage)} {a : Ending}

/-- A creation that ends with the insertion of the record that it has left, which has an identifier by then. -/
theorem Inserting.created {final : Entries} {xs : List (Except Fault Value)} (h : Inserting handle table final es a)
    (hleaves : Leaves record xs final) (hlacks : Lacks record ∧ (∃ id, xs = [.ok id]) ∨ ¬ Lacks record ∧ xs = [])
    {id : Value} (hid : Value.lookup? idKey final = some id) :
    Created table record (.began .connected :: .entered .connected :: (xs.map .drew ++ es ++ a.events)) final := by
  have hlast (x : Except Fault Value) : .drew x ∉ a.events (B := Storage) := by simp [Ending.events]
  have hreplied (reply : Reply) : .replied reply ∈ xs.map .drew ++ es ++ a.events → reply = a.reply := by
    have hes : .replied reply ∉ es := fun hmem => h.inner _ hmem
    simp [Ending.events, hes]
  have hdraws : draws (.began .connected :: .entered .connected :: (xs.map .drew ++ es ++ a.events)) = xs := by
    have hxs : draws (xs.map .drew) = xs := by
      rw [draws, List.filterMap_map]
      exact List.filterMap_some
    have hcons (ys : List (Event Storage)) :
        draws (.began .connected :: .entered .connected :: ys) = draws ys := rfl
    rw [hcons, draws_append, draws_append, hxs, draws_eq_nil h.undrawn, draws_eq_nil hlast, List.append_nil,
      List.append_nil]
  refine ⟨fun _ hrecord => ?_, fun hnot => ?_, fun x hx => ?_, hdraws.symm ▸ hleaves, fun reply hreply => ?_, ?_,
    fun v s hs => ?_, fun reply x hreply hx => ?_⟩
  · rcases hlacks with ⟨-, id, hxs⟩ | ⟨hsupplied, -⟩
    · exact ⟨_, hdraws.trans hxs⟩
    · exact absurd hrecord hsupplied
  · rcases hlacks with ⟨hrecord, -⟩ | ⟨-, hxs⟩
    · exact absurd ⟨by simp, hrecord⟩ hnot
    · exact hdraws.trans hxs
  · have hmem : x ∈ xs := by simpa [hlast, h.undrawn] using hx
    rcases hlacks with ⟨-, id, rfl⟩ | ⟨-, rfl⟩
    · obtain rfl := List.mem_singleton.1 hmem
      exact ⟨es ++ a.events, rfl⟩
    · cases hmem
  · rw [hreplied reply (by simpa using hreply)]
    exact h.data
  · rintro (hnot | ⟨f, hf⟩)
    · exact absurd (by simp) hnot
    · rw [hdraws] at hf
      rcases hlacks with ⟨-, id, rfl⟩ | ⟨-, rfl⟩ <;> cases hf
  · obtain ⟨names, hnames, rfl⟩ := h.sent v s (by simpa [Ending.events] using hs)
    exact ⟨names, Statement.insert_inserts hnames⟩
  · rw [hreplied reply (by simpa using hreply)] at hx
    obtain ⟨rfl, v, s, hs⟩ := h.returned x hx
    obtain ⟨names, hnames, rfl⟩ := h.sent v s hs
    have hfinal : identifier final = id := by rw [identifier, hid, Option.getD_some]
    obtain ⟨hplace, hbound⟩ := Value.getElem?_of_lookup? (textsToJoin_ok hnames) hid
    rw [hfinal]
    exact ⟨hid, v, _, names, _, by simp [hs], Statement.insert_inserts hnames, hplace, hbound⟩

/-- How a creation ends that has entered on a connected client. It draws an identifier if the record lacks one,
and goes on with the record that this leaves. -/
theorem create_ends (hnamed : Named record) :
    (create table (.map record)).BodyEnds fun _ es a => ∃ final,
      Created table record (.began .connected :: .entered .connected :: (es ++ a.events)) final := by
  intro handle es a hends
  dsimp only [Value.entries?] at hends
  split at hends
  · rename_i hnull
    have hrecord := isNull_identifier.1 hnull
    obtain ⟨x, fs, rfl, hends⟩ := hends
    cases x with
    | error f =>
      -- nothing has been done to the record
      obtain ⟨rfl, rfl⟩ := hends
      refine ⟨record, fun _ _ => ⟨_, rfl⟩, fun hnot => absurd ⟨by simp, hrecord⟩ hnot, fun x hx => ?_, .undrawn f,
        fun reply hreply => ?_, fun _ k => by simp [Ending.events], fun v s hs => ?_, fun reply x hreply hx => ?_⟩
      · obtain rfl : x = .error f := by simpa [Ending.events] using hx
        exact ⟨_, rfl⟩
      · obtain rfl : reply = ⟨.error (.passed f), some (.map record)⟩ := by simpa [Ending.events] using hreply
        rfl
      · simp [Ending.events] at hs
      · obtain rfl : reply = ⟨.error (.passed f), some (.map record)⟩ := by simpa [Ending.events] using hreply
        cases hx
    | ok id =>
      have hid : Value.lookup? idKey (Value.put idKey id record) = some id :=
        Value.lookup?_put (by simp [idKey, Value.same]) id record
      exact ⟨_, (insert_inserting hends).created (leaves_put hnamed hrecord id) (.inl ⟨hrecord, id, rfl⟩) hid⟩
  · rename_i hnull
    have hrecord : ¬ Lacks record := fun h => hnull (isNull_identifier.2 h)
    cases hid : Value.lookup? idKey record with
    | none => exact absurd (.inl hid) hrecord
    | some id => exact ⟨record, (insert_inserting hends).created .kept (.inr ⟨hrecord, rfl⟩) hid⟩

/-- A guarded operation that entered on a connected client is on its way to an end of its body, or there if it has
replied, and it has done something behind its entering. -/
theorem Course.entered_body {refusal : Reply} {body : Value → Program Storage Ending} {v : Option Value}
    {at? : Option (Phase Storage)} (hcourse : (Operation.guarded refusal body).Course es v at?)
    (entered : .entered .connected ∈ es) :
    ∃ w gs a rest, (body w).Ends gs a ∧
      es ++ rest = .began .connected :: .entered .connected :: (gs ++ a.events) ∧
      (∀ reply, .replied reply ∈ es → rest = []) ∧
      ∃ e ∈ es, e ∉ [.began .connected, .entered .connected] := by
  obtain ⟨w, -, ⟨gs, a, hends, rfl⟩ | ⟨gs, call, hdoes, rfl⟩⟩ := hcourse.entered entered
  · exact ⟨w, gs, a, [], hends, List.append_nil _, fun _ _ => rfl, .replied a.reply, by simp [Ending.events], by simp⟩
  · obtain ⟨fs, a, h⟩ := call.rest.exists_ends
    refine ⟨w, _, a, call.event :: fs ++ a.events, hdoes _ a ⟨call.result, fs, rfl, h⟩, by simp [Pending.event],
      fun reply hreply => ?_, .called call.call, by simp, by simp⟩
    simp only [List.mem_cons, List.mem_append, reduceCtorEq, List.not_mem_nil, or_false, false_or] at hreply
    exact (hdoes.inner _ hreply).elim

end Operation

/-- What a creation will have done, it has begun to do. -/
theorem Created.begins {table : Value} {record final : Entries} {es rest : List (Event Storage)}
    (h : Created table record (es ++ rest) final) (entered : .entered .connected ∈ es)
    (hreplied : ∀ reply, .replied reply ∈ es → rest = [])
    (hpast : ∃ e ∈ es, e ∉ [.began .connected, .entered .connected]) : Created table record es final := by
  have hentered : .entered .connected ∈ es ++ rest := List.mem_append_left rest entered
  have hdraws : draws (es ++ rest) = draws es := by
    by_cases hrecord : Operation.Lacks record
    · obtain ⟨x, hx⟩ := h.drawn hentered hrecord
      obtain ⟨fs, hfs⟩ := h.first x (mem_draws.1 (hx ▸ List.mem_singleton_self x))
      obtain ⟨e, he, hnot⟩ := hpast
      have hmem : x ∈ draws es := mem_draws.2 (mem_of_not_before [_, _] hfs he hnot)
      -- it is the only one
      have hlength : (draws es).length + (draws rest).length = 1 := by
        rw [← List.length_append, ← draws_append, hx, List.length_singleton]
      have hpos : 0 < (draws es).length := List.length_pos_of_mem hmem
      rw [draws_append, List.length_eq_zero_iff.1 (by omega : (draws rest).length = 0), List.append_nil]
    · have hnone := h.undrawn fun hboth => hrecord hboth.2
      rw [draws_append] at hnone ⊢
      rw [(List.append_eq_nil_iff.1 hnone).2, List.append_nil]
  refine ⟨fun _ hrecord => hdraws ▸ h.drawn hentered hrecord, fun hnot => hdraws ▸ h.undrawn fun hboth => ?_,
    fun x hx => ?_, hdraws ▸ h.leaves, fun reply hreply => h.data reply (List.mem_append_left rest hreply),
    fun hquiet k hk => ?_, fun v s hs => h.sent v s (List.mem_append_left rest hs), fun reply x hreply hx => ?_⟩
  · exact hnot ⟨entered, hboth.2⟩
  · obtain ⟨fs, hfs⟩ := h.first x (List.mem_append_left rest hx)
    have hsplit : es ++ rest = [.began .connected, .entered .connected] ++ .drew x :: fs := hfs
    rcases List.append_eq_append_iff.1 hsplit with ⟨c, hc, -⟩ | ⟨c, rfl, hc⟩
    · exact absurd (hc ▸ List.mem_append_left c hx) (by simp)
    · cases c with
      | nil => simp at hx
      | cons e c =>
        obtain ⟨rfl, -⟩ := List.cons.inj hc
        exact ⟨c, rfl⟩
  · refine h.quiet (hquiet.imp (absurd entered) fun hf => ?_) k (List.mem_append_left rest hk)
    rwa [hdraws]
  · have hrest := hreplied reply hreply
    rw [hrest, List.append_nil] at h
    exact h.returned reply x hreply hx

/-- What a creation has done by any point of its course. -/
theorem Operation.Course.created {table : Value} {record : Entries} (hnamed : Operation.Named record)
    {es : List (Event Storage)} {v : Option Value} {at? : Option (Phase Storage)}
    (hcourse : (Operation.create table (.map record)).Course es v at?) : ∃ final, Created table record es final := by
  by_cases entered : .entered .connected ∈ es
  · obtain ⟨w, gs, a, rest, hends, hwhole, hreplied, hpast⟩ := hcourse.entered_body entered
    obtain ⟨final, hcreated⟩ := Operation.create_ends hnamed w gs a hends
    rw [← hwhole] at hcreated
    exact ⟨final, hcreated.begins entered hreplied hpast⟩
  · -- nothing happens without entering
    have houter : ∀ e ∈ es, ¬ e.Inner := by
      intro e he hinner
      obtain ⟨w, gs, a, rest, -, -, hwhole, -⟩ := hcourse.body he hinner
      have hsplit : es ++ rest = [.began .connected] ++ .entered .connected :: (gs ++ a.events) := hwhole
      refine entered (mem_of_not_before _ hsplit he fun hbegan => ?_)
      rw [List.mem_singleton.1 hbegan] at hinner
      exact hinner
    have hreply : ∀ reply, .replied reply ∈ es → reply = ⟨.error .notConnected, some (.map record)⟩ := by
      intro reply hreplied
      cases at? with
      | some ph => exact absurd hreplied (hcourse.unreplied reply)
      | none =>
        rcases hcourse.replied_cases hreplied with ⟨heq, -⟩ | ⟨w, gs, a, -, -, -, rfl⟩
        · exact heq
        · exact absurd (by simp) entered
    have hundrawn := draws_eq_nil fun x hx => houter _ hx trivial
    refine ⟨record, fun h => absurd h entered, fun _ => hundrawn, fun x hx => absurd trivial (houter _ hx),
      hundrawn ▸ .kept, fun reply hr => ?_, fun _ k hk => houter _ hk trivial,
      fun v s hs => absurd trivial (houter _ hs), fun reply x hr hx => ?_⟩
    · rw [hreply reply hr]
    · rw [hreply reply hr] at hx
      cases hx

/-! ## Runs -/

namespace Setup

/-- In every run, a creation asks for an identifier exactly if it finds the client connected and its record has
no identifier or a null one, once and before anything else. The record gets what it asked for, in the place of
the null or at the end, and keeps it whatever becomes of the insertion; otherwise it stays as it was. The
insertion goes by that record, and so does the answer. -/
theorem play_creates (path : String) (ids : IdSource) (ms : List (Move Value)) (i : Nat) (job : Job Value)
    (table : Value) (record : Entries) (hjob : ((Setup.direct path ids).play ms).jobs[i]? = some job)
    (hcreate : job.request = .create table (.map record)) (hnamed : Operation.Named record) :
    ∃ final, Created table record (eventsOf i ((Setup.direct path ids).play ms).history) final := by
  obtain ⟨v, at?, hcourse, -⟩ := play_course (direct_tells path ids) hjob
  rw [direct_operation, hcreate] at hcourse
  exact hcourse.created hnamed

/-- A null identifier between two columns, with an insertion that fails and with one that succeeds. -/
theorem play_creates_failing :
    let record : Entries := [(.text "a", .int 5), (.text "id", .null), (.text "b", .int 0)]
    let r := (Setup.direct "a.db" fun n => .ok (.int n)).play
      [.start ⟨.connect, []⟩, .turn 0,
        .start ⟨.create (.text "t") (.map [(.text "a", .int 5), (.text "id", .null), (.text "b", .int 0)]),
          [{ outcome := .error ⟨.engine .integrity, "UNIQUE constraint failed: t.id"⟩ }]⟩, .turn 0,
        .start ⟨.create (.text "t") (.map [(.text "a", .int 5), (.text "id", .null), (.text "b", .int 0)]),
          [{}, { outcome := .ok (some (.map [(.text "id", .int 2)])) }]⟩, .turn 0]
    (draws (eventsOf 1 r.history) = [.ok (.int 1)] ∧
      (1, .replied ⟨.error (.storage .create ⟨.engine .integrity, "UNIQUE constraint failed: t.id"⟩),
        some (.map [(.text "a", .int 5), (.text "id", .int 1), (.text "b", .int 0)])⟩) ∈ r.history ∧
      Created (.text "t") record (eventsOf 1 r.history)
        [(.text "a", .int 5), (.text "id", .int 1), (.text "b", .int 0)]) ∧
    draws (eventsOf 2 r.history) = [.ok (.int 2)] ∧
      (2, .called (.execute (.text "h1")
        ⟨"INSERT INTO t (a, id, b) VALUES (?, ?, ?)", [.int 5, .int 2, .int 0]⟩)) ∈ r.history ∧
      (2, .replied ⟨.ok (.int 2),
        some (.map [(.text "a", .int 5), (.text "id", .int 2), (.text "b", .int 0)])⟩) ∈ r.history ∧
      Created (.text "t") record (eventsOf 2 r.history)
        [(.text "a", .int 5), (.text "id", .int 2), (.text "b", .int 0)] := by
  intro record r
  have hnamed : Operation.Named record := by simp [Operation.Named, record]
  -- the record that is left shows in the reply
  have creates {i : Nat} {reply : Reply} {final : Entries}
      (hjob : r.jobs[i]?.map Job.request = some (.create (.text "t") (.map record)))
      (hreplied : (i, .replied reply) ∈ r.history) (hfinal : reply.data = some (.map final)) :
      Created (.text "t") record (eventsOf i r.history) final := by
    obtain ⟨job, hjob, hcreate⟩ := Option.map_eq_some_iff.1 hjob
    obtain ⟨final', hcreated⟩ :=
      play_creates "a.db" (fun n => .ok (.int n)) _ i job (.text "t") record hjob hcreate hnamed
    have hdata := hcreated.data _ (mem_eventsOf.2 hreplied)
    rw [hfinal] at hdata
    obtain rfl : final = final' := Value.map.inj (Option.some.inj hdata)
    exact hcreated
  have failed : r.history[11]? = some (1, .replied ⟨.error (.storage .create ⟨.engine .integrity,
      "UNIQUE constraint failed: t.id"⟩),
    some (.map [(.text "a", .int 5), (.text "id", .int 1), (.text "b", .int 0)])⟩) := by with_unfolding_all rfl
  have called : r.history[15]? = some (2, .called (.execute (.text "h1")
    ⟨"INSERT INTO t (a, id, b) VALUES (?, ?, ?)", [.int 5, .int 2, .int 0]⟩)) := by with_unfolding_all rfl
  have succeeded : r.history[19]? = some (2, .replied ⟨.ok (.int 2),
    some (.map [(.text "a", .int 5), (.text "id", .int 2), (.text "b", .int 0)])⟩) := by with_unfolding_all rfl
  have drawn : draws (eventsOf 1 r.history) = [.ok (.int 1)] ∧ draws (eventsOf 2 r.history) = [.ok (.int 2)] := by
    constructor <;> with_unfolding_all rfl
  have replied := List.mem_of_getElem? failed
  have replied' := List.mem_of_getElem? succeeded
  exact ⟨⟨drawn.1, replied, creates (by with_unfolding_all rfl) replied rfl⟩, drawn.2,
    List.mem_of_getElem? called, replied',
    creates (by with_unfolding_all rfl) replied' rfl⟩

end Setup

end RecordStore
