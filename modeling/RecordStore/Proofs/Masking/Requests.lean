/-
Requests that differ in the values they bind and in nothing else: in the values of conditions, the
operands of operators, the elements of memberships, and the values of records. Behind a mask that hides
the parameters of statements their operations are the same operation, so no bound value decides what is
called, what is logged or what fails, and none gets into a text.
-/
import RecordStore.Proofs.Masking.Schedule

namespace RecordStore

/-! ## Values and requests that are alike -/

/-- The value is no mapping, no list and no tuple. -/
def Value.IsScalar : Value → Prop
  | .map _ => False
  | .list _ => False
  | .tuple _ => False
  | _ => True

/-- What is asked of a column, alike but for the values that are bound. -/
inductive Value.Alike : Value → Value → Prop where
  | scalars {v w : Value} : v.IsScalar → w.IsScalar → Alike v w
  | operators {ops ops' : Entries} : ops.map Prod.fst = ops'.map Prod.fst → Alike (.map ops) (.map ops')
  | lists {vs ws : List Value} : vs.length = ws.length → Alike (.list vs) (.list ws)
  | tuples {vs ws : List Value} : vs.length = ws.length → Alike (.tuple vs) (.tuple ws)

/-- Conditions with the same columns that ask alike of each of them. -/
inductive Condition.Alike : Value → Value → Prop where
  | same (v : Value) : Alike v v
  | maps {es fs : Entries} : List.Forall₂ (fun e f => e.1 = f.1 ∧ e.2.Alike f.2) es fs →
    Alike (.map es) (.map fs)

/-- Changes to the same columns. -/
inductive Changes.Alike : Value → Value → Prop where
  | same (v : Value) : Alike v v
  | maps {es fs : Entries} : es.map Prod.fst = fs.map Prod.fst → Alike (.map es) (.map fs)

/-- Records with the same columns. Both have an identifier or none of them has, and the identifiers
are alike. -/
inductive Record.Alike : Value → Value → Prop where
  | same (v : Value) : Alike v v
  | maps {es fs : Entries} : es.map Prod.fst = fs.map Prod.fst →
    (Operation.identifier es).isNull = (Operation.identifier fs).isNull →
    (Operation.identifier es).Alike (Operation.identifier fs) → Alike (.map es) (.map fs)

/-- Requests that differ in bound values only. -/
inductive Request.Alike : Request → Request → Prop where
  | same (r : Request) : Alike r r
  | find (table : Value) {condition condition' : Value} (options : RawOptions) :
    Condition.Alike condition condition' →
      Alike (.find table condition options) (.find table condition' options)
  | findOne (table : Value) {condition condition' : Value} (orderBy : Value) :
    Condition.Alike condition condition' →
      Alike (.findOne table condition orderBy) (.findOne table condition' orderBy)
  | create (table : Value) {record record' : Value} : Record.Alike record record' →
    Alike (.create table record) (.create table record')
  | update (table : Value) {condition condition' changes changes' : Value} :
    Condition.Alike condition condition' → Changes.Alike changes changes' →
      Alike (.update table condition changes) (.update table condition' changes')
  | delete (table : Value) {condition condition' : Value} : Condition.Alike condition condition' →
    Alike (.delete table condition) (.delete table condition')

theorem Value.Alike.refl (v : Value) : v.Alike v := by
  cases v with
  | map ops => exact .operators rfl
  | list vs => exact .lists rfl
  | tuple vs => exact .tuples rfl
  | _ => exact .scalars trivial trivial

/-! ## Hidden values -/

/-- As many nulls as there are values. -/
def hidden (vs : List Value) : List Value := List.replicate vs.length .null

theorem hidden_eq {vs ws : List Value} (h : vs.length = ws.length) : hidden vs = hidden ws :=
  congrArg (fun n => List.replicate n Value.null) h

theorem length_hidden (vs : List Value) : (hidden vs).length = vs.length := List.length_replicate

theorem hidden_hidden (vs : List Value) : hidden (hidden vs) = hidden vs := hidden_eq (length_hidden vs)

theorem hidden_append (vs ws : List Value) : hidden (vs ++ ws) = hidden vs ++ hidden ws := by
  simp [hidden]

/-- The statement with its parameters hidden. -/
def Statement.masked (s : Statement) : Statement := ⟨s.sql, hidden s.params⟩

theorem Statement.length_masked (s : Statement) : s.masked.params.length = s.params.length :=
  length_hidden s.params

/-- The call with the parameters of its statement hidden. -/
def StorageCall.masked : StorageCall → StorageCall
  | .execute handle s => .execute handle s.masked
  | .queryAll handle s => .queryAll handle s.masked
  | .queryOne handle s => .queryOne handle s.masked
  | k => k

section StorageCall

variable {s t : Statement} (h : s.masked = t.masked) (handle : Value)
include h

theorem StorageCall.masked_execute :
    (StorageCall.execute handle s).masked = (StorageCall.execute handle t).masked :=
  congrArg (StorageCall.execute handle) h

theorem StorageCall.masked_queryAll :
    (StorageCall.queryAll handle s).masked = (StorageCall.queryAll handle t).masked :=
  congrArg (StorageCall.queryAll handle) h

theorem StorageCall.masked_queryOne :
    (StorageCall.queryOne handle s).masked = (StorageCall.queryOne handle t).masked :=
  congrArg (StorageCall.queryOne handle) h

end StorageCall

def storageMask : Mask Storage where
  call := StorageCall.masked
  veil a := a
  reveal a := a
  reveal_veil _ := rfl

/-! ## Clauses -/

def Term.masked : Term → Term
  | .equals c _ => .equals c .null
  | .compare c op _ => .compare c op .null
  | .member c vs => .member c (hidden vs)

def Clause.masked (c : Clause) : Clause := ⟨c.fragments, hidden c.params⟩

theorem Term.masked_fragment (t : Term) : t.masked.fragment = t.fragment := by
  cases t with
  | member c vs => simp [masked, fragment, length_hidden]
  | _ => rfl

theorem Term.masked_values (t : Term) : t.masked.values = hidden t.values := by
  cases t <;> rfl

theorem Clause.masked_ofTerms (ts : List Term) : (ofTerms ts).masked = ofTerms (ts.map Term.masked) := by
  induction ts with
  | nil => rfl
  | cons t ts ih =>
    obtain ⟨hfragments, hparams⟩ := Clause.mk.inj ih
    have hfirst : hidden (ofTerms (t :: ts)).params = hidden t.values ++ hidden (ofTerms ts).params :=
      hidden_append _ _
    unfold masked
    rw [hfirst, hparams, ← t.masked_values]
    show Clause.mk (t.fragment :: (ofTerms ts).fragments) _ = _
    rw [hfragments, ← t.masked_fragment]
    rfl

/-- Results that look the same are both errors, the same one, or both values that look the same. -/
theorem errors_or_values {ε α β : Type} {f : α → β} {x y : Except ε α} (h : x.map f = y.map f) :
    (∃ e, x = .error e ∧ y = .error e) ∨ ∃ a b, x = .ok a ∧ y = .ok b ∧ f a = f b := by
  cases x with
  | error e =>
    cases y with
    | error e' => cases h; exact .inl ⟨e, rfl, rfl⟩
    | ok b => cases h
  | ok a =>
    cases y with
    | error e' => cases h
    | ok b => exact .inr ⟨a, b, rfl, rfl, Except.ok.inj h⟩

namespace Condition

/-- Conversions to terms that look the same. -/
abbrev TermsAlike (x y : Except Failure (List Term)) : Prop :=
  x.map (List.map Term.masked) = y.map (List.map Term.masked)

theorem TermsAlike.append {ts us : List Term} (hts : ts.map Term.masked = us.map Term.masked)
    {x y : Except Failure (List Term)} (h : TermsAlike x y) :
    TermsAlike (x.map (ts ++ ·)) (y.map (us ++ ·)) := by
  rcases errors_or_values h with ⟨e, rfl, rfl⟩ | ⟨vs, ws, rfl, rfl, heq⟩
  · rfl
  · show Except.ok ((ts ++ vs).map Term.masked) = .ok ((us ++ ws).map Term.masked)
    rw [List.map_append, List.map_append, hts, heq]

theorem comparisons_alike (column : Value) : ∀ {ops ops' : Entries}, ops.map Prod.fst = ops'.map Prod.fst →
    TermsAlike (comparisons column ops) (comparisons column ops')
  | [], [], _ => rfl
  | [], _ :: _, h => nomatch h
  | _ :: _, [], h => nomatch h
  | (key, v) :: ops, (key', v') :: ops', h => by
    obtain ⟨rfl, hrest⟩ := List.cons.inj h
    unfold comparisons
    cases Operator.ofKey? key with
    | none => rfl
    | some op =>
      have hfirst : [Term.compare column op v].map Term.masked =
          [.compare column op v'].map Term.masked := rfl
      exact .append hfirst (comparisons_alike column hrest)

theorem entryTerms_alike (column : Value) {v w : Value} (h : v.Alike w) :
    TermsAlike (entryTerms column v) (entryTerms column w) := by
  -- a scalar is asked for as it is, whatever its type
  have hequals {v : Value} (hv : v.IsScalar) : entryTerms column v = .ok [.equals column v] := by
    cases v with
    | map ops => exact hv.elim
    | list vs => exact hv.elim
    | tuple vs => exact hv.elim
    | _ => rfl
  have hmember {vs ws : List Value} (hlength : vs.length = ws.length) :
      [Term.member column vs].map Term.masked = [Term.member column ws].map Term.masked :=
    congrArg (fun us => [Term.member column us]) (hidden_eq hlength)
  cases h with
  | scalars hv hw =>
    rw [hequals hv, hequals hw]
    rfl
  | operators hkeys => exact comparisons_alike column hkeys
  | lists hlength => exact congrArg Except.ok (hmember hlength)
  | tuples hlength => exact congrArg Except.ok (hmember hlength)

theorem terms_alike {es fs : Entries} (h : List.Forall₂ (fun e f => e.1 = f.1 ∧ e.2.Alike f.2) es fs) :
    TermsAlike (terms es) (terms fs) := by
  induction h with
  | nil => rfl
  | @cons e f es fs he _ ih =>
    obtain ⟨column, v⟩ := e
    obtain ⟨column', w⟩ := f
    obtain ⟨rfl, hvalues⟩ := he
    unfold terms
    rcases errors_or_values (entryTerms_alike column hvalues) with ⟨e, hv, hw⟩ | ⟨ts, us, hv, hw, heq⟩
    · simp only [hv, hw]
    · simp only [hv, hw]
      exact ih.append heq

/-- Conditions that are alike compile to clauses with the same fragments and as many parameters. -/
theorem Alike.compile {v w : Value} (h : Condition.Alike v w) :
    (compile v).map Clause.masked = (compile w).map Clause.masked := by
  cases h with
  | same => rfl
  | @maps es fs h =>
    have hempty : es.isEmpty = fs.isEmpty := by cases h <;> rfl
    have hterms : ((terms es).map Clause.ofTerms).map Clause.masked =
        ((terms fs).map Clause.ofTerms).map Clause.masked := by
      rcases errors_or_values (terms_alike h) with ⟨e, hv, hw⟩ | ⟨ts, us, hv, hw, heq⟩
      · rw [hv, hw]
      · rw [hv, hw]
        show Except.ok (Clause.ofTerms ts).masked = .ok (Clause.ofTerms us).masked
        rw [Clause.masked_ofTerms, Clause.masked_ofTerms, heq]
    show (if !es.isEmpty then _ else _ : Except Failure Clause).map _ =
      (if !fs.isEmpty then _ else _ : Except Failure Clause).map _
    rw [hempty]
    split
    · exact hterms
    · rfl

end Condition

/-- Clauses that look the same differ in the values of their parameters only. -/
theorem Clause.eq_of_masked {c d : Clause} (h : c.masked = d.masked) :
    ∃ params, d = ⟨c.fragments, params⟩ ∧ c.params.length = params.length := by
  obtain ⟨hfragments, hparams⟩ := Clause.mk.inj h
  refine ⟨d.params, by rw [hfragments], ?_⟩
  rw [← length_hidden c.params, hparams, length_hidden]

/-! ## Statements -/

theorem Statement.masked_select {c d : Clause} (h : c.masked = d.masked) (table : Value) (o : QueryOptions) :
    (select table c o).masked = (select table d o).masked := by
  -- the text of a query is made from the fragments of its clause alone
  obtain ⟨params, rfl, hlength⟩ := Clause.eq_of_masked h
  exact congrArg (Statement.mk (select table c o).sql) (hidden_eq hlength)

theorem Statement.masked_delete {c d : Clause} (h : c.masked = d.masked) (table : Value) :
    (delete table c).masked = (delete table d).masked := by
  obtain ⟨params, rfl, hlength⟩ := Clause.eq_of_masked h
  exact congrArg (Statement.mk (delete table c).sql) (hidden_eq hlength)

theorem Statement.masked_insert {values values' : List Value} (h : values.length = values'.length)
    (table : Value) (names : List String) :
    (insert table names values).masked = (insert table names values').masked := by
  unfold insert masked
  rw [h, hidden_eq h]

namespace Operation

theorem query_masked {condition condition' : Value} (h : Condition.Alike condition condition')
    (table : Value) (raw : RawOptions) :
    (query table condition raw).map Statement.masked =
      (query table condition' raw).map Statement.masked := by
  unfold query
  cases raw.check with
  | error cs => rfl
  | ok o =>
    dsimp only
    rcases errors_or_values h.compile with ⟨e, hc, hd⟩ | ⟨c, d, hc, hd, heq⟩
    · rw [hc, hd]
    · rw [hc, hd]
      dsimp only
      split
      · exact congrArg Except.ok (Statement.masked_select heq table o)
      · rfl

theorem updateStatement_masked {condition condition' changes changes' : Value}
    (h : Condition.Alike condition condition') (h' : Changes.Alike changes changes') (table : Value) :
    (updateStatement table condition changes).map Statement.masked =
      (updateStatement table condition' changes').map Statement.masked := by
  unfold updateStatement
  rcases errors_or_values h.compile with ⟨e, hc, hd⟩ | ⟨c, d, hc, hd, heq⟩
  · rw [hc, hd]
  · obtain ⟨params, rfl, hlength⟩ := Clause.eq_of_masked heq
    rw [hc, hd]
    have hstatement (columns : List Value) {es fs : Entries} (hes : es.length = fs.length) :
        Statement.masked ⟨Statement.updateText table columns c, es.map Prod.snd ++ c.params⟩ =
          Statement.masked ⟨Statement.updateText table columns ⟨c.fragments, params⟩,
            fs.map Prod.snd ++ params⟩ := by
      refine congrArg (Statement.mk (Statement.updateText table columns c)) (hidden_eq ?_)
      rw [List.length_append, List.length_append, List.length_map, List.length_map, hes, hlength]
    cases h' with
    | same =>
      dsimp only
      cases changes.elements? with
      | none => rfl
      | some columns =>
        cases changes.entries? with
        | none => rfl
        | some es => exact congrArg Except.ok (hstatement columns rfl)
    | @maps es fs hkeys =>
      have hlength := congrArg List.length hkeys
      rw [List.length_map, List.length_map] at hlength
      dsimp only [Value.elements?, Value.entries?]
      rw [hkeys]
      exact congrArg Except.ok (hstatement _ hlength)

/-- A call that looks the same, and what goes on after it, whatever comes back. -/
theorem call_masked {k l : StorageCall} (hk : k.masked = l.masked)
    {next next' : Except Fault Value → Program Storage Ending}
    (h : ∀ r, (next r).masked storageMask Ending.masked = (next' r).masked storageMask Ending.masked) :
    Program.masked (B := Storage) storageMask Ending.masked (.call k next) =
      Program.masked (B := Storage) storageMask Ending.masked (.call l next') := by
  show Program.call (B := Storage) k.masked (fun r : Except Fault Value => _) =
    .call l.masked (fun r : Except Fault Value => _)
  rw [hk]
  exact congrArg (Program.call (B := Storage) l.masked) (funext fun r => h (r.map storageMask.reveal))

/-- An operation that makes one call with a checked statement. -/
theorem once_masked {x y : Except Failure Statement} {k : Statement → StorageCall}
    (hk : ∀ s t : Statement, s.masked = t.masked → (k s).masked = (k t).masked)
    (answer : Except Fault Value → Except Failure Value) :
    x.map Statement.masked = y.map Statement.masked →
      Program.masked storageMask Ending.masked (match x with
        | .error e => ends (.error e)
        | .ok s => .call (k s) fun r => ends (answer r)) =
      Program.masked storageMask Ending.masked (match y with
        | .error e => ends (.error e)
        | .ok s => .call (k s) fun r => ends (answer r)) := by
  intro h
  rcases errors_or_values h with ⟨e, rfl, rfl⟩ | ⟨s, t, rfl, rfl, heq⟩
  · rfl
  · exact call_masked (hk s t heq) fun _ => rfl

/-! ## Creating -/

theorem keys_put (k v : Value) : ∀ {es fs : Entries}, es.map Prod.fst = fs.map Prod.fst →
    (Value.put k v es).map Prod.fst = (Value.put k v fs).map Prod.fst
  | [], [], _ => rfl
  | [], _ :: _, h => nomatch h
  | _ :: _, [], h => nomatch h
  | (k', v') :: es, (k'', v'') :: fs, h => by
    obtain ⟨rfl, hrest⟩ := List.cons.inj h
    unfold Value.put
    split
    · exact congrArg (k' :: ·) hrest
    · exact congrArg (k' :: ·) (keys_put k v hrest)

/-- What was put as the identifier is the identifier. -/
theorem identifier_put (id : Value) (es : Entries) : identifier (Value.put idKey id es) = id := by
  have hkey : idKey.same idKey = true := by simp [idKey, Value.same]
  unfold identifier Value.lookup?
  induction es with
  | nil => simp [Value.put, hkey]
  | cons e es ih =>
    unfold Value.put
    split
    · rename_i hsame
      simp [hsame]
    · rename_i hsame
      simpa [hsame] using ih

/-- Inserting records with the same columns and identifiers that are alike. -/
theorem insert_masked {es fs : Entries} (hkeys : es.map Prod.fst = fs.map Prod.fst)
    (hid : (identifier es).Alike (identifier fs)) (handle table : Value) :
    (insert handle table es).masked storageMask Ending.masked =
      (insert handle table fs).masked storageMask Ending.masked := by
  have hlength : (es.map Prod.snd).length = (fs.map Prod.snd).length := by
    simpa using congrArg List.length hkeys
  have hcondition : Condition.Alike (.map [(idKey, identifier es)]) (.map [(idKey, identifier fs)]) :=
    .maps (.cons ⟨rfl, hid⟩ .nil)
  unfold insert columnNames
  rw [hkeys]
  dsimp only
  cases textsToJoin 0 (fs.map Prod.fst) with
  | error e => rfl
  | ok names =>
    refine call_masked (StorageCall.masked_execute (Statement.masked_insert hlength table names) handle)
      fun r => ?_
    cases r with
    | error f => rfl
    | ok n =>
      -- the record is read back by its identifier, as by a condition
      rcases errors_or_values hcondition.compile with ⟨e, hc, hd⟩ | ⟨c, d, hc, hd, heq⟩
      · simp only [hc, hd]
        rfl
      · simp only [hc, hd]
        refine call_masked (StorageCall.masked_queryOne (Statement.masked_select heq table _) handle)
          fun r => ?_
        cases r with
        | error f => rfl
        | ok found =>
          dsimp only
          split <;> rfl

theorem create_masked {record record' : Value} (h : Record.Alike record record') (table : Value) :
    (create table record).masked storageMask = (create table record').masked storageMask := by
  cases h with
  | same => rfl
  | @maps es fs hkeys hnull hid =>
    refine congrArg (Operation.guarded _) (funext fun handle => ?_)
    dsimp only [Value.entries?]
    rw [hnull]
    split
    · -- both records get the identifier that is drawn
      refine congrArg (Program.draw (B := Storage)) (funext fun r => ?_)
      cases r with
      | error f => rfl
      | ok id =>
        refine insert_masked (keys_put idKey id hkeys) ?_ handle table
        rw [identifier_put, identifier_put]
        exact .refl id
    · exact insert_masked hkeys hid handle table

theorem delete_masked {condition condition' : Value} (h : Condition.Alike condition condition')
    (table : Value) :
    (delete table condition).masked storageMask = (delete table condition').masked storageMask := by
  refine congrArg (Operation.guarded _) (funext fun handle => ?_)
  dsimp only
  rcases errors_or_values h.compile with ⟨e, hc, hd⟩ | ⟨c, d, hc, hd, heq⟩
  · rw [hc, hd]
  · have hsent := StorageCall.masked_execute (Statement.masked_delete heq table) handle
    obtain ⟨params, rfl, -⟩ := Clause.eq_of_masked heq
    rw [hc, hd]
    show (if c.isEmpty then _ else _ : Program Storage Ending).masked storageMask _ =
      (if c.isEmpty then _ else _ : Program Storage Ending).masked storageMask _
    split
    · rfl
    · exact call_masked hsent fun _ => rfl

end Operation

/-- Requests that are alike are served by operations that look the same. -/
theorem Request.Alike.operation {r r' : Request} (h : r.Alike r') (path : String) :
    (r.operation path).masked storageMask = (r'.operation path).masked storageMask := by
  have hdata {body body' : Value → Program Storage Ending}
      (hbody : ∀ v, (body v).masked storageMask Ending.masked = (body' v).masked storageMask Ending.masked) :
      (Operation.data body).masked storageMask = (Operation.data body').masked storageMask :=
    congrArg (Operation.guarded _) (funext hbody)
  cases h with
  | same => rfl
  | find table options hc =>
    exact hdata fun handle => Operation.once_masked (k := StorageCall.queryAll handle)
      (fun s t hst => StorageCall.masked_queryAll hst handle) _ (Operation.query_masked hc table options)
  | findOne table orderBy hc =>
    exact hdata fun handle => Operation.once_masked (k := StorageCall.queryOne handle)
      (fun s t hst => StorageCall.masked_queryOne hst handle) _ (Operation.query_masked hc table _)
  | create table hr => exact Operation.create_masked hr table
  | update table hc hchanges =>
    exact hdata fun handle => Operation.once_masked (k := StorageCall.execute handle)
      (fun s t hst => StorageCall.masked_execute hst handle) _
      (Operation.updateStatement_masked hc hchanges table)
  | delete table hc => exact Operation.delete_masked hc table

end RecordStore
