/-
# FarmLedger.Proofs.Matching.Selection — which rows a matcher selects

A matcher is fitted to an entity before it looks at rows: names become columns, values get the form
in which they are kept, and tuples are laid beside their columns. Read directly, without any of
this, a matcher means the rows that have one of its values in its field, or one of its tuples in all
of its fields (`Matcher.Selects`). `matcher_semantics` says that the clause that comes out selects
these rows and no others, and that nothing is refused but what does not fit (`Criterion.Misfits`).

The clause is followed part by part: a comparison (`has_iff`), a tuple beside its columns
(`all_has_iff`), and then the lists of them. Columns go by their names because no two of an entity
have the same one (`Entity.name_injective`).
-/
import FarmLedger.Proofs.Storage.Transaction

namespace FarmLedger

variable {e : Entity} {m : Matcher} {field : String} {column : e.Column} {row : Row e}

/-! ## What a matcher means -/

def Row.field? (row : Row e) (field : String) : Option String :=
  (e.schema.column? field).bind row.text?

/-- The row has the value in the field, in the form in which the entity keeps it. -/
def Row.Matches (row : Row e) (field : String) (value : Option String) : Prop :=
  ∃ text, value = some text ∧ row.field? field = some (e.canonical field text)

/-- The matcher means the row. -/
def Matcher.Selects : Matcher → Row e → Prop
  | .all, _ => True
  | .byField field values, row => ∃ value ∈ values, row.Matches field value
  | .byFields fields tuples, row => ∃ tuple ∈ tuples, List.Forall₂ row.Matches fields tuple

/-- The field is none that matchers of the entity may name. -/
def Entity.Unmatchable (e : Entity) (field : String) : Prop :=
  ∀ column ∈ e.schema.matchable, e.schema.name column ≠ field

instance (e : Entity) (field : String) : Decidable (e.Unmatchable field) :=
  inferInstanceAs (Decidable (∀ column ∈ e.schema.matchable, e.schema.name column ≠ field))

/-- What does not fit, and why. -/
inductive Criterion.Misfits (e : Entity) : Criterion → Failure → Prop
  | field {field : String} {values : List (Option String)} (unknown : e.Unmatchable field) :
      Misfits e (.matcher (.byField field values)) (.unmatchableField e.table field)
  | oneField {fields : List String} {field : String} {tuples : List (List (Option String))}
      (mem : field ∈ fields) (unknown : e.Unmatchable field) :
      Misfits e (.matcher (.byFields fields tuples)) (.unmatchableField e.table field)
  | tuple {fields : List String} {tuples : List (List (Option String))}
      {tuple : List (Option String)} (mem : tuple ∈ tuples)
      (different : tuple.length ≠ fields.length) :
      Misfits e (.matcher (.byFields fields tuples))
        (.tupleLength (Matcher.byFields fields tuples).describe tuple.length fields.length)
  | other {kind : String} : Misfits e (.other kind) (.notAMatcher kind)

/-- No value of the matcher is missing. -/
def Matcher.HasTexts : Matcher → Prop
  | .all => True
  | .byField _ values => none ∉ values
  | .byFields _ tuples => ∀ tuple ∈ tuples, none ∉ tuple

/-! ## Columns and their names -/

namespace Entity

theorem names_nodup (e : Entity) : (e.schema.columns.map e.schema.name).Nodup := by
  cases e <;> decide

theorem name_injective (e : Entity) : Function.Injective e.schema.name :=
  fun a b => List.inj_on_of_nodup_map e.names_nodup (e.schema.complete a) (e.schema.complete b)

/-- Among any columns, a name finds its own. -/
theorem find?_name_iff {columns : List e.Column} :
    (columns.find? fun column => e.schema.name column == field) = some column ↔
      column ∈ columns ∧ e.schema.name column = field := by
  constructor
  · intro found
    have named := List.find?_some found
    exact ⟨List.mem_of_find?_eq_some found, eq_of_beq named⟩
  · rintro ⟨mem, rfl⟩
    cases found : columns.find? fun other => e.schema.name other == e.schema.name column with
    | none => exact absurd (beq_self_eq_true _) (List.find?_eq_none.1 found column mem)
    | some other =>
      have named := List.find?_some found
      rw [e.name_injective (eq_of_beq named)]

theorem column?_eq_some (named : e.schema.name column = field) :
    e.schema.column? field = some column :=
  find?_name_iff.2 ⟨e.schema.complete column, named⟩

theorem matchColumn_ok_iff :
    e.matchColumn field = .ok column ↔
      column ∈ e.schema.matchable ∧ e.schema.name column = field := by
  rw [← find?_name_iff]
  unfold matchColumn Schema.matchable?
  split
  · next other found => rw [found, Except.ok.injEq, Option.some.injEq]
  · next none_ => rw [none_]; exact ⟨nofun, nofun⟩

theorem matchColumn_error_iff {failure : Failure} :
    e.matchColumn field = .error failure ↔
      e.Unmatchable field ∧ failure = .unmatchableField e.table field := by
  constructor
  · intro h
    refine ⟨fun column mem named => ?_, ?_⟩
    · rw [matchColumn_ok_iff.2 ⟨mem, named⟩] at h
      cases h
    · unfold matchColumn at h
      split at h
      · cases h
      · exact (Except.error.inj h).symm
  · rintro ⟨unknown, rfl⟩
    cases h : e.matchColumn field with
    | ok column =>
      obtain ⟨mem, named⟩ := matchColumn_ok_iff.1 h
      exact absurd named (unknown column mem)
    | error failure =>
      unfold matchColumn at h
      split at h <;> cases h
      rfl

end Entity

/-! ## One comparison -/

theorem field?_of_matchColumn (named : e.matchColumn field = .ok column) :
    row.field? field = row.text? column := by
  rw [Row.field?, Entity.column?_eq_some (Entity.matchColumn_ok_iff.1 named).2, Option.bind_some]

theorem canonical?_ok {value kept : Option String} (h : e.canonical? field value = .ok kept) :
    kept = value.map (e.canonical field) := by
  cases value with
  | some text => exact (Except.ok.inj h).symm
  | none =>
    simp only [Entity.canonical?] at h
    split at h
    · cases h
    · exact (Except.ok.inj h).symm

theorem has_iff {value kept : Option String} (named : e.matchColumn field = .ok column)
    (brought : e.canonical? field value = .ok kept) :
    row.has column kept = true ↔ row.Matches field value := by
  unfold Row.has Row.Matches
  rw [field?_of_matchColumn named, canonical?_ok brought]
  cases value <;> simp

/-! ## A tuple beside its columns -/

theorem compileTuple_ok {fields : List (String × e.Column)} {tuple : List (Option String)}
    {parts : List (e.Column × Option String)} (h : compileTuple m fields tuple = .ok parts) :
    tuple.length = fields.length ∧
      List.Forall₂ (fun part kept => e.canonical? part.1.1 part.2 = .ok kept.2 ∧
        kept.1 = part.1.2) (fields.zip tuple) parts := by
  unfold compileTuple at h
  split at h
  · cases h
  · next same =>
    refine ⟨not_not.1 same, (mapM_ok_iff.1 h).imp ?_⟩
    rintro ⟨⟨field, column⟩, value⟩ kept result
    obtain ⟨canonical, brought, result⟩ := ok_of_bind result
    cases result
    exact ⟨brought, rfl⟩

theorem all_has_iff {fields : List String} {columns : List e.Column}
    {tuple : List (Option String)} {parts : List (e.Column × Option String)}
    (named : List.Forall₂ (fun field column => e.matchColumn field = .ok column) fields columns)
    (length : tuple.length = fields.length)
    (brought : List.Forall₂ (fun part kept => e.canonical? part.1.1 part.2 = .ok kept.2 ∧
      kept.1 = part.1.2) ((fields.zip columns).zip tuple) parts) :
    (parts.all fun part => row.has part.1 part.2) = true ↔
      List.Forall₂ row.Matches fields tuple := by
  induction named generalizing tuple parts with
  | nil =>
    cases List.length_eq_zero_iff.1 length
    cases brought
    simp
  | @cons field column fields columns first _ ih =>
    obtain ⟨value, values, rfl⟩ := List.exists_cons_of_length_eq_add_one length
    rw [List.zip_cons_cons, List.zip_cons_cons] at brought
    obtain ⟨⟨column', kept⟩, rest, ⟨canonical, same⟩, others, rfl⟩ :=
      List.forall₂_cons_left_iff.1 brought
    cases same
    rw [List.all_cons, Bool.and_eq_true, List.forall₂_cons, has_iff first canonical,
      ih (Nat.succ.inj length) others]

/-! ## The clause -/

/-- Of two lists that go together, both have a member that counts or neither has. -/
theorem any_iff_of_forall₂ {α β : Type} {R : α → β → Prop} {p : α → Prop} {q : β → Bool}
    {as : List α} {bs : List β} (together : List.Forall₂ R as bs)
    (counts : ∀ a b, R a b → (q b = true ↔ p a)) : bs.any q = true ↔ ∃ a ∈ as, p a := by
  induction together with
  | nil => simp
  | cons first _ ih => simp [counts _ _ first, ih]

/-- **The clause of a matcher holds of the rows that the matcher means.** -/
theorem Matcher.holds_iff {clause : Clause e} (compiled : m.compile e = .ok clause) :
    clause.holds row = true ↔ m.Selects row := by
  cases m with
  | all =>
    cases compiled
    exact iff_of_true rfl trivial
  | byField field values =>
    obtain ⟨column, named, compiled⟩ := ok_of_bind compiled
    obtain ⟨kept, brought, compiled⟩ := ok_of_bind compiled
    cases compiled
    exact any_iff_of_forall₂ (mapM_ok_iff.1 brought) fun _ _ brought => has_iff named brought
  | byFields fields tuples =>
    obtain ⟨columns, named, compiled⟩ := ok_of_bind compiled
    obtain ⟨parts, brought, compiled⟩ := ok_of_bind compiled
    cases compiled
    have named := mapM_ok_iff.1 named
    refine any_iff_of_forall₂ (mapM_ok_iff.1 brought) fun tuple part compiled => ?_
    obtain ⟨length, brought⟩ := compileTuple_ok compiled
    rw [List.length_zip, ← named.length_eq, Nat.min_self] at length
    exact all_has_iff named length brought

/-! ## What does not fit -/

namespace Criterion

variable {criterion : Criterion} {failure : Failure}

/-- No value that is asked for is missing. -/
def HasTexts : Criterion → Prop
  | .matcher m => m.HasTexts
  | .other _ => True

theorem brought_of_texts {values : List (Option String)} (texts : none ∉ values) :
    ∀ value ∈ values, e.canonical? field value ≠ .error failure := by
  intro value mem
  cases value with
  | none => exact absurd mem texts
  | some text => exact nofun

theorem compileTuple_error {fields : List (String × e.Column)} {tuple : List (Option String)}
    (texts : none ∉ tuple) (h : compileTuple m fields tuple = .error failure) :
    tuple.length ≠ fields.length ∧
      failure = .tupleLength m.describe tuple.length fields.length := by
  unfold compileTuple at h
  split at h
  · next different => exact ⟨different, (Except.error.inj h).symm⟩
  · obtain ⟨⟨⟨field, column⟩, value⟩, mem, failed⟩ := error_of_mapM h
    rcases error_of_bind failed with failed | ⟨_, _, failed⟩
    · exact absurd failed (brought_of_texts texts value (List.of_mem_zip mem).2)
    · cases failed

/-- What fails does not fit, and the failure says why. -/
theorem misfits_of_error (texts : criterion.HasTexts) (h : criterion.compile e = .error failure) :
    criterion.Misfits e failure := by
  cases criterion with
  | other kind =>
    cases h
    exact .other
  | matcher m =>
    cases m with
    | all => cases h
    | byField field values =>
      rcases error_of_bind h with unnamed | ⟨column, _, h⟩
      · obtain ⟨unknown, rfl⟩ := Entity.matchColumn_error_iff.1 unnamed
        exact .field unknown
      rcases error_of_bind h with failed | ⟨_, _, h⟩
      · obtain ⟨value, mem, failed⟩ := error_of_mapM failed
        exact absurd failed (brought_of_texts texts value mem)
      · cases h
    | byFields fields tuples =>
      rcases error_of_bind h with unnamed | ⟨columns, named, h⟩
      · obtain ⟨field, mem, unnamed⟩ := error_of_mapM unnamed
        obtain ⟨unknown, rfl⟩ := Entity.matchColumn_error_iff.1 unnamed
        exact .oneField mem unknown
      rcases error_of_bind h with failed | ⟨_, _, h⟩
      · obtain ⟨tuple, mem, failed⟩ := error_of_mapM failed
        obtain ⟨different, rfl⟩ := compileTuple_error (texts tuple mem) failed
        rw [List.length_zip, ← (mapM_ok_iff.1 named).length_eq, Nat.min_self] at different ⊢
        exact .tuple mem different
      · cases h

/-- What does not fit fails. -/
theorem Misfits.fails (misfits : criterion.Misfits e failure) (clause : Clause e) :
    criterion.compile e ≠ .ok clause := by
  intro compiled
  cases misfits with
  | other => cases compiled
  | field unknown =>
    obtain ⟨column, named, _⟩ := ok_of_bind compiled
    rw [Entity.matchColumn_error_iff.2 ⟨unknown, rfl⟩] at named
    cases named
  | @oneField fields field tuples mem unknown =>
    obtain ⟨columns, named, _⟩ := ok_of_bind compiled
    obtain ⟨column, _, named⟩ := ok_of_mapM named _ mem
    rw [Entity.matchColumn_error_iff.2 ⟨unknown, rfl⟩] at named
    cases named
  | @tuple fields tuples tuple mem different =>
    obtain ⟨columns, named, compiled⟩ := ok_of_bind compiled
    obtain ⟨parts, brought, _⟩ := ok_of_bind compiled
    obtain ⟨part, _, brought⟩ := ok_of_mapM brought _ mem
    have length := (compileTuple_ok brought).1
    rw [List.length_zip, ← (mapM_ok_iff.1 named).length_eq, Nat.min_self] at length
    exact different length

end Criterion

/-! ## One field as a tuple of one -/

theorem compileTuple_single (value : Option String) :
    compileTuple m [(field, column)] [value] =
      (e.canonical? field value).map fun kept => [(column, kept)] := by
  have same : [value].length = [(field, column)].length := rfl
  unfold compileTuple
  rw [if_neg (not_not.2 same), List.zip_cons_cons, List.zip_nil_left, List.mapM_cons,
    List.mapM_nil]
  show ((e.canonical? field value >>= fun kept => pure (column, kept)) >>= fun part =>
    pure [part]) = _
  cases e.canonical? field value <;> rfl

theorem mapM_compileTuple_single (values : List (Option String)) :
    (values.map fun value => [value]).mapM (compileTuple m [(field, column)]) =
      (values.mapM (e.canonical? field)).map fun kept =>
        kept.map fun value => [(column, value)] := by
  induction values with
  | nil => rfl
  | cons value values ih =>
    rw [List.map_cons, List.mapM_cons, List.mapM_cons, compileTuple_single, ih]
    cases e.canonical? field value with
    | error _ => rfl
    | ok kept => cases values.mapM (e.canonical? field) <;> rfl

/-- The rows of a table that a criterion selects. -/
def Criterion.found (criterion : Criterion) (table : Table e) :
    Except Failure (List (Stored e)) :=
  (criterion.compile e).map table.select

/-- **Values of a field are tuples of one.** -/
theorem found_byField (table : Table e) (field : String) (values : List (Option String)) :
    (Criterion.matcher (.byField field values)).found table =
      (Criterion.matcher (.byFields [field] (values.map fun value => [value]))).found table := by
  have same (column : e.Column) (kept : List (Option String)) :
      table.select (.oneOf column kept) =
        table.select (.anyOf (kept.map fun value => [(column, value)])) := by
    refine List.filter_congr fun stored _ => ?_
    show kept.any _ = (kept.map _).any _
    rw [List.any_map]
    refine congrArg kept.any (funext fun value => ?_)
    rw [Function.comp_apply, List.all_cons, List.all_nil, Bool.and_true]
  unfold Criterion.found Criterion.compile Matcher.compile
  simp only [List.mapM_cons, List.mapM_nil]
  cases e.matchColumn field with
  | error _ => rfl
  | ok column =>
    show (values.mapM _ >>= fun kept => _ : Except Failure (Clause e)).map _ =
      ((values.map _).mapM (compileTuple _ [(field, column)]) >>= fun parts => _).map _
    rw [mapM_compileTuple_single]
    cases values.mapM (e.canonical? field) with
    | error _ => rfl
    | ok kept => exact congrArg Except.ok (same column kept)

/-! ## The result -/

theorem Criterion.found_ok {criterion : Criterion} {table : Table e} {found : List (Stored e)}
    (h : criterion.found table = .ok found) :
    ∃ m clause, criterion = .matcher m ∧ m.compile e = .ok clause ∧
      found = table.select clause := by
  obtain ⟨clause, compiled, rfl⟩ := ok_of_map h
  cases criterion with
  | matcher m => exact ⟨m, clause, rfl, compiled, rfl⟩
  | other kind => cases compiled

theorem Criterion.found_error_iff {criterion : Criterion} {table : Table e} {failure : Failure} :
    criterion.found table = .error failure ↔ criterion.compile e = .error failure := by
  unfold Criterion.found
  cases criterion.compile e with
  | ok clause => exact ⟨nofun, nofun⟩
  | error other => exact ⟨fun h => congrArg _ (Except.error.inj h),
      fun h => congrArg _ (Except.error.inj h)⟩

/-- **A matcher selects the rows that it means, and is refused only if it does not fit.** Read
without a limit, the rows come in the order of their ids, each once. The database takes no
condition that is nested too deeply (`Clause.check`); what it takes, it answers with these rows. -/
theorem matcher_semantics {database : Database} {table : Table e} (stands : database e = some table)
    (criterion : Criterion) :
    (∀ found, criterion.found table = .ok found →
      ∃ m clause, criterion = .matcher m ∧ m.compile e = .ok clause ∧
        Query.rows ({ criterion } : Query e) none database =
          (clause.check false).map (fun _ => found) ∧
        (found.map Stored.id).Pairwise (· < ·) ∧
        ∀ stored, stored ∈ found ↔ stored ∈ table.rows ∧ m.Selects stored.row) ∧
    (criterion.HasTexts →
      ((∃ failure, criterion.found table = .error failure) ↔
        ∃ failure, criterion.Misfits e failure) ∧
      ∀ failure, criterion.found table = .error failure → criterion.Misfits e failure ∧
        Query.rows ({ criterion } : Query e) none database = .error failure) ∧
    -- Nothing asked for is nothing found, and one field may be written as a tuple of one.
    (∀ field found, (Criterion.matcher (.byField field [])).found table = .ok found →
      found = []) ∧
    (∀ fields found, (Criterion.matcher (.byFields fields [])).found table = .ok found →
      found = []) ∧
    ∀ field values, (Criterion.matcher (.byField field values)).found table =
      (Criterion.matcher (.byFields [field] (values.map fun value => [value]))).found table := by
  have selected (m : Matcher) (found : List (Stored e))
      (h : (Criterion.matcher m).found table = .ok found) (stored : Stored e) :
      stored ∈ found ↔ stored ∈ table.rows ∧ m.Selects stored.row := by
    obtain ⟨m', clause, same, compiled, rfl⟩ := Criterion.found_ok h
    cases same
    exact List.mem_filter.trans (and_congr_right fun _ => Matcher.holds_iff compiled)
  refine ⟨fun found h => ?_, fun texts => ⟨?_, fun failure h => ?_⟩, fun field found h => ?_,
    fun fields found h => ?_, found_byField table⟩
  · obtain ⟨m, clause, rfl, compiled, rfl⟩ := Criterion.found_ok h
    refine ⟨m, clause, rfl, compiled, Database.read_eq compiled stands, ?_, selected m _ h⟩
    exact table.ascending.sublist (List.filter_sublist.map Stored.id)
  · constructor
    · rintro ⟨failure, h⟩
      exact ⟨failure, Criterion.misfits_of_error texts (Criterion.found_error_iff.1 h)⟩
    · rintro ⟨reason, misfits⟩
      cases h : criterion.found table with
      | error failure => exact ⟨failure, rfl⟩
      | ok found =>
        obtain ⟨clause, compiled, _⟩ := ok_of_map h
        exact absurd compiled (misfits.fails clause)
  · have failed := Criterion.found_error_iff.1 h
    refine ⟨Criterion.misfits_of_error texts failed, ?_⟩
    unfold Query.rows
    rw [failed]
    rfl
  · refine List.eq_nil_iff_forall_not_mem.2 fun stored mem => ?_
    obtain ⟨_, _, none_, _⟩ := (selected _ found h stored).1 mem
    cases none_
  · refine List.eq_nil_iff_forall_not_mem.2 fun stored mem => ?_
    obtain ⟨_, _, none_, _⟩ := (selected _ found h stored).1 mem
    cases none_

/-- A rate of a pair in a table of rates. -/
def rateOfPair (id : Nat) (platform asset : String) : Stored .interestRate where
  id := id
  row := ⟨fun
    | .platform => platform
    | .asset => asset
    | .lendingRate | .borrowRate | .utilizationRate | .availableAmount | .borrowedAmount =>
      (0 : Float)
    | .scrapedAt => (⟨1, by decide⟩ : Time.Moment)⟩

/-- Every platform has a rate of every asset. -/
def crossedPairs : Table .interestRate where
  rows := [rateOfPair 2 "ORCA" "SOL", rateOfPair 3 "ORCA" "USDC", rateOfPair 5 "RAY" "SOL",
    rateOfPair 7 "RAY" "USDC"]
  ascending := by decide

/-- Two of the pairs, written in any case. -/
def twoPairs : Matcher :=
  .byFields ["platform", "asset"] [[some "Ray", some "sol"], [some "orca", some "usdc"]]

/-- Two pairs select two rows and not four, and a field that cannot be named is refused even if no
value is asked for. -/
theorem crossedPairs_selected :
    (∃ found, found.map Stored.id = [3, 5] ∧
      Query.rows ({ criterion := .matcher twoPairs } : Query .interestRate) none
        (Database.empty.put .interestRate crossedPairs) = .ok found ∧
      ∀ stored, stored ∈ found ↔ stored ∈ crossedPairs.rows ∧ twoPairs.Selects stored.row) ∧
    ∃ failure,
      (Criterion.matcher (.byField "scraped_at" [])).found crossedPairs = .error failure := by
  have stands := Database.put_same Database.empty crossedPairs
  constructor
  · have ids : ((Criterion.matcher twoPairs).found crossedPairs).map (List.map Stored.id) =
        .ok [3, 5] := rfl
    obtain ⟨found, selected, ids⟩ := ok_of_map ids
    obtain ⟨m, clause, same, compiled, asked, _, means⟩ :=
      (matcher_semantics stands (.matcher twoPairs)).1 found selected
    cases same
    have checked : (twoPairs.compile .interestRate).bind (fun clause => clause.check false) =
        .ok () := rfl
    rw [compiled] at checked
    refine ⟨found, ids, ?_, means⟩
    rw [asked, show clause.check false = .ok () from checked]
    rfl
  · have unknown : Entity.Unmatchable .interestRate "scraped_at" := by decide
    have texts : (Criterion.matcher (.byField "scraped_at" [])).HasTexts := List.not_mem_nil
    exact ((matcher_semantics stands _).2.1 texts).1.2 ⟨_, .field unknown⟩

end FarmLedger
