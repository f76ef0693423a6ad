/-
# FarmLedger.Proofs.Matching.Described — a matcher is known by its description

Failures and journal lines show a matcher by its description. `describe_eq_iff` says that nothing
is lost in it, for all values, whatever quotes, brackets or escapes they hold: two matchers with one
description are the same matcher.

The values are lists of quoted texts, or lists of such lists, and each of these shows where it ends
(`selfDelimiting_values`, `selfDelimiting_tuples`). Field names are written as they are. They end at
the first equals sign, and several of them are cut at their commas, since no field that an entity
lets matchers name is empty or holds one of these signs (`matchable_plain`).
-/
import FarmLedger.Proofs.Matching.Selection
import FarmLedger.Proofs.Text.Chunks
import FarmLedger.Proofs.Text.Quoted

namespace FarmLedger

open FarmLedger.Text

/-! ## Fields -/

/-- Some entity lets matchers name the field. -/
def IsMatchable (field : String) : Prop :=
  ∃ e : Entity, ∃ column ∈ e.schema.matchable, e.schema.name column = field

def Matcher.fields : Matcher → List String
  | all => []
  | byField field _ => [field]
  | byFields fields _ => fields

/-- The name is there, and none of the signs that stand around names is in it. -/
def IsPlain (field : String) : Prop :=
  field.toList ≠ [] ∧ ',' ∉ field.toList ∧ '=' ∉ field.toList

instance (field : String) : Decidable (IsPlain field) :=
  inferInstanceAs (Decidable (_ ∧ _))

theorem matchable_plain {field : String} (matchable : IsMatchable field) : IsPlain field := by
  obtain ⟨e, column, mem, rfl⟩ := matchable
  have plain : ∀ column ∈ e.schema.matchable, IsPlain (e.schema.name column) := by
    cases e <;> decide
  exact plain column mem

section Names

variable {fields others : List String}

/-- Names with commas between them are cut at the commas. -/
theorem splitOn_joined (plain : ∀ field ∈ fields, IsPlain field) (some_ : fields ≠ []) :
    (",".intercalate fields).toList.splitOn ',' = fields.map String.toList := by
  rw [String.toList_intercalate]
  refine List.splitOn_intercalate ',' ?_ (mt List.map_eq_nil_iff.1 some_)
  intro name mem
  obtain ⟨field, among, rfl⟩ := List.mem_map.1 mem
  exact (plain field among).2.1

theorem joined_ne_empty (plain : ∀ field ∈ fields, IsPlain field) (some_ : fields ≠ []) :
    ",".intercalate fields ≠ ",".intercalate [] := by
  intro same
  have cut : [[]] = fields.map String.toList := by
    rw [← splitOn_joined plain some_, same]
    rfl
  obtain ⟨field, mem, empty⟩ := List.mem_map.1 (cut ▸ List.mem_singleton_self [])
  exact (plain field mem).1 empty

theorem joined_inj (plain : ∀ field ∈ fields, IsPlain field)
    (plain' : ∀ field ∈ others, IsPlain field)
    (same : ",".intercalate fields = ",".intercalate others) : fields = others := by
  by_cases none_ : fields = []
  · by_cases none' : others = []
    · rw [none_, none']
    · exact absurd (none_ ▸ same).symm (joined_ne_empty plain' none')
  · by_cases none' : others = []
    · exact absurd (none' ▸ same) (joined_ne_empty plain none_)
    · have names := splitOn_joined plain none_
      rw [same, splitOn_joined plain' none'] at names
      exact (List.map_injective_iff.2 fun _ _ => String.toList_inj.1) names.symm

/-- No equals sign stands between names. -/
theorem equals_not_mem_joined (plain : ∀ field ∈ fields, IsPlain field) :
    '=' ∉ (",".intercalate fields).toList := by
  rw [String.toList_intercalate]
  induction fields with
  | nil => simp
  | cons field fields ih =>
    have first := (plain field List.mem_cons_self).2.2
    have rest := ih fun other mem => plain other (List.mem_cons_of_mem _ mem)
    cases fields with
    | nil => simpa using first
    | cons next fields =>
      simp only [List.map_cons, List.intercalate_cons_cons] at rest ⊢
      simp only [List.mem_append, not_or]
      exact ⟨⟨first, by decide⟩, rest⟩

end Names

/-- What stands before the first equals sign shows where it ends. -/
theorem append_equals_inj {names names' rest other : List Char} (free : '=' ∉ names)
    (free' : '=' ∉ names') (same : names ++ '=' :: rest = names' ++ '=' :: other) :
    names = names' ∧ rest = other := by
  rcases append_mark_eq_iff.1 same with both | ⟨part, rfl, _⟩ | ⟨part, rfl, _⟩
  · exact both
  · simp at free'
  · simp at free

/-! ## Values -/

theorem quote?_opens (value : Option String) :
    ∃ head tail, (quote? value).toList = head :: tail ∧ head ≠ ']' := by
  cases value with
  | none => exact ⟨_, _, rfl, by decide⟩
  | some text =>
    refine ⟨_, _, toList_quote?_some text, ?_⟩
    rcases isMark_quoteMark text.toList with mark | mark <;> rw [mark] <;> decide

theorem selfDelimiting_values :
    SelfDelimiting fun values : List (Option String) => (bracketed (values.map quote?)).toList :=
  selfDelimiting_bracketed selfDelimiting_quote? quote?_opens

theorem tuple_opens (tuple : List (Option String)) :
    ∃ head tail, (bracketed (tuple.map quote?)).toList = head :: tail ∧ head ≠ ']' := by
  cases tuple with
  | nil => exact ⟨_, _, toList_bracketed_nil, by decide⟩
  | cons value values => exact ⟨_, _, toList_bracketed_cons value values, by decide⟩

theorem selfDelimiting_tuples :
    SelfDelimiting fun tuples : List (List (Option String)) =>
      (bracketed (tuples.map fun tuple => bracketed (tuple.map quote?))).toList :=
  selfDelimiting_bracketed selfDelimiting_values tuple_opens

/-! ## Matchers -/

namespace Matcher

theorem toList_describe_byField (field : String) (values : List (Option String)) :
    (byField field values).describe.toList = "ByField(".toList ++
      (field.toList ++ '=' :: ((bracketed (values.map quote?)).toList ++ [')'])) := by
  have parts : (byField field values).describe =
      "ByField(" ++ field ++ "=" ++ bracketed (values.map quote?) ++ ")" := rfl
  rw [parts]
  simp only [String.toList_append, List.append_assoc]
  rfl

theorem toList_describe_byFields (fields : List String) (tuples : List (List (Option String))) :
    (byFields fields tuples).describe.toList = "ByCompositeField((".toList ++
      (((",".intercalate fields).toList ++ [')']) ++ '=' ::
        ((bracketed (tuples.map fun tuple => bracketed (tuple.map quote?))).toList ++ [')'])) := by
  have parts : (byFields fields tuples).describe =
      "ByCompositeField((" ++ ",".intercalate fields ++ ")="
        ++ bracketed (tuples.map fun tuple => bracketed (tuple.map quote?)) ++ ")" := rfl
  rw [parts]
  simp only [String.toList_append, List.append_assoc]
  rfl

theorem byField_inj {field field' : String} {values values' : List (Option String)}
    (plain : IsPlain field) (plain' : IsPlain field')
    (same : (byField field values).describe = (byField field' values').describe) :
    field = field' ∧ values = values' := by
  have chars := String.toList_inj.2 same
  rw [toList_describe_byField, toList_describe_byField] at chars
  obtain ⟨names, rests⟩ :=
    append_equals_inj plain.2.2 plain'.2.2 (List.append_cancel_left chars)
  exact ⟨String.toList_inj.1 names, (selfDelimiting_values rests).1⟩

theorem byFields_inj {fields fields' : List String} {tuples tuples' : List (List (Option String))}
    (plain : ∀ field ∈ fields, IsPlain field) (plain' : ∀ field ∈ fields', IsPlain field)
    (same : (byFields fields tuples).describe = (byFields fields' tuples').describe) :
    fields = fields' ∧ tuples = tuples' := by
  have chars := String.toList_inj.2 same
  rw [toList_describe_byFields, toList_describe_byFields] at chars
  have free {fields : List String} (plain : ∀ field ∈ fields, IsPlain field) :
      '=' ∉ (",".intercalate fields).toList ++ [')'] := by
    rw [List.mem_append, not_or]
    exact ⟨equals_not_mem_joined plain, by decide⟩
  obtain ⟨names, rests⟩ :=
    append_equals_inj (free plain) (free plain') (List.append_cancel_left chars)
  have joined := String.toList_inj.1 (List.append_cancel_right names)
  exact ⟨joined_inj plain plain' joined, (selfDelimiting_tuples rests).1⟩

/-- **A matcher is known by its description**, if the fields that it names may be matched: two
matchers have the same description exactly if they are the same, form by form, field by field and
value by value. -/
theorem describe_eq_iff {a b : Matcher} (matchable : ∀ field ∈ a.fields, IsMatchable field)
    (matchable' : ∀ field ∈ b.fields, IsMatchable field) : a.describe = b.describe ↔ a = b := by
  refine ⟨fun same => ?_, congrArg describe⟩
  have plain : ∀ field ∈ a.fields, IsPlain field := fun field mem =>
    matchable_plain (matchable field mem)
  have plain' : ∀ field ∈ b.fields, IsPlain field := fun field mem =>
    matchable_plain (matchable' field mem)
  -- Descriptions of different forms differ in their first word.
  have chars := String.toList_inj.2 same
  cases a with
  | all =>
    cases b with
    | all => rfl
    | byField => rw [toList_describe_byField] at chars; cases chars
    | byFields => rw [toList_describe_byFields] at chars; cases chars
  | byField field values =>
    cases b with
    | all => rw [toList_describe_byField] at chars; cases chars
    | byField field' values' =>
      obtain ⟨rfl, rfl⟩ :=
        byField_inj (plain field List.mem_cons_self) (plain' field' List.mem_cons_self) same
      rfl
    | byFields =>
      rw [toList_describe_byField, toList_describe_byFields] at chars
      cases chars
  | byFields fields tuples =>
    cases b with
    | all => rw [toList_describe_byFields] at chars; cases chars
    | byField =>
      rw [toList_describe_byField, toList_describe_byFields] at chars
      cases chars
    | byFields fields' tuples' =>
      obtain ⟨rfl, rfl⟩ := byFields_inj plain plain' same
      rfl

/-- A value that looks like two, a word that looks like no value, and a field with a value between
quotes that looks like a tuple: all of them are told apart. -/
theorem lookalikes_differ :
    (byField "asset" [some "a', 'b"]).describe ≠
        (byField "asset" [some "a", some "b"]).describe ∧
      (byField "asset" [some "None"]).describe ≠ (byField "asset" [none]).describe ∧
      (byFields ["asset", "platform"] [[some "a"], []]).describe ≠
        (byFields ["asset", "platform"] [[some "a'], ["]]).describe := by
  have asset : IsMatchable "asset" := ⟨.tokenPrice, .asset, by decide, rfl⟩
  have platform : IsMatchable "platform" := ⟨.tokenPrice, .platform, by decide, rfl⟩
  have one (values) : ∀ field ∈ (byField "asset" values).fields, IsMatchable field := by
    simpa [fields] using asset
  have two (tuples) : ∀ field ∈ (byFields ["asset", "platform"] tuples).fields,
      IsMatchable field := by
    simpa [fields] using And.intro asset platform
  refine ⟨mt (describe_eq_iff (one _) (one _)).1 ?_, mt (describe_eq_iff (one _) (one _)).1 ?_,
    mt (describe_eq_iff (two _) (two _)).1 ?_⟩ <;> decide

end Matcher

end FarmLedger
