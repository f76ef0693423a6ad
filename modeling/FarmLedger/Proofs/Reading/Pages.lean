/-
# FarmLedger.Proofs.Reading.Pages — pages divide what is read without pages

A page is asked for twice: how many rows match in all, and which of them stand on the page. Both
questions go through the same matcher and the same further condition, so the number is that of the
rows that are read without pages (`Query.count_eq`), and the page is a part of these
(`Query.slice_eq`). Parts of one size, laid side by side, are the rows again (`flatMap_part`).

`Divides` says what follows for a way of paging and the rows that it divides, and `pages_divide`
that every query divides its rows, share prices within a span among them.
-/
import FarmLedger.Proofs.Reading.Rows

namespace FarmLedger

open FarmLedger.Time

/-! ## Parts of a list -/

section Parts

variable {α : Type} {items : List α} {size : Nat}

/-- The items from one position up to another one, counted from zero. -/
def part (items : List α) (start stop : Nat) : List α :=
  (items.take stop).drop start

/-- How many pages of a size some rows fill; the last one need not be full. -/
def pageCount (total size : Nat) : Nat :=
  (total + size - 1) / size

theorem part_eq (items : List α) (start size : Nat) :
    part items start (start + size) = (items.drop start).take size := by
  rw [part, List.drop_take, Nat.add_sub_cancel_left]

theorem take_append_part {start stop : Nat} (before : start ≤ stop) :
    items.take start ++ part items start stop = items.take stop := by
  have first : items.take start = (items.take stop).take start := by
    rw [List.take_take, Nat.min_eq_left before]
  rw [first]
  exact List.take_append_drop start _

/-- The parts of one size up to a position are what stands before it. -/
theorem flatMap_part (items : List α) (size count : Nat) :
    ((List.range' 1 count).flatMap fun number => part items ((number - 1) * size) (number * size)) =
      items.take (count * size) := by
  induction count with
  | zero => simp
  | succ count ih =>
    rw [List.range'_1_concat, List.flatMap_append, ih, List.flatMap_singleton,
      Nat.add_sub_cancel_left, Nat.add_comm 1 count]
    exact take_append_part (Nat.mul_le_mul_right size (Nat.le_succ count))

theorem le_pageCount_mul (total : Nat) (positive : 1 ≤ size) :
    total ≤ pageCount total size * size := by
  unfold pageCount
  have quotient := Nat.div_add_mod (total + size - 1) size
  have rest := Nat.mod_lt (total + size - 1) positive
  rw [Nat.mul_comm] at quotient
  omega

/-- What begins behind the last item is empty. -/
theorem part_beyond {start stop : Nat} (behind : items.length ≤ start) :
    part items start stop = [] := by
  refine List.drop_eq_nil_of_le ?_
  rw [List.length_take]
  omega

end Parts

/-! ## What paging comes to -/

variable {e : Entity} {query : Query e} {database : Database} {found : List (Stored e)}

structure Divides (page : Option Int → Option Int → Except Failure (Page e))
    (found : List (Stored e)) : Prop where
  /-- Without a number or without a size all rows are read, and not counted. -/
  whole : ∀ number size, number = none ∨ size = none → page number size = .ok ⟨found, 0⟩
  /-- A page is a part of the rows, and comes with the number of all. -/
  part : ∀ number size : Nat, 1 ≤ number → 1 ≤ size →
    Kind.fitsWord ((number - 1) * size : Nat) = true → Kind.fitsWord size = true →
    page (some number) (some size) =
      .ok ⟨part found ((number - 1) * size) (number * size), found.length⟩
  /-- The pages that the rows fill, one after the other, are the rows. -/
  joined : ∀ size : Nat, 1 ≤ size → Kind.fitsWord size = true →
    (∀ number < pageCount found.length size, Kind.fitsWord (number * size : Nat) = true) →
    ∃ pages, ((List.range' 1 (pageCount found.length size)).mapM fun number : Nat =>
        page (some number) (some size)) = .ok pages ∧ pages.flatMap Page.rows = found
  /-- Behind them every page is empty. -/
  beyond : ∀ number size : Nat, 1 ≤ size → pageCount found.length size < number →
    Kind.fitsWord ((number - 1) * size : Nat) = true → Kind.fitsWord size = true →
    page (some number) (some size) = .ok ⟨[], found.length⟩
  /-- Numbers and sizes below one, and no others, are refused as such. -/
  refused_iff : ∀ number size : Int,
    (∃ failure ∈ [Failure.pageNumber number, .pageSize size],
      page (some number) (some size) = .error failure) ↔ number < 1 ∨ size < 1
  /-- What is left are pages that the database cannot count to. -/
  uncounted : ∀ number size : Nat, 1 ≤ number → 1 ≤ size →
    ¬(Kind.fitsWord ((number - 1) * size : Nat) = true ∧ Kind.fitsWord size = true) →
    page (some number) (some size) = .error .wholeTooLarge

namespace Query

/-- The question for the number goes wrong where the question for the rows does, and else counts
them. -/
theorem count_eq (query : Query e) (database : Database) :
    query.count database = (query.rows none database).map List.length := by
  have counted (clause : Clause e) (keeps : Row e → Bool) (table : Table e) :
      (table.select clause).countP (fun stored => keeps stored.row) =
        (query.answer clause keeps table).length := by
    rw [List.countP_eq_length_filter]
    exact (query.order.arrange_perm _).length_eq.symm
  simp only [count, rows, map_bind, counted]
  rfl

theorem slice_eq {skipped size : Int} (asked : query.rows none database = .ok found)
    (start : Kind.fitsWord skipped = true) (length : Kind.fitsWord size = true) :
    query.slice skipped size database = .ok ((found.drop skipped.toNat).take size.toNat) :=
  bind_ok asked (bind_ok (if_pos start) (bind_ok (if_pos length) rfl))

theorem slice_uncounted {skipped size : Int} (asked : query.rows none database = .ok found)
    (wide : ¬(Kind.fitsWord skipped = true ∧ Kind.fitsWord size = true)) :
    query.slice skipped size database = .error .wholeTooLarge := by
  unfold slice checkWord
  rw [asked]
  by_cases start : Kind.fitsWord skipped = true
  · have length : ¬Kind.fitsWord size = true := fun length => wide ⟨start, length⟩
    rw [if_pos start, if_neg length]
    rfl
  · rw [if_neg start]
    rfl

/-! ### Pages -/

theorem page_unpaged {number size : Option Int} (all : number = none ∨ size = none) :
    query.page number size database = (query.rows none database).map fun rows => ⟨rows, 0⟩ := by
  rcases all with rfl | rfl
  · rfl
  · cases number <;> rfl

theorem page_refused {number size : Int} (below : number < 1 ∨ size < 1) :
    ∃ failure ∈ [Failure.pageNumber number, .pageSize size],
      query.page (some number) (some size) database = .error failure := by
  unfold page
  by_cases first : number < 1
  · refine ⟨.pageNumber number, by simp, ?_⟩
    simp only [if_pos first]
    rfl
  · refine ⟨.pageSize size, by simp, ?_⟩
    simp only [if_neg first, if_pos (below.resolve_left first)]
    rfl

/-- A page that is not refused is counted and sliced. -/
theorem page_valid {number size : Int} (first : 1 ≤ number) (positive : 1 ≤ size) :
    query.page (some number) (some size) database = (do
      let total ← query.count database
      let rows ← query.slice ((number - 1) * size) size database
      pure ⟨rows, total⟩) := by
  unfold page
  simp only [if_neg (Int.not_lt.2 first), if_neg (Int.not_lt.2 positive)]

theorem page_failed {number size : Option Int} {failure : Failure}
    (valid : ∀ n ∈ number, ∀ s ∈ size, 1 ≤ n ∧ 1 ≤ s)
    (failed : query.rows none database = .error failure) :
    query.page number size database = .error failure := by
  cases number with
  | none =>
    rw [page_unpaged (.inl rfl), failed]
    rfl
  | some number =>
    cases size with
    | none =>
      rw [page_unpaged (.inr rfl), failed]
      rfl
    | some size =>
      obtain ⟨first, positive⟩ := valid number rfl size rfl
      rw [page_valid first positive, count_eq, failed]
      rfl

theorem skipped_eq {number : Nat} (first : 1 ≤ number) (size : Nat) :
    ((number : Int) - 1) * size = ((number - 1) * size : Nat) := by
  rw [Int.natCast_mul, Int.natCast_sub first, Int.natCast_one]

variable {number size : Nat}

theorem page_part (asked : query.rows none database = .ok found) (first : 1 ≤ number)
    (positive : 1 ≤ size) (start : Kind.fitsWord ((number - 1) * size : Nat) = true)
    (length : Kind.fitsWord size = true) :
    query.page (some number) (some size) database =
      .ok ⟨part found ((number - 1) * size) (number * size), found.length⟩ := by
  have next : number * size = (number - 1) * size + size := by
    rw [← Nat.succ_mul, Nat.succ_eq_add_one, Nat.sub_add_cancel first]
  rw [page_valid (by omega) (by omega), skipped_eq first, count_eq, asked,
    slice_eq asked start length, next, part_eq]
  rfl

theorem page_uncounted (asked : query.rows none database = .ok found) (first : 1 ≤ number)
    (positive : 1 ≤ size)
    (wide : ¬(Kind.fitsWord ((number - 1) * size : Nat) = true ∧ Kind.fitsWord size = true)) :
    query.page (some number) (some size) database = .error .wholeTooLarge := by
  rw [page_valid (by omega) (by omega), skipped_eq first, count_eq, asked,
    slice_uncounted asked wide]
  rfl

theorem divides (asked : query.rows none database = .ok found) :
    Divides (fun number size => query.page number size database) found where
  whole number size all := by rw [page_unpaged all, asked]; rfl
  part number size first positive start length := page_part asked first positive start length
  joined size positive length starts := by
    refine ⟨(List.range' 1 (pageCount found.length size)).map fun number =>
      ⟨part found ((number - 1) * size) (number * size), found.length⟩, ?_, ?_⟩
    · rw [mapM_ok_iff, List.forall₂_map_right_iff, List.forall₂_same]
      intro number mem
      obtain ⟨first, last⟩ := List.mem_range'_1.1 mem
      exact page_part asked first positive (starts (number - 1) (by omega)) length
    · rw [List.flatMap_map, flatMap_part]
      exact List.take_of_length_le (le_pageCount_mul found.length positive)
  beyond number size positive behind start length := by
    rw [page_part asked (by omega) positive start length]
    have far : found.length ≤ (number - 1) * size :=
      Nat.le_trans (le_pageCount_mul found.length positive)
        (Nat.mul_le_mul_right size (by omega))
    rw [part_beyond far]
  refused_iff number size := by
    constructor
    · rintro ⟨failure, listed, failed⟩
      by_contra valid
      obtain ⟨first, positive⟩ : 1 ≤ number ∧ 1 ≤ size := by omega
      lift number to Nat using by omega
      lift size to Nat using by omega
      by_cases fits : Kind.fitsWord ((number - 1) * size : Nat) = true ∧
          Kind.fitsWord size = true
      · rw [page_part asked (by omega) (by omega) fits.1 fits.2] at failed
        cases failed
      · rw [page_uncounted asked (by omega) (by omega) fits] at failed
        cases failed
        simp at listed
    · exact page_refused
  uncounted number size first positive wide := page_uncounted asked first positive wide

end Query

/-! ## Share prices within a span -/

def shareTime (row : Row .historicTsharePrice) : Moment :=
  row .scrapedAt

/-- The question for the share prices that match and were taken within a span. -/
def spanQuery (m : Matcher) (start finish : Timestamp) (byTime : Bool) :
    Query .historicTsharePrice where
  criterion := .matcher m
  keeps := some (withinSpan start finish)
  order := if byTime then .ascending shareTime else .byId

variable {m : Matcher} {start finish : Timestamp} {byTime : Bool} {first last : Moment}
  {table : Table .historicTsharePrice}

/-- Both ends of a span belong to it. -/
theorem withinSpan_eq (begins : start.toStored = .ok first) (ends : finish.toStored = .ok last) :
    withinSpan start finish =
      .ok fun row => first ≤ shareTime row && shareTime row ≤ last := by
  unfold withinSpan
  rw [begins, ends]
  rfl

/-- The share prices of a span are those that the matcher means and that were taken within the span,
by ascending id or by time and then by id. -/
theorem spanQuery_rows (stands : database .historicTsharePrice = some table)
    (accepted : (Criterion.matcher m).Accepted .historicTsharePrice true)
    (begins : start.toStored = .ok first) (ends : finish.toStored = .ok last) :
    ∃ found, (spanQuery m start finish byTime).rows none database = .ok found ∧
      (∀ stored, stored ∈ found ↔ stored ∈ table.rows ∧ m.Selects stored.row ∧
        first ≤ shareTime stored.row ∧ shareTime stored.row ≤ last) ∧
      found.Pairwise fun a b =>
        if byTime then RowOrder.ByTimeThenId shareTime a b else a.id < b.id := by
  obtain ⟨clause, compiled, checked⟩ := accepted
  let within (stored : Stored .historicTsharePrice) : Bool :=
    first ≤ shareTime stored.row && shareTime stored.row ≤ last
  have ids : (((table.select clause).filter within).map Stored.id).Pairwise (· < ·) :=
    (table.ids_select clause).sublist (List.filter_sublist.map Stored.id)
  refine ⟨_, Database.rows_iff.2 ⟨clause, _, table, compiled, withinSpan_eq begins ends, checked,
    stands, rfl⟩, fun stored => ?_, ?_⟩
  · unfold Query.answer
    rw [RowOrder.mem_arrange, List.mem_filter, Table.mem_select compiled, Bool.and_eq_true,
      decide_eq_true_eq, decide_eq_true_eq, and_assoc]
  · cases byTime with
    | false => exact List.pairwise_map.1 ids
    | true => exact RowOrder.ascending_byTimeThenId _ ids

/-! ## The result -/

/-- **Pages divide what is read without pages.** This holds of every query; where a query is not
answered, no page of it is, and numbers and sizes below one are refused all the same. The share
prices within a span are divided so, and what is divided are the prices that match and were taken
within the span, both ends included. -/
theorem pages_divide :
    (∀ {e : Entity} (query : Query e) (database : Database),
      (∀ found, query.rows none database = .ok found →
        Divides (fun number size => query.page number size database) found ∧
          (found.map Stored.id).Nodup) ∧
      (∀ failure, query.rows none database = .error failure → ∀ number size : Option Int,
        (∀ n ∈ number, ∀ s ∈ size, 1 ≤ n ∧ 1 ≤ s) →
          query.page number size database = .error failure) ∧
      ∀ number size : Int, number < 1 ∨ size < 1 →
        ∃ failure ∈ [Failure.pageNumber number, .pageSize size],
          query.page (some number) (some size) database = .error failure) ∧
    ∀ (m : Matcher) (start finish : Timestamp) (first last : Moment) (byTime : Bool)
      (table : Table .historicTsharePrice) (database : Database),
      database .historicTsharePrice = some table →
      (Criterion.matcher m).Accepted .historicTsharePrice true →
      start.toStored = .ok first → finish.toStored = .ok last →
      ∃ found, Divides (fun number size =>
          readPricePage (.matcher m) start finish number size byTime database) found ∧
        (∀ stored, stored ∈ found ↔ stored ∈ table.rows ∧ m.Selects stored.row ∧
          first ≤ shareTime stored.row ∧ shareTime stored.row ≤ last) ∧
        found.Pairwise fun a b =>
          if byTime then RowOrder.ByTimeThenId shareTime a b else a.id < b.id := by
  refine ⟨fun query database => ⟨fun found asked => ⟨query.divides asked, ?_⟩,
    fun failure failed number size valid => Query.page_failed valid failed,
    fun number size => Query.page_refused⟩, ?_⟩
  · obtain ⟨clause, keeps, table, _, _, _, _, rfl⟩ := Database.rows_iff.1 asked
    refine RowOrder.nodup_arrange query.order ?_
    exact (table.ids_select clause).sublist (List.filter_sublist.map Stored.id)
  · intro m start finish first last byTime table database stands accepted begins ends
    obtain ⟨found, asked, members, ordered⟩ := spanQuery_rows stands accepted begins ends
    exact ⟨found, Query.divides asked, members, ordered⟩

/-- A share price of a farm, taken so many microseconds after the beginning. -/
def sharePriceAt (id micros : Nat) : Stored .historicTsharePrice where
  id := id
  row := ⟨fun
    | .farmName => "farm"
    | .price | .totalSupply | .holderCount => (1 : Float)
    | .scrapedAt => Moment.early micros⟩

/-- Share prices that were not taken in the order in which they were recorded. -/
def sharePrices : Table .historicTsharePrice where
  rows := [sharePriceAt 1 60, sharePriceAt 2 40, sharePriceAt 4 20, sharePriceAt 5 40,
    sharePriceAt 6 10]
  ascending := by decide

def twentieth : Moment := .early 20
def fortieth : Moment := .early 40

/-- The pages of the share prices that were taken from the twentieth microsecond to the fortieth. -/
def spanPages (number size : Option Int) : Except Failure (Page .historicTsharePrice) :=
  readPricePage (.matcher .all) (.ofUtc twentieth) (.ofUtc fortieth) number size true
    (Database.empty.put .historicTsharePrice sharePrices)

/-- Of three prices within the span the oldest comes first, and of two that are equally old the one
with the lower id; the last of them is alone on the second page. By a field that does not name them
they have no pages. -/
theorem sharePrices_divided :
    (∃ found, found.map Stored.id = [4, 2, 5] ∧ Divides spanPages found ∧
      ∃ page, spanPages (some 2) (some 2) = .ok page ∧ page.rows.map Stored.id = [5] ∧
        page.total = 3) ∧
    ∃ failure, readPage .historicTsharePrice (.matcher (.byField "price" [])) (some 2) (some 2)
      (Database.empty.put .historicTsharePrice sharePrices) = .error failure := by
  have accepted : (Criterion.matcher .all).Accepted .historicTsharePrice true := ⟨_, rfl, rfl⟩
  obtain ⟨found, divides, members, ordered⟩ := pages_divide.2 .all _ _ _ _ true sharePrices _
    (Database.put_same Database.empty sharePrices) accepted
    (Timestamp.toStored_ofUtc twentieth) (Timestamp.toStored_ofUtc fortieth)
  have inOrder : found = [sharePriceAt 4 20, sharePriceAt 2 40, sharePriceAt 5 40] := by
    refine RowOrder.eq_of_byTimeThenId ordered (by decide) fun stored => ?_
    have within : (sharePrices.rows.filter fun stored =>
        twentieth ≤ shareTime stored.row && shareTime stored.row ≤ fortieth) =
        [sharePriceAt 2 40, sharePriceAt 4 20, sharePriceAt 5 40] := rfl
    have among := List.mem_filter.symm.trans (iff_of_eq (congrArg (stored ∈ ·) within))
    rw [Bool.and_eq_true, decide_eq_true_eq, decide_eq_true_eq] at among
    simp only [members, Matcher.Selects, true_and, among, List.mem_cons, List.not_mem_nil, or_false]
    exact or_left_comm
  constructor
  · refine ⟨found, by rw [inOrder]; rfl, divides, _, divides.part 2 2 (by decide) (by decide)
      (by decide) (by decide), ?_, ?_⟩ <;> rw [inOrder] <;> rfl
  · have unread : Query.rows ({ criterion := .matcher (.byField "price" []) } :
        Query .historicTsharePrice) none (Database.empty.put .historicTsharePrice sharePrices) =
        .error (.unmatchableField "historic_tshare_price" "price") := rfl
    exact ⟨_, (pages_divide.1 _ _).2.1 _ unread (some 2) (some 2) (by simp)⟩

end FarmLedger
