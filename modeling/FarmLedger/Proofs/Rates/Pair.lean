/-
# FarmLedger.Proofs.Rates.Pair — rates that join the average of another pair

A moving average keeps its platform and its asset apart, and is looked up by a name made of both. A
name does not tell where the platform ends. `Folds` says that some run leaves an average of one
pair for the rates of another to create or change, and `folds_iff` finds that this is so exactly
if the two pairs have the same name (`SharesName`).

`pair_kept_iff` draws the conclusion: rates stay with their pair for sure exactly if there is no
hyphen in the platform and none in the asset.
-/
import FarmLedger.Proofs.Rates.Recorded
import FarmLedger.Proofs.Text.Chunks

namespace FarmLedger

open FarmLedger.Number FarmLedger.Text FarmLedger.Time

variable {platform asset otherPlatform otherAsset : String}

/-! ## Shared names -/

/-- A pair in upper case has the name of another pair. -/
structure SharesName (otherPlatform otherAsset platform asset : String) : Prop where
  name : rateName otherPlatform otherAsset = rateName platform asset
  upperPlatform : upper otherPlatform = otherPlatform
  upperAsset : upper otherAsset = otherAsset

/-- A pair shares its name with a first part of its platform. -/
theorem sharesName_front {front back : String} (cut : upper platform = front ++ "-" ++ back) :
    SharesName front (rateName back asset) platform asset := by
  have frontUpper : upper front = front := @upper_of_subset platform front (by simp [cut])
  have backUpper : upper back = back := @upper_of_subset platform back (by simp [cut])
  refine ⟨?_, frontUpper, upper_rateName back asset⟩
  rw [rateName, upper_rateName, rateName, rateName, frontUpper, backUpper, cut]
  simp only [String.append_assoc]

/-- A pair shares its name with a last part of its asset. -/
theorem sharesName_back {front back : String} (cut : upper asset = front ++ "-" ++ back) :
    SharesName (rateName platform front) back platform asset := by
  have frontUpper : upper front = front := @upper_of_subset asset front (by simp [cut])
  have backUpper : upper back = back := @upper_of_subset asset back (by simp [cut])
  refine ⟨?_, upper_rateName platform front, backUpper⟩
  rw [rateName, upper_rateName, rateName, rateName, frontUpper, backUpper, cut]
  simp only [String.append_assoc]

/-- **A pair shares its name with no other pair** exactly if there is no hyphen in it. -/
theorem sharesName_own_iff :
    (∀ otherPlatform otherAsset, SharesName otherPlatform otherAsset platform asset →
        otherPlatform = upper platform ∧ otherAsset = upper asset) ↔
      '-' ∉ platform.toList ∧ '-' ∉ asset.toList := by
  constructor
  · intro own
    constructor
    · intro marked
      obtain ⟨front, back, cut⟩ := exists_parts (hyphen_mem_upper.2 marked)
      have same := (own _ _ (sharesName_front cut)).1
      rw [cut] at same
      exact append_hyphen_ne same.symm
    · intro marked
      obtain ⟨front, back, cut⟩ := exists_parts (hyphen_mem_upper.2 marked)
      have longer := (own _ _ (sharesName_back cut)).1
      exact append_hyphen_ne longer
  · rintro ⟨platformFree, assetFree⟩ otherPlatform otherAsset ⟨name, platformUpper, assetUpper⟩
    rw [← hyphen_mem_upper] at platformFree assetFree
    rw [rateName, rateName, platformUpper, assetUpper, append_hyphen_eq_iff,
      append_hyphen_eq_iff.1 rfl, append_mark_eq_iff] at name
    rcases name with ⟨samePlatform, sameAsset⟩ | ⟨part, longer, _⟩ | ⟨part, _, longer⟩
    · exact ⟨String.toList_inj.1 samePlatform, String.toList_inj.1 sameAsset⟩
    · rw [longer] at platformFree
      exact absurd (List.mem_append_right _ List.mem_cons_self) platformFree
    · rw [longer] at assetFree
      exact absurd (List.mem_append_right _ List.mem_cons_self) assetFree

/-! ## Only by the name -/

/-- After some run from empty tables, rates of the pair are recorded and create or change a moving
average of the other pair. -/
def Folds (platform asset otherPlatform otherAsset : String) : Prop :=
  ∃ (ledger : Ledger) (steps : List Step) (sample : RateSample)
      (stored : Stored .interestRateMovingAverage),
    ledger.database = .fresh ∧ (∀ step ∈ steps, step.isRequest = true) ∧
    sample.platform = platform ∧ sample.asset = asset ∧
    ((ledger.run steps).1.step (.call (.putInterestRate sample))).2.result = .ok .done ∧
    stored ∈ ((ledger.run steps).1.step (.call (.putInterestRate sample))).1.database.rows
      .interestRateMovingAverage ∧
    stored ∉ (ledger.run steps).1.database.rows .interestRateMovingAverage ∧
    (stored.row .platform : String) = otherPlatform ∧ (stored.row .asset : String) = otherAsset

/-- The row is named after its pair, which is in upper case. -/
def Row.IsNamed (row : Row .interestRateMovingAverage) : Prop :=
  ∃ platform asset, row.NamesPair (upper platform) (upper asset) (rateName platform asset)

theorem Row.NamesPair.isNamed {row : Row .interestRateMovingAverage} {sample : RateSample}
    (names : row.NamesPair sample.folded.platform sample.folded.asset sample.folded.name) :
    row.IsNamed :=
  ⟨sample.platform, sample.asset, names.platform, names.asset,
    names.name.trans (rateName_upper _ _)⟩

theorem run_average_named {ledger : Ledger} {steps : List Step}
    (fresh : ledger.database = Database.fresh)
    (allowed : ∀ step ∈ steps, step.isRequest = true) :
    ∀ stored ∈ (ledger.run steps).1.database.rows .interestRateMovingAverage,
      stored.row.IsNamed := by
  refine run_average_rows (P := Row.IsNamed) fresh allowed ?_
  intro now sample old row named _ comes
  cases comes with
  | created _ names _ => exact names.isNamed
  | revised _ _ names _ =>
    obtain ⟨platform, asset, before⟩ := named _ rfl
    exact ⟨platform, asset, names.platform.trans before.platform, names.asset.trans before.asset,
      names.name.trans before.name⟩

variable {settings : Settings} {now : Timestamp} {sample : RateSample} {database : Database}
  {stored : Stored .interestRateMovingAverage}

/-- The average that rates create or change has the name of their pair. -/
theorem recordRate_touched
    (named : ∀ stored ∈ database.rows .interestRateMovingAverage, stored.row.IsNamed)
    (mem : stored ∈ (recordRate settings now sample database).database.rows
      .interestRateMovingAverage)
    (touched : stored ∉ database.rows .interestRateMovingAverage) :
    SharesName (stored.row .platform) (stored.row .asset) sample.platform sample.asset := by
  rcases recordRate_cases settings now sample database with kept | records
  · rw [kept] at mem
    exact absurd mem touched
  · rcases records.mem mem with old | comes | ⟨old, oldMem, selected, comes⟩
    · exact absurd old touched
    · cases comes with
      | created _ names _ =>
        rw [names.platform, names.asset]
        exact ⟨rateName_upper _ _, upper_upper _, upper_upper _⟩
    · cases comes with
      | revised _ _ names _ =>
        obtain ⟨platform, asset, before⟩ := named old oldMem
        have selected_ : (old.row .rateName : String) = sample.folded.name :=
          (rateClause_holds.1 selected).trans (upper_rateName _ _)
        rw [names.platform, names.asset, before.platform, before.asset]
        refine ⟨?_, upper_upper _, upper_upper _⟩
        rw [rateName_upper, ← before.name, selected_]
        exact rateName_upper _ _

/-! ## By every shared name -/

/-- The second of two rates that come at the same time joins the window of the first. -/
theorem second_joins {begun kept : Window}
    (begins : Window.begin emptyLedger.clock emptyLedger.settings.windowLength (some 0.5) =
      .ok begun)
    (keeps : kept.Keeps begun) (samples : kept.samples = [0.5]) :
    ∃ update next,
      (kept.observeOrRollOver emptyLedger.clock 0.25
          emptyLedger.settings.windowLength).result = .ok update ∧
        (kept.observeOrRollOver emptyLedger.clock 0.25
          emptyLedger.settings.windowLength).window = next ∧
        next.samples = [0.5, 0.25] ∧ next.average.isNaN = false ∧
        next.lastAverage.isNaN = false ∧ next.start ≤ next.finish := by
  have ordered : begun.start ≤ begun.finish := Window.begin_ordered (by decide) begins
  obtain ⟨start, finish, read, _, rfl⟩ := Window.begin_ok begins
  have onTime : ¬ kept.finish < start := by
    rw [keeps.finish]
    exact Nat.not_lt_of_le ordered
  have taken : mean (kept.samples ++ [0.25]) = .ok 0.375 := by
    rw [samples]
    decide +kernel
  obtain ⟨update, observed, joined⟩ :=
    @Window.observeOrRollOver_joins _ _ _ emptyLedger.settings.windowLength _ _ read onTime taken
  refine ⟨update, _, observed, joined, ?_, ?_, ?_, ?_⟩
  · show kept.samples ++ [0.25] = [0.5, 0.25]
    rw [samples]
    rfl
  · show (if (0.375 : Float) == kept.average then kept.average else 0.375).isNaN = false
    split
    · next same => exact not_isNaN_of_beq (beq_symm same)
    · decide +kernel
  · exact not_isNaN_of_beq keeps.lastAverage
  · show kept.start ≤ kept.finish
    rw [keeps.start, keeps.finish]
    exact ordered

theorem folds_shared (shares : SharesName otherPlatform otherAsset platform asset) :
    Folds platform asset otherPlatform otherAsset := by
  have first : (pairRates otherPlatform otherAsset 0.5).IsWhole :=
    pairRates_isWhole (by decide +kernel)
  have second : (pairRates platform asset 0.25).IsWhole := pairRates_isWhole (by decide +kernel)
  obtain ⟨window, begun⟩ := begin_emptyLedger 0.5
  obtain ⟨rate, average, _, reached, names, samples, kept, held, keeps⟩ :=
    recordRate_created first (Database.fresh_eq _) (Database.fresh_eq _) rfl begun
      (Window.begin_ordered (by decide) begun)
  have single : kept.samples = [0.5] :=
    Option.some.inj ((rateWindow_ok held).1.symm.trans samples)
  obtain ⟨update, next, observed, joined, both, number, lastNumber, ordered⟩ :=
    second_joins begun keeps single
  have selected :
      (rateClause (pairRates platform asset 0.25).folded.name).holds average = true := by
    rw [rateClause_holds, names.name]
    show rateName (upper otherPlatform) (upper otherAsset) =
      upper (rateName (upper platform) (upper asset))
    rw [upper_rateName, rateName_upper, rateName_upper, shares.name]
  have firstRun : (emptyLedger.run [.call (.putInterestRate
      (pairRates otherPlatform otherAsset 0.5))]).1.database = _ := reached
  have ratesStand : (emptyLedger.run [.call (.putInterestRate
      (pairRates otherPlatform otherAsset 0.5))]).1.database .interestRate =
        some (Table.empty.append rate) := by
    rw [firstRun, Database.put_other _ (by decide), Database.put_same]
  have averagesStand : (emptyLedger.run [.call (.putInterestRate
      (pairRates otherPlatform otherAsset 0.5))]).1.database .interestRateMovingAverage =
        some (Table.empty.append average) := by
    rw [firstRun, Database.put_same]
  have found : ((Table.empty.append average).select
      (rateClause (pairRates platform asset 0.25).folded.name)).head? = some ⟨1, average⟩ := by
    simp [Table.select, Table.append, Table.empty, Table.nextId, selected]
  have onePerKey : OnePerKey (Table.empty.append average).rows := by
    simp [OnePerKey, Table.append, Table.empty]
  obtain ⟨rate', average', recorded, after, names', kept', held', keeps'⟩ :=
    recordRate_revised second ratesStand averagesStand onePerKey found held observed joined number
      lastNumber ordered
  refine ⟨emptyLedger, [.call (.putInterestRate (pairRates otherPlatform otherAsset 0.5))],
    pairRates platform asset 0.25, ⟨1, average'⟩, rfl, ?_, rfl, rfl,
    step_putInterestRate recorded, ?_, ?_, ?_, ?_⟩
  · simp [Step.isRequest]
  · show _ ∈ (recordRate emptyLedger.settings emptyLedger.clock _
      (Ledger.database _)).database.rows .interestRateMovingAverage
    rw [after, Database.rows_put]
    exact List.mem_singleton_self _
  · rw [firstRun, Database.rows_put]
    intro same
    -- The row held one sample, and now it holds two.
    have unchanged : (⟨1, average'⟩ : Stored .interestRateMovingAverage) = ⟨1, average⟩ :=
      List.mem_singleton.1 same
    cases unchanged
    have lists := Option.some.inj ((rateWindow_ok held').1.symm.trans samples)
    have lengths : kept'.samples.length = next.samples.length := by
      rcases keeps'.samples with equal | alike
      · rw [equal]
      · exact sameReals_length alike
    rw [lists, both] at lengths
    cases lengths
  · exact (names'.platform.trans names.platform).trans shares.upperPlatform
  · exact (names'.asset.trans names.asset).trans shares.upperAsset

/-- **Rates reach the averages that share the name of their pair.** -/
theorem folds_iff :
    Folds platform asset otherPlatform otherAsset ↔
      SharesName otherPlatform otherAsset platform asset := by
  constructor
  · rintro ⟨ledger, steps, sample, stored, fresh, allowed, rfl, rfl, _, mem, touched, rfl, rfl⟩
    exact recordRate_touched (run_average_named fresh allowed) mem touched
  · exact folds_shared

/-- **When rates keep to their pair.** The averages that rates can create or change are those whose
pair is in upper case and has the same name. That is the average of their own pair alone exactly if
there is no hyphen in the platform and none in the asset. -/
theorem pair_kept_iff (platform asset : String) :
    (∀ otherPlatform otherAsset, Folds platform asset otherPlatform otherAsset ↔
        upper otherPlatform = otherPlatform ∧ upper otherAsset = otherAsset ∧
          rateName otherPlatform otherAsset = rateName platform asset) ∧
      ((∀ otherPlatform otherAsset, Folds platform asset otherPlatform otherAsset →
          otherPlatform = upper platform ∧ otherAsset = upper asset) ↔
        '-' ∉ platform.toList ∧ '-' ∉ asset.toList) := by
  constructor
  · intro otherPlatform otherAsset
    rw [folds_iff]
    constructor
    · rintro ⟨name, upperPlatform, upperAsset⟩
      exact ⟨upperPlatform, upperAsset, name⟩
    · rintro ⟨upperPlatform, upperAsset, name⟩
      exact ⟨name, upperPlatform, upperAsset⟩
  · rw [← sharesName_own_iff]
    constructor
    · intro own otherPlatform otherAsset shares
      exact own _ _ (folds_iff.2 shares)
    · intro own otherPlatform otherAsset folds
      exact own _ _ (folds_iff.1 folds)

/-- A rate of `c` on `a-b` goes to the average of `b-c` on `a`. -/
example : Folds "a-b" "c" "A" "B-C" :=
  folds_shared ⟨by decide +kernel, by decide +kernel, by decide +kernel⟩

end FarmLedger
