/-
# FarmLedger.Proofs.Config.Usable — which configurations that load can be used

A configuration that loads has passed the checks of its settings: its counts are positive, its
level is known and its limit is not negative (`load_checked`). What it is loaded for asks for two
things more. The ledger needs the seconds of a window as a duration, and a guard needs a limit that
a deviation can be below.

Neither is checked. A limit that is no number is not below zero and passes, and seconds pass
however many they are. `load_usable` says that there are no further gaps: for every environment, a
configuration that loads is usable unless the limit's text reads as no number, or the text of the
window's seconds as more than the longest duration has (`wholeSeconds_ok_iff`).
-/
import FarmLedger.Config.Environment
import FarmLedger.Proofs.Number.Distance

namespace FarmLedger

open FarmLedger.Number FarmLedger.Text FarmLedger.Time

/-! ## Durations of whole seconds -/

/-- The whole seconds of the longest duration. -/
def mostSeconds : Int := (Duration.dayLimit + 1) * 86400 - 1

theorem mostSeconds_eq : mostSeconds = 86399999999999 := by decide

theorem days_wholeSeconds (seconds : Int) :
    Duration.days ⟨seconds * microsPerSecond⟩ = seconds / 86400 := by
  show (seconds * 1000000).fdiv 86400000000 = seconds / 86400
  rw [Int.fdiv_eq_ediv_of_nonneg _ (by decide)]
  omega

theorem micros_of_wholeSeconds {seconds : Int} {duration : Duration}
    (h : Duration.ofWholeSeconds seconds = .ok duration) :
    duration.micros = seconds * microsPerSecond := by
  unfold Duration.ofWholeSeconds Duration.ofMicros at h
  simp only at h
  split at h
  · cases h
  · split at h
    · cases h
    · cases h
      rfl

/-- A positive number of seconds is a duration unless it exceeds the longest one. -/
theorem wholeSeconds_ok_iff {seconds : Int} (positive : 1 ≤ seconds) :
    (∃ duration, Duration.ofWholeSeconds seconds = .ok duration) ↔ seconds ≤ mostSeconds := by
  have power : (Nat.pow 2 31 : Int) = 2147483648 := rfl
  have limit : (Duration.dayLimit : Int) = 999999999 := rfl
  rw [mostSeconds_eq]
  unfold Duration.ofWholeSeconds Duration.ofMicros
  simp only [days_wholeSeconds, power]
  split
  · next uncountable => exact ⟨nofun, fun le => absurd uncountable (by omega)⟩
  · split
    · next tooMany => exact ⟨nofun, fun le => absurd tooMany (by omega)⟩
    · next few => exact ⟨fun _ => by omega, fun _ => ⟨_, rfl⟩⟩

/-! ## Limits -/

/-- A resolved limit is positive, or no number. -/
theorem resolveLimit_ok {raw : Option Float} {limit : Float} (h : resolveLimit raw = .ok limit) :
    0.0 < limit ∨ limit.isNaN = true := by
  have usual : 0.0 < defaultLimit := by decide
  unfold resolveLimit at h
  split at h
  · cases h
    exact .inl usual
  · split at h
    · cases h
      exact .inl usual
    · next nonzero =>
      split at h
      · cases h
      · next notNegative =>
        cases h
        cases number : limit.isNaN with
        | true => exact .inr rfl
        | false => exact .inl (positive_iff.2 ⟨number, Bool.eq_false_iff.2 nonzero, notNegative⟩)

/-- A resolved limit is no number just if it was none before. -/
theorem isNaN_resolveLimit {raw limit : Float} (h : resolveLimit (some raw) = .ok limit) :
    limit.isNaN = raw.isNaN := by
  unfold resolveLimit at h
  simp only at h
  split at h
  · next zero =>
    cases h
    rw [not_isNaN_of_beq zero]
    rfl
  · split at h
    · cases h
    · cases h
      rfl

/-- A positive limit stands for itself. -/
theorem resolveLimit_positive {limit : Float} (positive : 0.0 < limit) :
    resolveLimit (some limit) = .ok limit := by
  obtain ⟨_, nonzero, notNegative⟩ := positive_iff.1 positive
  unfold resolveLimit
  simp only
  rw [if_neg (Bool.eq_false_iff.1 nonzero), if_neg notNegative]

namespace Config

/-! ## What loading checks -/

/-- What the checks of the settings leave of a configuration. -/
structure Checked (config : Config) : Prop where
  limit : 0.0 < config.limit ∨ config.limit.isNaN = true
  windowSeconds : 1 ≤ config.windowSeconds
  poolSize : 1 ≤ config.poolSize
  ingestWorkers : 1 ≤ config.ingestWorkers
  logLevel : config.logLevel ∈ knownLevels

namespace Environment

variable {environment : Environment} {given : Option String} {config : Config}

/-- The text of the limit is there, and reads as no number. -/
def LimitIsNaN (environment : Environment) : Prop :=
  ∃ raw limit, environment.lookup "ANALYTICS_OOB_LIMIT" = some raw ∧
    readReal (trim raw) = .ok limit ∧ limit.isNaN = true

/-- The text of the seconds of a window is there, and reads as more than a duration has. -/
def WindowIsTooLong (environment : Environment) : Prop :=
  ∃ raw seconds, environment.lookup "MOVING_AVERAGE_WINDOW_SECONDS" = some raw ∧
    readInteger (trim raw) = .ok seconds ∧ mostSeconds < seconds

theorem positive_ok {setting : String} {usual value : Int}
    (h : environment.positive setting usual = .ok value) :
    1 ≤ value ∧ environment.integer setting usual = .ok value := by
  obtain ⟨read, first, h⟩ := ok_of_bind h
  split at h
  · cases h
  · next positive =>
    cases h
    exact ⟨by omega, first⟩

theorem logLevel_ok {level : String} (h : environment.logLevel = .ok level) :
    level ∈ knownLevels := by
  unfold logLevel at h
  generalize upper (trim ((environment.lookup "LOG_LEVEL").getD "INFO")) = name at h
  simp only at h
  split at h
  · next known =>
    cases h
    exact List.contains_iff_mem.1 known
  · cases h

theorem limit_ok {limit : Float} (h : environment.limit = .ok limit) :
    ∃ raw, environment.real "ANALYTICS_OOB_LIMIT" defaultLimit = .ok raw ∧
      resolveLimit (some raw) = .ok limit := by
  obtain ⟨raw, first, h⟩ := ok_of_bind h
  refine ⟨raw, first, ?_⟩
  split at h
  · next resolved =>
    cases h
    exact resolved
  · cases h

/-- Every part of a configuration that loads was read and checked. -/
theorem load_parts (h : environment.load given = .ok config) :
    environment.limit = .ok config.limit ∧ environment.logLevel = .ok config.logLevel ∧
      environment.positive "MOVING_AVERAGE_WINDOW_SECONDS" 600 = .ok config.windowSeconds ∧
      environment.positive "DB_POOL_SIZE" 5 = .ok config.poolSize ∧
      environment.positive "INGEST_MAX_WORKERS" defaultWorkers = .ok config.ingestWorkers := by
  obtain ⟨limit, first, h⟩ := ok_of_bind h
  obtain ⟨level, second, h⟩ := ok_of_bind h
  obtain ⟨address, _, h⟩ := ok_of_bind h
  obtain ⟨seconds, fourth, h⟩ := ok_of_bind h
  obtain ⟨pool, fifth, h⟩ := ok_of_bind h
  obtain ⟨workers, sixth, h⟩ := ok_of_bind h
  cases h
  exact ⟨first, second, fourth, fifth, sixth⟩

theorem load_checked (h : environment.load given = .ok config) : config.Checked := by
  obtain ⟨limit, level, seconds, pool, workers⟩ := load_parts h
  obtain ⟨_, _, resolved⟩ := limit_ok limit
  exact {
    limit := resolveLimit_ok resolved
    windowSeconds := (positive_ok seconds).1
    poolSize := (positive_ok pool).1
    ingestWorkers := (positive_ok workers).1
    logLevel := logLevel_ok level }

/-- The limit that is loaded is no number just if its text reads as none. -/
theorem limitIsNaN_iff (h : environment.load given = .ok config) :
    environment.LimitIsNaN ↔ config.limit.isNaN = true := by
  obtain ⟨loaded, _⟩ := load_parts h
  obtain ⟨raw, read, resolved⟩ := limit_ok loaded
  rw [isNaN_resolveLimit resolved]
  unfold real at read
  unfold LimitIsNaN
  split at read
  · next missing =>
    cases read
    simp only [missing, reduceCtorEq, false_and, exists_false, false_iff]
    decide +kernel
  · next text present =>
    split at read
    · next value reads =>
      cases read
      simp only [present, Option.some.injEq]
      constructor
      · rintro ⟨text', limit, rfl, again, none_⟩
        cases reads.symm.trans again
        exact none_
      · exact fun none_ => ⟨text, raw, rfl, reads, none_⟩
    · cases read

/-- The seconds that are loaded exceed the longest duration just if their text does. -/
theorem windowIsTooLong_iff (h : environment.load given = .ok config) :
    environment.WindowIsTooLong ↔ mostSeconds < config.windowSeconds := by
  obtain ⟨_, _, loaded, _⟩ := load_parts h
  obtain ⟨_, read⟩ := positive_ok loaded
  unfold integer at read
  unfold WindowIsTooLong
  split at read
  · next missing =>
    have usual : config.windowSeconds = 600 := (Except.ok.inj read).symm
    simp only [missing, reduceCtorEq, false_and, exists_false, false_iff, usual]
    decide
  · next text present =>
    split at read
    · next value reads =>
      cases read
      simp only [present, Option.some.injEq]
      constructor
      · rintro ⟨text', seconds, rfl, again, long⟩
        cases reads.symm.trans again
        exact long
      · exact fun long => ⟨text, _, rfl, reads, long⟩
    · cases read

end Environment

/-! ## What a configuration is for -/

/-- The checks hold, the ledger's settings can be made, with a window that has a length, and so can
the guard, with a limit that is positive. -/
structure Usable (config : Config) : Prop extends config.Checked where
  positive : 0.0 < config.limit
  settings : ∃ settings, config.settings = .ok settings ∧ 0 < settings.windowLength.micros ∧
    ∃ guard, Guard.ofSetting settings.limit = .ok guard ∧ 0.0 < guard.limit

theorem usable_iff {config : Config} (checked : config.Checked) :
    config.Usable ↔ config.limit.isNaN = false ∧ config.windowSeconds ≤ mostSeconds := by
  rw [← wholeSeconds_ok_iff checked.windowSeconds]
  constructor
  · intro usable
    obtain ⟨settings, made, _⟩ := usable.settings
    obtain ⟨duration, read, _⟩ := ok_of_map made
    exact ⟨(positive_iff.1 usable.positive).1, duration, read⟩
  · rintro ⟨number, duration, read⟩
    have positive : 0.0 < config.limit := checked.limit.resolve_right (Bool.eq_false_iff.1 number)
    have length := micros_of_wholeSeconds read
    have atLeast := checked.windowSeconds
    have forward : 0 < duration.micros := by
      change duration.micros = config.windowSeconds * 1000000 at length
      omega
    refine { checked with positive, settings := ⟨⟨some config.limit, duration⟩, ?_, forward, ?_⟩ }
    · unfold Config.settings
      rw [read]
      rfl
    · refine ⟨⟨config.limit⟩, ?_, positive⟩
      unfold Guard.ofSetting
      rw [resolveLimit_positive positive]
      rfl

/-- **A configuration that loads is usable, but for two settings that are not checked.** Loading
names the setting at fault, or gives a configuration that passed the checks; it is usable unless
the limit is no number or the seconds of a window exceed the longest duration. -/
theorem load_usable (environment : Environment) (given : Option String) :
    (∃ fault, environment.load given = .error fault) ∨
      ∃ config, environment.load given = .ok config ∧ config.Checked ∧
        (config.Usable ↔ ¬ environment.LimitIsNaN ∧ ¬ environment.WindowIsTooLong) := by
  cases loaded : environment.load given with
  | error fault => exact .inl ⟨fault, rfl⟩
  | ok config =>
    have checked := Environment.load_checked loaded
    refine .inr ⟨config, rfl, checked, ?_⟩
    rw [usable_iff checked, Environment.limitIsNaN_iff loaded,
      Environment.windowIsTooLong_iff loaded, Bool.not_eq_true, not_lt]

theorem loads_of_any (environment : Environment) (given : Option String) (p : Config → Bool)
    (h : (environment.load given).toOption.any p = true) :
    ∃ config, environment.load given = .ok config ∧ p config = true := by
  cases loaded : environment.load given with
  | error fault =>
    rw [loaded] at h
    cases h
  | ok config =>
    rw [loaded] at h
    exact ⟨config, rfl, h⟩

/-- Two environments that load and cannot be used: a limit that is no number, and one second more
than the longest duration has. -/
theorem unusable_configs_load :
    (∃ config, Environment.load [("ANALYTICS_OOB_LIMIT", "nan")] (some "sqlite://") = .ok config ∧
        ¬ 0.0 < config.limit) ∧
      ∃ config, Environment.load [("MOVING_AVERAGE_WINDOW_SECONDS", "86400000000000")]
          (some "sqlite://") = .ok config ∧
        ∀ settings, config.settings ≠ .ok settings := by
  constructor
  · obtain ⟨config, loaded, none_⟩ :=
      loads_of_any [("ANALYTICS_OOB_LIMIT", "nan")] (some "sqlite://")
        (fun config => !decide (0.0 < config.limit)) (by decide +kernel)
    exact ⟨config, loaded, by simpa using none_⟩
  · obtain ⟨config, loaded, none_⟩ :=
      loads_of_any [("MOVING_AVERAGE_WINDOW_SECONDS", "86400000000000")] (some "sqlite://")
        (fun config => config.settings.toOption.isNone) (by decide +kernel)
    refine ⟨config, loaded, fun settings made => ?_⟩
    rw [made] at none_
    cases none_

end Config

end FarmLedger
