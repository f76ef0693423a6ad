/-
# FarmLedger.Proofs.Time.Stored — stored timestamps stand for instants

A timestamp can be stored exactly if its distance from UTC is known and its instant lies in the
calendar (`Dialect.store_error_iff`). What is stored then shows the moment in UTC, with or without
the distance, as the dialect has a place for it (`Dialect.store_ok`). So it is read back as that
moment, storing the moment again gives the same, and of two stored timestamps the one shows less
exactly if its instant is earlier. `Dialect.faithful` says so of both dialects; no offset and no end
of the calendar is left out.
-/
import FarmLedger.Proofs.Except
import FarmLedger.Proofs.Time.Moment

namespace FarmLedger.Time

namespace Timestamp

/-- The moment in UTC lies between the beginning of the year 1 and the end of the year 9999. -/
def InCalendar (t : Timestamp) : Prop :=
  0 ≤ t.instant ∧ t.instant < daysOfCalendar * microsPerDay

theorem toUtc_ok_iff {t : Timestamp} {m : Moment} :
    t.toUtc = .ok m ↔ (m.micros : Int) = t.instant :=
  ⟨fun read => (instant_of_toUtc read).symm, fun same => toUtc_of_instant same.symm⟩

theorem exists_toUtc_iff {t : Timestamp} : (∃ m, t.toUtc = .ok m) ↔ t.InCalendar := by
  constructor
  · rintro ⟨m, read⟩
    have within := m.inCalendar
    have same := instant_of_toUtc read
    unfold InCalendar
    omega
  · rintro ⟨low, high⟩
    refine ⟨⟨t.instant.toNat, ?_⟩, toUtc_ok_iff.2 ?_⟩
    · omega
    · exact Int.toNat_of_nonneg low

theorem toUtc_error_iff {t : Timestamp} {fault : TimestampFault} :
    t.toUtc = .error fault ↔ ¬ t.InCalendar ∧ fault = .outOfCalendar := by
  rw [← exists_toUtc_iff]
  cases read : t.toUtc with
  | ok m => simp
  | error other =>
    have cause : other = .outOfCalendar := by
      unfold toUtc at read
      split at read
      · cases read
      · exact (Except.error.inj read).symm
    subst cause
    simp [eq_comm]

theorem toStored_error_iff {t : Timestamp} {fault : TimestampFault} :
    t.toStored = .error fault ↔
      t.offset = none ∧ fault = .noOffset t ∨
        t.offset ≠ none ∧ ¬ t.InCalendar ∧ fault = .outOfCalendar := by
  unfold toStored
  rw [← toUtc_error_iff]
  cases offset : t.offset <;> simp [eq_comm]

/-- One moment that was stored is not after another exactly if the instants are so. -/
theorem le_iff_instant {t u : Timestamp} {first last : Moment} (begins : t.toStored = .ok first)
    (ends : u.toStored = .ok last) : first ≤ last ↔ t.instant ≤ u.instant := by
  rw [instant_of_toStored begins, instant_of_toStored ends]
  exact Int.ofNat_le.symm

end Timestamp

namespace Dialect

variable {dialect : Dialect} {t u form other : Timestamp} {m : Moment} {fault : TimestampFault}

/-- A form shows the moment that the tables hold. -/
theorem store_wall (dialect : Dialect) (t : Timestamp) :
    (dialect.store t).map Timestamp.wall = t.toStored := by
  unfold store
  cases t.toStored <;> cases dialect <;> rfl

theorem store_ok (stored : dialect.store t = .ok form) :
    t.toStored = .ok form.wall ∧ dialect.load form = .ok (.ofUtc form.wall) ∧
      dialect.store (.ofUtc form.wall) = .ok form := by
  obtain ⟨m, held, rfl⟩ := ok_of_map stored
  have again : dialect.store (.ofUtc m) = .ok _ :=
    congrArg (Except.map _) (Timestamp.toStored_ofUtc m)
  cases dialect with
  | sqlite =>
    have read : (⟨m, none⟩ : Timestamp).toUtc = .ok m :=
      Timestamp.toUtc_of_instant (Int.sub_zero _)
    refine ⟨held, ?_, again⟩
    show (Timestamp.toUtc ⟨m, none⟩).map Timestamp.ofUtc = .ok (.ofUtc m)
    rw [read]
    rfl
  | postgresql =>
    refine ⟨held, ?_, again⟩
    show (Timestamp.ofUtc m).toUtc.map Timestamp.ofUtc = .ok (.ofUtc m)
    rw [Timestamp.toUtc_ofUtc]
    rfl

theorem store_error_iff :
    dialect.store t = .error fault ↔
      t.offset = none ∧ fault = .noOffset t ∨
        t.offset ≠ none ∧ ¬ t.InCalendar ∧ fault = .outOfCalendar := by
  rw [← Timestamp.toStored_error_iff, ← store_wall dialect]
  cases dialect.store t with
  | ok form => exact ⟨nofun, nofun⟩
  | error other => exact ⟨fun same => congrArg _ (Except.error.inj same), error_of_map⟩

/-- What a dialect promises of timestamps: which ones it refuses, and why; that a stored one is read
back as its instant, in UTC, and stored again as it is; and that stored ones compare as their
instants do. -/
structure Faithful (dialect : Dialect) : Prop where
  refuses : ∀ t fault, dialect.store t = .error fault ↔
    t.offset = none ∧ fault = .noOffset t ∨
      t.offset ≠ none ∧ ¬ t.InCalendar ∧ fault = .outOfCalendar
  reads_back : ∀ t form, dialect.store t = .ok form →
    ∃ m, dialect.load form = .ok (.ofUtc m) ∧ (m.micros : Int) = t.instant ∧
      dialect.store (.ofUtc m) = .ok form
  orders : ∀ t u form other, dialect.store t = .ok form → dialect.store u = .ok other →
    (t.instant ≤ u.instant ↔ form.wall ≤ other.wall)

/-- The order of stored timestamps is that of their instants. -/
theorem store_le_iff (stored : dialect.store t = .ok form) (stored' : dialect.store u = .ok other) :
    t.instant ≤ u.instant ↔ form.wall ≤ other.wall :=
  (Timestamp.le_iff_instant (store_ok stored).1 (store_ok stored').1).symm

theorem faithful (dialect : Dialect) : dialect.Faithful where
  refuses _ _ := store_error_iff
  reads_back _ form stored := by
    obtain ⟨held, loaded, again⟩ := store_ok stored
    exact ⟨form.wall, loaded, (Timestamp.instant_of_toStored held).symm, again⟩
  orders _ _ _ _ := store_le_iff

end Dialect

end FarmLedger.Time
