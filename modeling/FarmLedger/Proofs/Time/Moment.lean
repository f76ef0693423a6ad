/-
# FarmLedger.Proofs.Time.Moment — moments are their microseconds

A moment is determined by its microseconds (`Moment.eq_of_micros`), and each step of reading one is
counting: a count of microseconds is that of the moment that it stands for (`ofMicros?_micros`),
a sum of moment and duration has the sum of their microseconds (`Moment.micros_add`), and a moment
shown by a clock in UTC is read as itself (`Timestamp.toUtc_ofUtc`, `Timestamp.toStored_ofUtc`).
-/
import FarmLedger.Time.Duration
import FarmLedger.Time.Stored

namespace FarmLedger.Time

namespace Moment

theorem eq_of_micros {a b : Moment} (h : a.micros = b.micros) : a = b := by
  cases a
  cases b
  cases h
  rfl

theorem ofMicros?_micros (m : Moment) : ofMicros? m.micros = some m := by
  unfold ofMicros?
  rw [dif_pos ⟨Int.natCast_nonneg _, Int.ofNat_lt.2 m.inCalendar⟩]
  exact congrArg some (eq_of_micros (Int.toNat_natCast _))

theorem micros_of_ofMicros? {micros : Int} {m : Moment} (h : ofMicros? micros = some m) :
    (m.micros : Int) = micros := by
  unfold ofMicros? at h
  split at h
  · next inside =>
    cases h
    exact Int.toNat_of_nonneg inside.1
  · cases h

theorem micros_add {m sum : Moment} {d : Duration} (h : m.add d = .ok sum) :
    (sum.micros : Int) = m.micros + d.micros := by
  unfold Moment.add at h
  split at h
  · next moment =>
    cases h
    exact micros_of_ofMicros? moment
  · cases h

/-- So many microseconds into the first second of the calendar. -/
def early (micros : Nat) : Moment where
  micros := micros % microsPerSecond
  inCalendar := Nat.lt_trans (Nat.mod_lt micros (by decide)) (by decide)

end Moment

namespace Timestamp

theorem toUtc_of_instant {t : Timestamp} {m : Moment} (h : t.instant = m.micros) :
    t.toUtc = .ok m := by
  unfold toUtc
  rw [h, Moment.ofMicros?_micros]

theorem toStored_of_instant {t : Timestamp} {m : Moment} (known : t.offset.isNone = false)
    (h : t.instant = m.micros) : t.toStored = .ok m := by
  unfold toStored
  rw [known, if_neg Bool.false_ne_true, toUtc_of_instant h]

theorem instant_of_toUtc {t : Timestamp} {m : Moment} (h : t.toUtc = .ok m) :
    t.instant = m.micros := by
  unfold toUtc at h
  split at h
  · next moment =>
    cases h
    exact (Moment.micros_of_ofMicros? moment).symm
  · cases h

/-- What is stored of a timestamp is its instant, whatever its offset is. -/
theorem instant_of_toStored {t : Timestamp} {m : Moment} (h : t.toStored = .ok m) :
    t.instant = m.micros := by
  unfold toStored at h
  split at h
  · cases h
  · exact instant_of_toUtc h

theorem instant_ofUtc (m : Moment) : (ofUtc m).instant = m.micros :=
  Int.sub_zero _

theorem toUtc_ofUtc (m : Moment) : (ofUtc m).toUtc = .ok m :=
  toUtc_of_instant (instant_ofUtc m)

theorem toStored_ofUtc (m : Moment) : (ofUtc m).toStored = .ok m :=
  toStored_of_instant rfl (instant_ofUtc m)

end Timestamp

end FarmLedger.Time
