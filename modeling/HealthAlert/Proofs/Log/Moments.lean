import HealthAlert.Log.Timestamp

/-!
# Moments that can be written

* `year_dateOfDays`: where in its era of 400 years the year of a date stands.
* `Moment.exists_text_iff`: a moment can be written exactly from the start of the year 1 to the end
  of the year 9999.
-/

namespace HealthAlert.Log.Timestamp

/-- The year of a date, from the first year of its era. The era starts in March: its first 306 days
are of that year, and its last 60 of the first year of the next era. -/
theorem year_dateOfDays (days : Int) : ∃ past : Nat,
    (dateOfDays days).year = (days + 719468) / 146097 * 400 + past ∧
      (1 ≤ past ↔ 306 ≤ (days + 719468) % 146097) ∧
      (past ≤ 399 ↔ (days + 719468) % 146097 ≤ 146036) ∧ past ≤ 400 := by
  have hday : (days + 719468) % 146097 = (((days + 719468) % 146097).toNat : Int) := by omega
  have hlast : ((days + 719468) % 146097).toNat ≤ 146096 := by omega
  simp only [dateOfDays]
  rw [hday]
  generalize ((days + 719468) % 146097).toNat = day at hlast
  simp only [Int.toNat_natCast]
  generalize hyear : (day - day / 1460 + day / 36524 - day / 146096) / 365 = year
  generalize hmonth : (5 * (day - (365 * year + year / 4 - year / 100)) + 2) / 153 = month
  have hyears : year ≤ 399 := by omega
  refine ⟨year + if month < 10 then 0 else 1, ?_, ?_, ?_, ?_⟩
  · split <;> split <;> omega
  · split <;> omega
  · split <;> omega
  · split <;> omega

theorem year_dateOfDays_iff (days : Int) :
    1 ≤ (dateOfDays days).year ∧ (dateOfDays days).year ≤ 9999 ↔
      -719162 ≤ days ∧ days ≤ 2932896 := by
  obtain ⟨past, hyear, hfirst, hlast, hpast⟩ := year_dateOfDays days
  omega

namespace Moment

/-- The moment is in one of the years 1 to 9999. -/
def InFourDigitYear (t : Moment) : Prop :=
  -62135596800 ≤ t.seconds ∧ t.seconds < 253402300800

/-- **The moments that can be written.** -/
theorem exists_text_iff {t : Moment} : (∃ s, t.text = .ok s) ↔ t.InFourDigitYear := by
  have hyears := year_dateOfDays_iff (t.seconds / 86400)
  have hdays : t.InFourDigitYear ↔
      -719162 ≤ t.seconds / 86400 ∧ t.seconds / 86400 ≤ 2932896 := by
    unfold InFourDigitYear
    omega
  rw [hdays, ← hyears]
  simp only [text]
  have hpow63 : Nat.pow 2 63 = 9223372036854775808 := by decide
  have hpow31 : Nat.pow 2 31 = 2147483648 := by decide
  rw [hpow63, hpow31]
  split
  case isTrue hseconds =>
    simp
    omega
  case isFalse hseconds =>
    split
    case isTrue hlarge =>
      simp
      omega
    case isFalse hlarge =>
      split
      case isTrue hdigits =>
        simp
        omega
      case isFalse hdigits =>
        simp
        omega

end Moment

/-- A value can be written as a moment when it is a number of seconds in one of the years 1 to
9999. -/
theorem exists_text_iff {v : Value} :
    (∃ s, text v = .ok s) ↔ ∃ t, ofSeconds v = .ok t ∧ t.InFourDigitYear := by
  unfold text
  cases ofSeconds v with
  | error e => simp
  | ok t => simp [Moment.exists_text_iff]

end HealthAlert.Log.Timestamp
