import HealthAlert.Proofs.Decimal.Digits
import HealthAlert.Proofs.Decimal.Rounding

/-!
# Shortest digits read back

The decimal that `Decimal.shortest` finds for a number of 64 bits lies where quotients become that
number (`Double.Nears`). A grid is only taken when it has a point there, and the grid with 17 digits
always has one.

* `magnitude_bounds`: the powers of ten around a quotient.
* `contains_iff`: the interval of a number holds the quotients that become the number.
* `nears_of_close`: what lies within half the spacing of the grid with 17 digits nears the number.
* **`nears_shortest`**: the shortest decimal becomes the number.
* `value_trimmed`: zeros that are left out at the end do not change its value.
-/

namespace HealthAlert

namespace Decimal

open Double (Fits Nears reach)

/-- The value of a decimal. -/
def value (d : Decimal) : ℚ := d.digits * (10 : ℚ) ^ d.exponent

variable {num den m n : Nat} {e : Int}

/-- A quotient without its fraction. -/
theorem div_bounds (num : Nat) (hden : 0 < den) :
    ((num / den : Nat) : ℚ) ≤ num / den ∧ (num : ℚ) / den < (num / den : Nat) + 1 := by
  have hden' : (0 : ℚ) < den := by exact_mod_cast hden
  constructor
  · rw [le_div_iff₀ hden']
    exact_mod_cast Nat.div_mul_le_self num den
  · rw [div_lt_iff₀ hden', add_mul, one_mul]
    exact_mod_cast Nat.lt_div_mul_add hden

/-- **A positive quotient lies between the powers of ten that its magnitude tells.** -/
theorem magnitude_bounds (hnum : 0 < num) (hden : 0 < den) :
    (10 : ℚ) ^ (magnitude num den - 1) ≤ num / den ∧
      (num : ℚ) / den < (10 : ℚ) ^ magnitude num den := by
  have hnum' : (0 : ℚ) < num := by exact_mod_cast hnum
  have hden' : (0 : ℚ) < den := by exact_mod_cast hden
  -- Below a power of ten a number is so together with the next one.
  have hnext {n w : Nat} (h : (n : ℚ) < (10 : ℚ) ^ (w : Int)) : (n : ℚ) + 1 ≤ 10 ^ (w : Int) := by
    rw [zpow_natCast] at h ⊢
    exact_mod_cast h
  unfold magnitude
  split
  · rename_i hle
    obtain ⟨hlow, hhigh⟩ := pow_le_width (Nat.div_pos hle hden)
    obtain ⟨hfloor, hceil⟩ := div_bounds num hden
    exact ⟨hlow.trans hfloor, hceil.trans_le (hnext hhigh)⟩
  · rename_i hle
    obtain ⟨hlow, hhigh⟩ := pow_le_width (Nat.div_pos (show num ≤ den - 1 by omega) hnum)
    have hfloor : (((den - 1) / num : Nat) : ℚ) < den / num := by
      refine (div_bounds (den - 1) hnum).1.trans_lt (div_lt_div_of_pos_right ?_ hnum')
      exact_mod_cast Nat.sub_lt hden Nat.one_pos
    have hceil : (den : ℚ) / num ≤ ((den - 1) / num : Nat) + 1 := by
      rw [div_le_iff₀ hnum', add_mul, one_mul]
      have hlt := Nat.lt_div_mul_add (a := den - 1) hnum
      exact_mod_cast (show den ≤ (den - 1) / num * num + num by omega)
    rw [← inv_div (den : ℚ)]
    generalize width ((den - 1) / num) = w at hlow hhigh ⊢
    constructor
    · rw [show 1 - (w : Int) - 1 = -w by omega, zpow_neg]
      exact inv_anti₀ (by positivity) (hceil.trans (hnext hhigh))
    · rw [show 1 - (w : Int) = -(w - 1) by omega, zpow_neg]
      exact inv_strictAnti₀ (by positivity) (hlow.trans_lt hfloor)

/-! ## The interval of a number -/

/-- The quarters of a unit by which an interval goes down. -/
def quartersDown (m : Nat) (e : Int) : Nat :=
  if m = Nat.pow 2 52 ∧ Double.minExponent < e then 1 else 2

theorem dyadic_snd (m n : Nat) (e : Int) : (dyadic m e).2 = (dyadic n e).2 := by
  unfold dyadic
  split <;> rfl

theorem interval_eq (m : Nat) (e : Int) :
    interval m e = ⟨(dyadic (4 * m - quartersDown m e) (e - 2)).1, (dyadic (4 * m + 2) (e - 2)).1,
      (dyadic m (e - 2)).2, m % 2 == 0⟩ := by
  unfold interval quartersDown dyadic
  simp only
  split <;> split <;> rfl

/-- The ends of the interval, and the middle of the number. -/
theorem interval_value (hm : 0 < m) (e : Int) :
    ((interval m e).lower : ℚ) / (interval m e).den = (m - reach m e) * (2 : ℚ) ^ e ∧
      ((interval m e).upper : ℚ) / (interval m e).den = (m + 1 / 2) * (2 : ℚ) ^ e ∧
      0 < (interval m e).den := by
  have hquarter (x : ℚ) : x * 2 ^ (e - 2) = x / 4 * 2 ^ e := by
    rw [zpow_sub₀ two_ne_zero]
    norm_num
    ring
  have hreach : reach m e = (quartersDown m e : ℚ) / 4 := by
    unfold reach quartersDown
    split <;> norm_num
  have hle : quartersDown m e ≤ 4 * m := by
    unfold quartersDown
    split <;> omega
  rw [interval_eq]
  refine ⟨?_, ?_, (dyadic_value m (e - 2)).2⟩
  · simp only [dyadic_snd m (4 * m - quartersDown m e)]
    rw [(dyadic_value _ _).1, hquarter, hreach, Nat.cast_sub hle]
    push_cast
    ring
  · simp only [dyadic_snd m (4 * m + 2)]
    rw [(dyadic_value _ _).1, hquarter]
    push_cast
    ring

/-- The ends belong to the quotients that become a number when its mantissa is even. -/
theorem nears_iff (m : Nat) (e : Int) (q : ℚ) :
    Nears m e q ↔
      if m % 2 = 0 then (m - reach m e) * 2 ^ e ≤ q ∧ q ≤ (m + 1 / 2) * 2 ^ e
      else (m - reach m e) * 2 ^ e < q ∧ q < (m + 1 / 2) * 2 ^ e := by
  have htwo : (0 : ℚ) < (2 : ℚ) ^ e := by positivity
  rw [← le_div_iff₀ htwo, ← div_le_iff₀ htwo, ← lt_div_iff₀ htwo, ← div_lt_iff₀ htwo]
  split
  · rename_i heven
    exact ⟨fun h => ⟨h.low, h.high⟩, fun h => ⟨h.1, h.2, Or.inl heven⟩⟩
  · rename_i hodd
    exact ⟨fun h => h.inside.resolve_left hodd, fun h => ⟨h.1.le, h.2.le, Or.inr h⟩⟩

/-- **A decimal lies in the interval of a number when it nears the number.** -/
theorem contains_iff (hm : 0 < m) (e : Int) (c : Nat) (k : Int) :
    (interval m e).contains c k = true ↔ Nears m e (c * (10 : ℚ) ^ k) := by
  obtain ⟨hlower, hupper, hden⟩ := interval_value hm e
  obtain ⟨hvalue, hpos⟩ := scale_value c Nat.one_pos k
  have hclosed : (interval m e).closed = (m % 2 == 0) := by rw [interval_eq]
  have hden' : (0 : ℚ) < (interval m e).den := by exact_mod_cast hden
  have hpos' : (0 : ℚ) < (scale c 1 k).2 := by exact_mod_cast hpos
  rw [Nat.cast_one, div_one] at hvalue
  rw [nears_iff, ← hlower, ← hupper, ← hvalue, div_le_div_iff₀ hden' hpos',
    div_le_div_iff₀ hpos' hden', div_lt_div_iff₀ hden' hpos', div_lt_div_iff₀ hpos' hden']
  unfold Interval.contains
  simp only [hclosed, beq_iff_eq]
  split
  · simp only [Bool.and_eq_true, decide_eq_true_eq]
    exact_mod_cast Iff.rfl
  · simp only [Bool.and_eq_true, decide_eq_true_eq]
    exact_mod_cast Iff.rfl

/-! ## The grids -/

variable {d : Decimal}

/-- A grid is taken for a point of it in the interval. -/
theorem contains_of_onGrid {i : Interval} (h : onGrid num den i n = some d) :
    i.contains d.digits d.exponent = true := by
  have htaken (c c' : Nat) (k : Int)
      (h : (if i.contains c k then some (Decimal.mk c k)
        else if i.contains c' k then some ⟨c', k⟩ else none) = some d) :
      i.contains d.digits d.exponent = true := by
    split at h
    · rwa [← Option.some.inj h]
    · split at h
      · rwa [← Option.some.inj h]
      · exact absurd h (by simp)
  exact htaken _ _ _ h

/-- The points of a grid with 17 digits lie closer together than the numbers. -/
theorem spacing_lt_reach (hfits : Fits m e) {k : Int} (h : (10 : ℚ) ^ (k + 16) ≤ m * 2 ^ e) :
    (10 : ℚ) ^ k / 2 ^ e / 2 < reach m e := by
  have htwo : (0 : ℚ) < (2 : ℚ) ^ e := by positivity
  have hfine : (10 : ℚ) ^ k / 2 ^ e * 10 ^ 16 ≤ m := by
    rw [div_mul_eq_mul_div, div_le_iff₀ htwo]
    rw [zpow_add₀ (by norm_num)] at h
    exact_mod_cast h
  unfold reach
  split
  · rename_i hpower
    rw [hpower.1] at hfine
    norm_num at hfine
    linarith
  · have hmantissa : (m : ℚ) < 2 ^ 53 := by exact_mod_cast hfits.mantissa
    linarith

/-- What lies within half of such a grid's spacing nears the number. -/
theorem nears_of_close (hfits : Fits m e) {k : Int} (h : (10 : ℚ) ^ (k + 16) ≤ m * 2 ^ e) {q : ℚ}
    (hlow : m * 2 ^ e - (10 : ℚ) ^ k / 2 ≤ q) (hhigh : q ≤ m * 2 ^ e + (10 : ℚ) ^ k / 2) :
    Nears m e q := by
  have htwo : (0 : ℚ) < (2 : ℚ) ^ e := by positivity
  have hspacing := spacing_lt_reach hfits h
  have hreach := Double.reach_le m e
  have hcancel : m * (2 : ℚ) ^ e / 2 ^ e = m := mul_div_cancel_right₀ _ htwo.ne'
  have hlow' : m - (10 : ℚ) ^ k / 2 ^ e / 2 ≤ q / 2 ^ e := by
    have := div_le_div_of_nonneg_right hlow htwo.le
    rwa [sub_div, hcancel, div_right_comm] at this
  have hhigh' : q / 2 ^ e ≤ m + (10 : ℚ) ^ k / 2 ^ e / 2 := by
    have := div_le_div_of_nonneg_right hhigh htwo.le
    rwa [add_div, hcancel, div_right_comm] at this
  have hinside : m - reach m e < q / 2 ^ e ∧ q / 2 ^ e < m + 1 / 2 := by constructor <;> linarith
  exact ⟨hinside.1.le, hinside.2.le, Or.inr hinside⟩

/-- The point nearest to the number on the grid with 17 digits. -/
def nearestOnLast (m : Nat) (e : Int) : Decimal :=
  let (num, den) := dyadic m e
  let k := magnitude num den - 17
  ⟨roundDiv (scale num den (-k)).1 (scale num den (-k)).2, k⟩

/-- **The point nearest to a number on the grid with 17 digits nears it.** -/
theorem nears_nearestOnLast (hfits : Fits m e) (hm : 0 < m) :
    Nears m e (nearestOnLast m e).value := by
  obtain ⟨hvalue, hden⟩ := dyadic_value m e
  have hnum : 0 < (dyadic m e).1 := by
    have hpos : (0 : ℚ) < (dyadic m e).1 / (dyadic m e).2 := by
      rw [hvalue]
      positivity
    exact_mod_cast (div_pos_iff_of_pos_right (by exact_mod_cast hden)).mp hpos
  have hfrom := (magnitude_bounds hnum hden).1
  obtain ⟨k, hk⟩ : ∃ k, magnitude (dyadic m e).1 (dyadic m e).2 - 17 = k := ⟨_, rfl⟩
  rw [hvalue, show magnitude (dyadic m e).1 (dyadic m e).2 - 1 = k + 16 by omega] at hfrom
  have hten : (0 : ℚ) < (10 : ℚ) ^ k := by positivity
  obtain ⟨hscaled, hpos⟩ := scale_value (dyadic m e).1 hden (-k)
  obtain ⟨hbelow, habove⟩ := roundDiv_near (scale (dyadic m e).1 (dyadic m e).2 (-k)).1 hpos
  rw [hscaled, hvalue] at hbelow habove
  have hback : m * (2 : ℚ) ^ e * 10 ^ (-k) * 10 ^ k = m * 2 ^ e := by
    rw [mul_assoc, ← zpow_add₀ (by norm_num), neg_add_cancel, zpow_zero, mul_one]
  unfold nearestOnLast value
  simp only [hk]
  refine nears_of_close hfits hfrom ?_ ?_
  · have := mul_le_mul_of_nonneg_right hbelow hten.le
    rwa [sub_mul, hback, one_div_mul_eq_div] at this
  · have := mul_le_mul_of_nonneg_right habove hten.le
    rwa [add_mul, hback, one_div_mul_eq_div] at this

/-- **The shortest digits of a number near the number.** -/
theorem nears_shortest (hfits : Fits m e) (hm : 0 < m) : Nears m e (shortest m e).value := by
  have hlast := nears_nearestOnLast hfits hm
  have hshortest : shortest m e = ((List.range 17).findSome? fun n =>
      onGrid (dyadic m e).1 (dyadic m e).2 (interval m e) (n + 1)).getD (nearestOnLast m e) := rfl
  rw [hshortest]
  cases hfound : (List.range 17).findSome? fun n =>
      onGrid (dyadic m e).1 (dyadic m e).2 (interval m e) (n + 1) with
  | none => exact hlast
  | some d =>
    obtain ⟨n, -, hn⟩ := List.exists_of_findSome?_eq_some hfound
    exact (contains_iff hm e _ _).mp (contains_of_onGrid hn)

/-! ## Zeros at the end -/

/-- Digits are those before the zeros at their end, and these zeros. -/
theorem exists_eq_append_zeros (ds : List Char) :
    ∃ front, ds = front ++ zeros (ds.reverse.takeWhile (· == '0')).length := by
  have hzeros : ds.reverse.takeWhile (· == '0') =
      zeros (ds.reverse.takeWhile (· == '0')).length :=
    List.eq_replicate_of_mem fun c hc => by
      simpa using List.all_eq_true.mp (List.all_takeWhile (l := ds.reverse) (p := (· == '0'))) c hc
  refine ⟨(ds.reverse.dropWhile (· == '0')).reverse, ?_⟩
  have hsplit := List.takeWhile_append_dropWhile (p := (· == '0')) (l := ds.reverse)
  rw [hzeros] at hsplit
  have := congrArg List.reverse hsplit
  rw [List.reverse_reverse, List.reverse_append, zeros, List.reverse_replicate] at this
  exact this.symm

/-- **Without the zeros at the end of its digits a decimal is the same.** -/
theorem value_trimmed (d : Decimal) : d.trimmed.value = d.value := by
  unfold trimmed
  simp only
  split
  · rfl
  · obtain ⟨front, hfront⟩ := exists_eq_append_zeros (Nat.toDigits 10 d.digits)
    generalize ((Nat.toDigits 10 d.digits).reverse.takeWhile (· == '0')).length = z at hfront ⊢
    have hdigits : d.digits = ofDigits front * Nat.pow 10 z := by
      rw [← ofDigits_append_zeros, ← hfront, ofDigits_toDigits]
    have hquot : d.digits / Nat.pow 10 z = ofDigits front :=
      hdigits ▸ Nat.mul_div_cancel (ofDigits front) (Nat.pow_pos (by decide))
    have hpow : ((Nat.pow 10 z : Nat) : ℚ) = 10 ^ z := Nat.cast_pow 10 z
    unfold value
    simp only [hquot]
    rw [hdigits, zpow_add₀ (by norm_num), zpow_natCast, Nat.cast_mul, hpow]
    ring

end Decimal

end HealthAlert
