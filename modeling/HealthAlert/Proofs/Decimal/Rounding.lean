import HealthAlert.Decimal.Reading
import HealthAlert.Decimal.Shortest
import Mathlib.Algebra.Order.Archimedean.Basic
import Mathlib.Algebra.Order.Field.Power
import Mathlib.Data.Rat.Floor
import Mathlib.Tactic.FieldSimp
import Mathlib.Tactic.Linarith
import Mathlib.Tactic.NormNum
import Mathlib.Tactic.Positivity
import Mathlib.Tactic.Ring

/-!
# Which quotients become which binary number

A number of 64 bits that is not zero is the nearest to every quotient around it (`Nears`): half a
unit up and down, but only a quarter of one down from a power of two, where the numbers below lie
twice as close. The ends belong to it when its mantissa is even.

* `roundDiv_eq`: the integer nearest to a quotient.
* `exponentFor_eq`: the exponent at which a quotient has 53 bits before the point.
* **`wellFormed_ofRatio`**: every quotient becomes a number of 64 bits.
* **`ofRatio_eq`**: every quotient that nears a number becomes that number.
* **`ofScientific_eq`**: so does every decimal.
-/

namespace HealthAlert

namespace Decimal

/-! ## Quotients -/

theorem dyadic_value (m : Nat) (e : Int) :
    ((dyadic m e).1 : ℚ) / (dyadic m e).2 = m * (2 : ℚ) ^ e ∧ 0 < (dyadic m e).2 := by
  unfold dyadic
  split
  · rename_i he
    obtain ⟨n, rfl⟩ := Int.eq_ofNat_of_zero_le he
    simp
  · rename_i he
    obtain ⟨n, hn⟩ := Int.eq_ofNat_of_zero_le (show 0 ≤ -e by omega)
    obtain rfl : e = -(n : Int) := by omega
    simp [div_eq_mul_inv]

theorem scale_value (num : Nat) {den : Nat} (hden : 0 < den) (k : Int) :
    ((scale num den k).1 : ℚ) / (scale num den k).2 = num / den * (10 : ℚ) ^ k ∧
      0 < (scale num den k).2 := by
  unfold scale
  split
  · rename_i hk
    obtain ⟨n, rfl⟩ := Int.eq_ofNat_of_zero_le hk
    refine ⟨?_, hden⟩
    simp
    ring
  · rename_i hk
    obtain ⟨n, hn⟩ := Int.eq_ofNat_of_zero_le (show 0 ≤ -k by omega)
    obtain rfl : k = -(n : Int) := by omega
    refine ⟨?_, by simp [hden]⟩
    simp
    field_simp

/-- A positive number lies between the powers of ten that its digits tell. -/
theorem pow_le_width {n : Nat} (hn : 0 < n) :
    (10 : ℚ) ^ ((width n : Int) - 1) ≤ n ∧ (n : ℚ) < (10 : ℚ) ^ (width n : Int) := by
  obtain ⟨k, hk⟩ : ∃ k, width n = k + 1 := Nat.exists_eq_succ_of_ne_zero Nat.length_toDigits_pos.ne'
  rw [hk, Nat.cast_succ, add_sub_cancel_right, ← Nat.cast_succ, zpow_natCast, zpow_natCast]
  constructor
  · rcases Nat.eq_zero_or_pos k with rfl | hpos
    · exact_mod_cast hn
    · have hle : ¬ n < 10 ^ k := fun hlt => by
        have hshort := (Nat.length_toDigits_le_iff (by decide) hpos).mpr hlt
        exact Nat.not_succ_le_self k (hk.symm.le.trans hshort)
      exact_mod_cast not_lt.mp hle
  · exact_mod_cast (Nat.length_toDigits_le_iff (by decide) k.succ_pos).mp hk.le

/-- **The integer nearest to a quotient**: no further away than a half, and even where the quotient
lies in the middle. -/
theorem roundDiv_eq {num den n : Nat} (hden : 0 < den)
    (hlow : (n : ℚ) - 1 / 2 ≤ num / den) (hhigh : (num : ℚ) / den ≤ n + 1 / 2)
    (htie : n % 2 = 0 ∨ ((n : ℚ) - 1 / 2 < num / den ∧ (num : ℚ) / den < n + 1 / 2)) :
    roundDiv num den = n := by
  have hden' : (0 : ℚ) < den := by exact_mod_cast hden
  rw [le_div_iff₀ hden'] at hlow
  rw [div_le_iff₀ hden'] at hhigh
  rw [lt_div_iff₀ hden', div_lt_iff₀ hden'] at htie
  have hlow' : 2 * (n * den) ≤ 2 * num + den := by
    have : (2 * (n * den) : ℚ) ≤ 2 * num + den := by linarith
    exact_mod_cast this
  have hhigh' : 2 * num ≤ 2 * (n * den) + den := by
    have : (2 * num : ℚ) ≤ 2 * (n * den) + den := by linarith
    exact_mod_cast this
  have htie' : n % 2 = 0 ∨ (2 * (n * den) < 2 * num + den ∧ 2 * num < 2 * (n * den) + den) := by
    refine htie.imp_right fun h => ⟨?_, ?_⟩
    · have : (2 * (n * den) : ℚ) < 2 * num + den := by linarith
      exact_mod_cast this
    · have : (2 * num : ℚ) < 2 * (n * den) + den := by linarith
      exact_mod_cast this
  -- The quotient without its fraction is the integer or the one before it.
  have hsplit : den * (num / den) + num % den = num := Nat.div_add_mod num den
  have hmod : num % den < den := Nat.mod_lt num hden
  have hquot : num / den = n ∨ num / den + 1 = n := by
    have hle : num / den ≤ n := by
      refine Nat.le_of_lt_succ (lt_of_mul_lt_mul_left (a := den) ?_ (Nat.zero_le den))
      rw [Nat.mul_succ, Nat.mul_comm den n]
      omega
    have hge : n ≤ num / den + 1 := by
      refine Nat.le_of_lt_succ (lt_of_mul_lt_mul_left (a := den) ?_ (Nat.zero_le den))
      rw [Nat.mul_succ, Nat.mul_succ, Nat.mul_comm den n]
      omega
    omega
  unfold roundDiv
  simp only
  rcases hquot with hq | hq
  · rw [hq] at hsplit ⊢
    rw [Nat.mul_comm] at hsplit
    split
    · rfl
    · split
      · omega
      · rw [if_pos (by omega)]
  · have hn : n * den = den * (num / den) + den := by rw [← hq, Nat.succ_mul, Nat.mul_comm]
    split
    · omega
    · split
      · exact hq
      · rw [if_neg (by omega), hq]

/-- Rounding moves a quotient by a half at most. -/
theorem roundDiv_near (num : Nat) {den : Nat} (hden : 0 < den) :
    (num : ℚ) / den - 1 / 2 ≤ roundDiv num den ∧ (roundDiv num den : ℚ) ≤ num / den + 1 / 2 := by
  have hden' : (0 : ℚ) < den := by exact_mod_cast hden
  have hsplit : den * (num / den) + num % den = num := Nat.div_add_mod num den
  have hmod : num % den < den := Nat.mod_lt num hden
  have hround : 2 * (den * roundDiv num den) ≤ 2 * num + den ∧
      2 * num ≤ 2 * (den * roundDiv num den) + den := by
    have hsucc : den * (num / den + 1) = den * (num / den) + den := Nat.mul_succ _ _
    unfold roundDiv
    simp only
    split
    · omega
    · split
      · rw [hsucc]
        omega
      · split
        · omega
        · rw [hsucc]
          omega
  have hlow : (2 * num : ℚ) ≤ 2 * (den * roundDiv num den) + den := by exact_mod_cast hround.2
  have hhigh : (2 * (den * roundDiv num den) : ℚ) ≤ 2 * num + den := by exact_mod_cast hround.1
  constructor
  · rw [sub_le_iff_le_add, div_le_iff₀ hden']
    linarith
  · rw [← sub_le_iff_le_add, le_div_iff₀ hden']
    linarith

end Decimal

namespace Double

open Decimal

/-! ## Exponents -/

/-- Numerator and denominator of a quotient divided by `2 ^ e`. -/
def shifted (num den : Nat) (e : Int) : Nat × Nat :=
  if 0 ≤ e then (num, den * Nat.pow 2 e.toNat) else (num * Nat.pow 2 (-e).toNat, den)

theorem shifted_value (num : Nat) {den : Nat} (hden : 0 < den) (e : Int) :
    ((shifted num den e).1 : ℚ) / (shifted num den e).2 = num / den / (2 : ℚ) ^ e ∧
      0 < (shifted num den e).2 := by
  unfold shifted
  split
  · rename_i he
    obtain ⟨n, rfl⟩ := Int.eq_ofNat_of_zero_le he
    refine ⟨?_, by simp [hden]⟩
    simp [div_div]
  · rename_i he
    obtain ⟨n, hn⟩ := Int.eq_ofNat_of_zero_le (show 0 ≤ -e by omega)
    obtain rfl : e = -(n : Int) := by omega
    refine ⟨?_, hden⟩
    simp
    ring

theorem exponentFor_eq_shifted (num den : Nat) :
    exponentFor num den =
      let e : Int := (num.log2 : Int) - (den.log2 : Int) - 52
      max minExponent
        (if (shifted num den e).1 / (shifted num den e).2 < Nat.pow 2 52 then e - 1 else e) := by
  unfold exponentFor shifted
  simp only
  split <;> rfl

/-- A quotient lies within a factor of two around the powers of its logarithms. -/
theorem log2_bounds {num den : Nat} (hnum : 0 < num) (hden : 0 < den) :
    (2 : ℚ) ^ ((num.log2 : Int) - den.log2 - 1) < num / den ∧
      (num : ℚ) / den < (2 : ℚ) ^ ((num.log2 : Int) - den.log2 + 1) := by
  have hlow (n : Nat) (hn : 0 < n) : (2 : ℚ) ^ (n.log2 : Int) ≤ n := by
    rw [zpow_natCast]
    exact_mod_cast Nat.log2_self_le hn.ne'
  have hhigh (n : Nat) : (n : ℚ) < (2 : ℚ) ^ ((n.log2 : Int) + 1) := by
    rw [zpow_add_one₀ two_ne_zero, zpow_natCast, ← pow_succ]
    exact_mod_cast Nat.lt_log2_self
  have hden' : (0 : ℚ) < den := by exact_mod_cast hden
  have htwo (e : Int) : (0 : ℚ) < (2 : ℚ) ^ e := by positivity
  constructor
  · rw [lt_div_iff₀ hden']
    calc (2 : ℚ) ^ ((num.log2 : Int) - den.log2 - 1) * den
        < (2 : ℚ) ^ ((num.log2 : Int) - den.log2 - 1) * (2 : ℚ) ^ ((den.log2 : Int) + 1) :=
          mul_lt_mul_of_pos_left (hhigh den) (htwo _)
      _ = (2 : ℚ) ^ (num.log2 : Int) := by
          rw [← zpow_add₀ two_ne_zero]
          congr 1
          omega
      _ ≤ num := hlow num hnum
  · rw [div_lt_iff₀ hden']
    calc (num : ℚ) < (2 : ℚ) ^ ((num.log2 : Int) + 1) := hhigh num
      _ = (2 : ℚ) ^ ((num.log2 : Int) - den.log2 + 1) * (2 : ℚ) ^ (den.log2 : Int) := by
          rw [← zpow_add₀ two_ne_zero]
          congr 1
          omega
      _ ≤ (2 : ℚ) ^ ((num.log2 : Int) - den.log2 + 1) * den :=
          mul_le_mul_of_nonneg_left (hlow den hden) (htwo _).le

/-- **The exponent at which a quotient has 53 bits before the point**, unless it is too small. -/
theorem exponentFor_eq {num den : Nat} (hnum : 0 < num) (hden : 0 < den) {e : Int}
    (hlow : (2 : ℚ) ^ (e + 52) ≤ num / den) (hhigh : (num : ℚ) / den < (2 : ℚ) ^ (e + 53)) :
    exponentFor num den = max minExponent e := by
  obtain ⟨hvalue, hpos⟩ := shifted_value num hden ((num.log2 : Int) - den.log2 - 52)
  have hbounds := log2_bounds hnum hden
  have hmono (i j : Int) (h : (2 : ℚ) ^ i < (2 : ℚ) ^ j) : i < j :=
    (zpow_lt_zpow_iff_right₀ one_lt_two).mp h
  have hge : (num.log2 : Int) - den.log2 - 1 < e + 53 := hmono _ _ (hbounds.1.trans hhigh)
  have hle : e + 52 < (num.log2 : Int) - den.log2 + 1 := hmono _ _ (hlow.trans_lt hbounds.2)
  have hsmall : (shifted num den ((num.log2 : Int) - den.log2 - 52)).1 /
      (shifted num den ((num.log2 : Int) - den.log2 - 52)).2 < Nat.pow 2 52 ↔
        (num : ℚ) / den < (2 : ℚ) ^ ((num.log2 : Int) - den.log2) := by
    have hpos' : (0 : ℚ) < (shifted num den ((num.log2 : Int) - den.log2 - 52)).2 := by
      exact_mod_cast hpos
    have hexp : (2 : ℚ) ^ ((num.log2 : Int) - den.log2) =
        (2 : ℚ) ^ 52 * (2 : ℚ) ^ ((num.log2 : Int) - den.log2 - 52) := by
      rw [← zpow_natCast, ← zpow_add₀ two_ne_zero]
      congr 1
      omega
    rw [Nat.div_lt_iff_lt_mul hpos, hexp, ← div_lt_iff₀ (by positivity), ← hvalue,
      div_lt_iff₀ hpos']
    exact_mod_cast Iff.rfl
  rw [exponentFor_eq_shifted]
  simp only
  congr 1
  split
  · rename_i h
    have := hmono _ _ (hlow.trans_lt (hsmall.mp h))
    omega
  · rename_i h
    have := hmono _ _ ((not_lt.mp (mt hsmall.mpr h)).trans_lt hhigh)
    omega

/-! ## Rounding -/

/-- The mantissa and the exponent of a number of 64 bits. -/
structure Fits (m : Nat) (e : Int) : Prop where
  mantissa : m < Nat.pow 2 53
  low : minExponent ≤ e
  high : e ≤ maxExponent
  normal : Nat.pow 2 52 ≤ m ∨ e = minExponent

/-- The number is one of 64 bits. -/
def WellFormed : Double → Prop
  | .finite _ m e => Fits m e
  | .infinite _ => True
  | .nan => True

/-- How far below a number, in units of its last place, lie the quotients that become it. -/
def reach (m : Nat) (e : Int) : ℚ :=
  if m = Nat.pow 2 52 ∧ minExponent < e then 1 / 4 else 1 / 2

/-- The quotient is nearer to `m · 2 ^ e` than to the numbers beside it, or it lies in the middle
and the mantissa is even. -/
structure Nears (m : Nat) (e : Int) (q : ℚ) : Prop where
  low : m - reach m e ≤ q / (2 : ℚ) ^ e
  high : q / (2 : ℚ) ^ e ≤ m + 1 / 2
  inside : m % 2 = 0 ∨ (m - reach m e < q / (2 : ℚ) ^ e ∧ q / (2 : ℚ) ^ e < m + 1 / 2)

variable {negative : Bool} {m : Nat} {e : Int} {q : ℚ}

theorem reach_le (m : Nat) (e : Int) : reach m e ≤ 1 / 2 := by
  unfold reach
  split <;> norm_num

theorem ofRatio_eq_shifted {num : Nat} (hnum : 0 < num) (den : Nat) :
    ofRatio negative num den =
      let e := exponentFor num den
      let m := roundDiv (shifted num den e).1 (shifted num den e).2
      let (m, e) := if m = Nat.pow 2 53 then (Nat.pow 2 52, e + 1) else (m, e)
      if maxExponent < e then .infinite negative else .finite negative m e := by
  unfold ofRatio shifted
  rw [if_neg hnum.ne']
  simp only
  split <;> rfl

/-- Where a quotient has at most 53 bits before the point, its exponent is the given one or lies
below it. -/
theorem exponentFor_le {num den : Nat} (hnum : 0 < num) (hden : 0 < den) (hlow : minExponent ≤ e)
    (hhigh : (num : ℚ) / den < (2 : ℚ) ^ (e + 53)) : exponentFor num den ≤ e := by
  have hq : (0 : ℚ) < num / den := by positivity
  obtain ⟨i, hi⟩ := exists_mem_Ico_zpow hq one_lt_two
  have hshift : i - 52 + 53 = i + 1 := by omega
  rw [exponentFor_eq hnum hden (e := i - 52) (by rw [sub_add_cancel]; exact hi.1)
    (by rw [hshift]; exact hi.2)]
  have := (zpow_lt_zpow_iff_right₀ one_lt_two).mp (hi.1.trans_lt hhigh)
  omega

theorem roundDiv_shifted {num den n : Nat} (hden : 0 < den)
    (hlow : (n : ℚ) - 1 / 2 ≤ num / den / (2 : ℚ) ^ e)
    (hhigh : (num : ℚ) / den / (2 : ℚ) ^ e ≤ n + 1 / 2)
    (htie : n % 2 = 0 ∨ ((n : ℚ) - 1 / 2 < num / den / (2 : ℚ) ^ e ∧
      (num : ℚ) / den / (2 : ℚ) ^ e < n + 1 / 2)) :
    roundDiv (shifted num den e).1 (shifted num den e).2 = n := by
  obtain ⟨hvalue, hpos⟩ := shifted_value num hden e
  rw [← hvalue] at hlow hhigh htie
  exact roundDiv_eq hpos hlow hhigh htie

/-- A quotient from the power of two up, or at the lowest exponent. -/
theorem ofRatio_of_le {num den : Nat} (hnum : 0 < num) (hden : 0 < den) (hfits : Fits m e)
    (h : Nears m e (num / den)) (hlt : (num : ℚ) / den < (2 : ℚ) ^ (e + 53))
    (hle : (2 : ℚ) ^ (e + 52) ≤ num / den ∨ e = minExponent) :
    ofRatio negative num den = .finite negative m e := by
  have hexp : exponentFor num den = e := by
    rcases hle with hle | rfl
    · rw [exponentFor_eq hnum hden hle hlt, max_eq_right hfits.low]
    · refine le_antisymm (exponentFor_le hnum hden le_rfl hlt) ?_
      rw [exponentFor_eq_shifted]
      exact le_max_left _ _
  have hhalf := reach_le m e
  have hround : roundDiv (shifted num den e).1 (shifted num den e).2 = m :=
    roundDiv_shifted hden (by linarith [h.low]) h.high
      (h.inside.imp_right fun hin => ⟨by linarith [hin.1], hin.2⟩)
  rw [ofRatio_eq_shifted hnum]
  simp only [hexp, hround, if_neg hfits.mantissa.ne, if_neg (not_lt.mpr hfits.high)]

/-- Below a power of two a quotient is first rounded at the exponent before. -/
theorem ofRatio_of_lt {num den : Nat} (hnum : 0 < num) (hden : 0 < den) (hfits : Fits m e)
    (h : Nears m e (num / den)) (hlt : (num : ℚ) / den < (2 : ℚ) ^ (e + 52))
    (he : minExponent < e) : ofRatio negative num den = .finite negative m e := by
  have htwo : (0 : ℚ) < (2 : ℚ) ^ e := by positivity
  have hunits : (num : ℚ) / den / 2 ^ e < 2 ^ 52 := by
    rw [div_lt_iff₀ htwo, ← zpow_natCast, ← zpow_add₀ two_ne_zero, add_comm]
    exact hlt
  obtain rfl : m = Nat.pow 2 52 := by
    refine le_antisymm (Nat.le_of_lt_succ ?_) (hfits.normal.resolve_right he.ne')
    have : (m : ℚ) < 2 ^ 52 + 1 := by linarith [h.low, reach_le m e]
    exact_mod_cast this
  have hquarter : (2 : ℚ) ^ 52 - 1 / 4 ≤ num / den / 2 ^ e := by
    have hlow := h.low
    rw [reach, if_pos ⟨rfl, he⟩] at hlow
    exact_mod_cast hlow
  have hdouble : (num : ℚ) / den / 2 ^ (e - 1) = 2 * (num / den / 2 ^ e) := by
    rw [zpow_sub_one₀ two_ne_zero]
    field_simp
  have hexp : exponentFor num den = e - 1 := by
    have hfrom : (2 : ℚ) ^ (e - 1 + 52) ≤ num / den := by
      rw [show e - 1 + 52 = 51 + e by omega, zpow_add₀ two_ne_zero, ← le_div_iff₀ htwo,
        show (2 : ℚ) ^ (51 : Int) = 2 ^ 51 from zpow_natCast 2 51]
      linarith
    have hto : (num : ℚ) / den < 2 ^ (e - 1 + 53) := by
      rw [show e - 1 + 53 = e + 52 by omega]
      exact hlt
    rw [exponentFor_eq hnum hden hfrom hto, max_eq_right (by omega)]
  have hround :
      roundDiv (shifted num den (e - 1)).1 (shifted num den (e - 1)).2 = Nat.pow 2 53 := by
    have hcast : ((Nat.pow 2 53 : Nat) : ℚ) = 2 ^ 53 := by norm_num
    refine roundDiv_shifted hden ?_ ?_ (Or.inl rfl)
    · rw [hcast, hdouble]
      linarith
    · rw [hcast, hdouble]
      linarith
  rw [ofRatio_eq_shifted hnum]
  simp only [hexp, hround, if_true, sub_add_cancel, if_neg (not_lt.mpr hfits.high)]

theorem wellFormed_zero (negative : Bool) : (zero negative).WellFormed :=
  ⟨by decide, le_rfl, by decide, Or.inr rfl⟩

/-- **Every quotient becomes a number of 64 bits.** -/
theorem wellFormed_ofRatio (negative : Bool) (num : Nat) {den : Nat} (hden : 0 < den) :
    (ofRatio negative num den).WellFormed := by
  rcases Nat.eq_zero_or_pos num with rfl | hnum
  · exact wellFormed_zero negative
  have hq : (0 : ℚ) < num / den := by positivity
  obtain ⟨i, hfrom, hto⟩ := exists_mem_Ico_zpow hq one_lt_two
  have hexp : exponentFor num den = max minExponent (i - 52) :=
    exponentFor_eq hnum hden (by rwa [sub_add_cancel]) (by rwa [show i - 52 + 53 = i + 1 by omega])
  generalize hexponent : exponentFor num den = e at hexp
  have htwo : (0 : ℚ) < (2 : ℚ) ^ e := by positivity
  obtain ⟨hvalue, hpos⟩ := shifted_value num hden e
  have hnear := roundDiv_near (shifted num den e).1 hpos
  rw [hvalue] at hnear
  generalize hround : roundDiv (shifted num den e).1 (shifted num den e).2 = m at hnear
  have hle : m ≤ Nat.pow 2 53 := by
    have hunits : (num : ℚ) / den / 2 ^ e < 2 ^ 53 := by
      rw [div_lt_iff₀ htwo, ← zpow_natCast, ← zpow_add₀ two_ne_zero]
      refine hto.trans_le (zpow_le_zpow_right₀ one_le_two ?_)
      omega
    have : (m : ℚ) < 2 ^ 53 + 1 := by linarith
    exact Nat.le_of_lt_succ (by exact_mod_cast this)
  have hnormal : Nat.pow 2 52 ≤ m ∨ e = minExponent := by
    rcases le_total (i - 52) minExponent with hsmall | hlarge
    · exact Or.inr (by rw [hexp, max_eq_left hsmall])
    · left
      have hunits : (2 : ℚ) ^ 52 ≤ num / den / 2 ^ e := by
        rw [le_div_iff₀ htwo, ← zpow_natCast, ← zpow_add₀ two_ne_zero]
        refine le_trans (zpow_le_zpow_right₀ one_le_two ?_) hfrom
        rw [hexp, max_eq_right hlarge]
        omega
      have : (2 : ℚ) ^ 52 < m + 1 := by linarith
      exact Nat.le_of_lt_succ (by exact_mod_cast this)
  rw [ofRatio_eq_shifted hnum]
  simp only [hexponent, hround]
  have hlow : minExponent ≤ e := hexp ▸ le_max_left _ _
  -- Rounding may carry into a 54th bit, and the exponent may be too large.
  by_cases hm : m = Nat.pow 2 53
  · rw [if_pos hm]
    by_cases hhigh : maxExponent < e + 1
    · rw [if_pos hhigh]
      trivial
    · rw [if_neg hhigh]
      exact show Fits (Nat.pow 2 52) (e + 1) from
        ⟨by decide, by omega, not_lt.mp hhigh, Or.inl le_rfl⟩
  · rw [if_neg hm]
    by_cases hhigh : maxExponent < e
    · rw [if_pos hhigh]
      trivial
    · rw [if_neg hhigh]
      exact ⟨lt_of_le_of_ne hle hm, hlow, not_lt.mp hhigh, hnormal⟩

/-- **Every quotient that nears a number becomes that number.** -/
theorem ofRatio_eq {num den : Nat} (hden : 0 < den) (hfits : Fits m e) (hm : 0 < m)
    (h : Nears m e (num / den)) : ofRatio negative num den = .finite negative m e := by
  have htwo : (0 : ℚ) < (2 : ℚ) ^ e := by positivity
  have hnum : 0 < num := by
    refine Nat.pos_of_ne_zero ?_
    rintro rfl
    have hlow := h.low
    have hm' : (1 : ℚ) ≤ m := by exact_mod_cast hm
    rw [Nat.cast_zero, zero_div, zero_div] at hlow
    linarith [reach_le m e]
  have hlt : (num : ℚ) / den < 2 ^ (e + 53) := by
    have hmantissa : (m : ℚ) + 1 ≤ 2 ^ 53 := by exact_mod_cast hfits.mantissa
    rw [add_comm, zpow_add₀ two_ne_zero, ← div_lt_iff₀ htwo,
      show (2 : ℚ) ^ (53 : Int) = 2 ^ 53 from zpow_natCast 2 53]
    linarith [h.high]
  by_cases hle : (2 : ℚ) ^ (e + 52) ≤ num / den ∨ e = minExponent
  · exact ofRatio_of_le hnum hden hfits h hlt hle
  · rw [not_or, not_le] at hle
    exact ofRatio_of_lt hnum hden hfits h hle.1 (lt_of_le_of_ne hfits.low (Ne.symm hle.2))

/-- What nears a number is neither too large nor too small to be read by its digits. -/
theorem Nears.bounds (hfits : Fits m e) (hm : 0 < m) (h : Nears m e q) :
    (10 : ℚ) ^ (-401 : Int) ≤ q ∧ q < (10 : ℚ) ^ (400 : Int) := by
  have htwo : (0 : ℚ) < (2 : ℚ) ^ e := by positivity
  have hm' : (1 : ℚ) ≤ m := by exact_mod_cast hm
  have hmantissa : (m : ℚ) + 1 ≤ 2 ^ 53 := by exact_mod_cast hfits.mantissa
  have height (i : Int) : (2 : ℚ) ^ (3 * i) = 8 ^ i := by rw [zpow_mul]; norm_num
  have hmono (i j : Int) (hij : i ≤ j) : (2 : ℚ) ^ i ≤ 2 ^ j := zpow_le_zpow_right₀ one_le_two hij
  have hlow := hfits.low
  have hhigh := hfits.high
  unfold minExponent at hlow
  unfold maxExponent at hhigh
  constructor
  · calc (10 : ℚ) ^ (-401 : Int) ≤ 8 ^ (-401 : Int) := by
          rw [zpow_neg, zpow_neg]
          exact inv_anti₀ (by positivity)
            (zpow_le_zpow_left₀ (by norm_num) (by norm_num) (by norm_num))
      _ = 2 ^ (3 * (-401) : Int) := (height _).symm
      _ ≤ 2 ^ (-1 + e) := hmono _ _ (by omega)
      _ = 1 / 2 * 2 ^ e := by rw [zpow_add₀ two_ne_zero, zpow_neg_one, one_div]
      _ ≤ q := by
          rw [← le_div_iff₀ htwo]
          linarith [h.low, reach_le m e]
  · calc q ≤ (m + 1 / 2) * 2 ^ e := (div_le_iff₀ htwo).mp h.high
      _ < 2 ^ (53 : Int) * 2 ^ e := by
          refine mul_lt_mul_of_pos_right ?_ htwo
          rw [show (2 : ℚ) ^ (53 : Int) = 2 ^ 53 from zpow_natCast 2 53]
          linarith
      _ = 2 ^ (53 + e) := (zpow_add₀ two_ne_zero _ _).symm
      _ ≤ 2 ^ (3 * 400 : Int) := hmono _ _ (by omega)
      _ = 8 ^ (400 : Int) := height _
      _ ≤ 10 ^ (400 : Int) := zpow_le_zpow_left₀ (by norm_num) (by norm_num) (by norm_num)

/-- **Every decimal that nears a number is read as that number.** -/
theorem ofScientific_eq {digits : Nat} {exponent : Int} (hfits : Fits m e) (hm : 0 < m)
    (h : Nears m e (digits * (10 : ℚ) ^ exponent)) :
    ofScientific negative digits exponent = .finite negative m e := by
  have hten (i : Int) : (0 : ℚ) < (10 : ℚ) ^ i := by positivity
  have hbounds := h.bounds hfits hm
  have hdigits : 0 < digits := by
    refine Nat.pos_of_ne_zero ?_
    rintro rfl
    rw [Nat.cast_zero, zero_mul] at hbounds
    exact absurd hbounds.1 (not_le.mpr (hten _))
  obtain ⟨hfrom, hto⟩ := pow_le_width hdigits
  have hlong : ¬ 400 < (width digits : Int) + exponent := by
    have hlt : (10 : ℚ) ^ ((width digits : Int) - 1 + exponent) < 10 ^ (400 : Int) := by
      rw [zpow_add₀ (by norm_num)]
      exact (mul_le_mul_of_nonneg_right hfrom (hten _).le).trans_lt hbounds.2
    have := (zpow_lt_zpow_iff_right₀ (by norm_num)).mp hlt
    omega
  have hshort : ¬ (width digits : Int) + exponent < -400 := by
    have hlt : (10 : ℚ) ^ (-401 : Int) < 10 ^ ((width digits : Int) + exponent) := by
      rw [zpow_add₀ (by norm_num)]
      exact hbounds.1.trans_lt (mul_lt_mul_of_pos_right hto (hten _))
    have := (zpow_lt_zpow_iff_right₀ (by norm_num)).mp hlt
    omega
  obtain ⟨hvalue, hpos⟩ := scale_value digits Nat.one_pos exponent
  rw [Nat.cast_one, div_one] at hvalue
  rw [← hvalue] at h
  have hratio : ofRatio negative _ _ = _ := ofRatio_eq hpos hfits hm h
  unfold ofScientific
  rw [if_neg hdigits.ne']
  simp only
  unfold width at hlong hshort
  rw [if_neg hlong, if_neg hshort]
  unfold scale at hratio
  split
  · rwa [if_pos ‹_›] at hratio
  · rwa [if_neg ‹_›, Nat.one_mul] at hratio

/-- **Every decimal is read as a number of 64 bits.** -/
theorem wellFormed_ofScientific (negative : Bool) (digits : Nat) (exponent : Int) :
    (ofScientific negative digits exponent).WellFormed := by
  unfold ofScientific
  split
  · exact wellFormed_zero negative
  · simp only
    split
    · trivial
    · split
      · exact wellFormed_zero negative
      · split
        · exact wellFormed_ofRatio _ _ Nat.one_pos
        · exact wellFormed_ofRatio _ _ (by simp)

end Double

end HealthAlert
