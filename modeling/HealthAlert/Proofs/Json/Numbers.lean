import HealthAlert.Proofs.Decimal.Shortest
import HealthAlert.Proofs.Json.Spelling

/-!
# How numbers with a fraction are written

A number of 64 bits that is written with its shortest digits, with an exponent or without, is one
token, and the token is the number.

* `surrounds_positional`: digits that are written around a point keep their value.
* `spells_shortestParts`: the shortest text of a decimal stands for the decimal.
* **`token_finiteParts`**: the text of a finite number stands for the number.
-/

namespace HealthAlert.Json

open Decimal

/-! ## The parts of a text -/

/-- The digits of a number, without its point. -/
def NumberText.digits (n : NumberText) : Nat :=
  ofDigits (n.whole ++ n.fraction.drop 1)

/-- The power of ten that belongs to the digits. -/
def NumberText.power (n : NumberText) : Int :=
  (Double.exponentPart n.exponent).1 - (n.fraction.drop 1).length

/-- With a fraction or an exponent a number is not an integer. -/
theorem NumberText.token_eq {n : NumberText} (h : n.fraction ≠ [] ∨ n.exponent ≠ []) :
    n.token = .word (.float (Double.ofScientific n.negative n.digits n.power)) := by
  unfold token
  rw [if_neg]
  · rfl
  · simp only [Bool.and_eq_true, List.isEmpty_iff]
    exact fun hnil => h.elim (· hnil.1) (· hnil.2)

variable {ds : List Char} {point : Int}

/-- The digits of an exponent that is written. -/
def exponentDigits (e : Int) : List Char :=
  zeros (2 - (Nat.toDigits 10 e.natAbs).length) ++ Nat.toDigits 10 e.natAbs

theorem isDigits_exponentDigits (e : Int) : IsDigits (exponentDigits e) :=
  (isDigits_toDigits e.natAbs).after fun _ => isDigit_of_mem_zeros

theorem exponentText_eq (e : Int) :
    Decimal.exponentText 'e' e = 'e' :: (if e < 0 then '-' else '+') :: exponentDigits e := rfl

/-- An exponent that is written is read. -/
theorem exponentPart_exponentText (e : Int) :
    Double.exponentPart (Decimal.exponentText 'e' e) = (e, []) := by
  have hdigits := isDigits_exponentDigits e
  have hvalue : ofDigits (exponentDigits e) = e.natAbs := by
    rw [exponentDigits, ofDigits_zeros_append, ofDigits_toDigits]
  have hrun := digitRun_digits hdigits.digits
  obtain ⟨d, ds, hds⟩ : ∃ d ds, exponentDigits e = d :: ds :=
    List.exists_cons_of_ne_nil hdigits.ne_nil
  rw [hds] at hrun hvalue
  rw [exponentText_eq, hds]
  split
  · simp [Double.exponentPart, hrun, hvalue, abs_of_neg ‹e < 0›]
  · simp [Double.exponentPart, hrun, hvalue, abs_of_nonneg (not_lt.mp ‹¬ e < 0›)]

/-! ## Digits around a point -/

/-- What is written before a point and after it stands for the digits and their power of ten. -/
structure Surrounds (whole fraction ds : List Char) (power : Int) : Prop where
  before : IsDigits whole
  noZero : whole = ['0'] ∨ whole.head? ≠ some '0'
  after : IsDigits fraction
  value : (ofDigits (whole ++ fraction) : ℚ) * 10 ^ (-(fraction.length : Int)) =
    ofDigits ds * 10 ^ power

/-- The point stands before the digits, with zeros between them. -/
theorem surrounds_zeros_append (hds : IsDigits ds) (n : Nat) :
    Surrounds ['0'] (zeros n ++ ds) ds (-n - ds.length) where
  before := isDigits_toDigits 0
  noZero := Or.inl rfl
  after := hds.after fun _ => isDigit_of_mem_zeros
  value := by
    have hvalue : ofDigits (['0'] ++ (zeros n ++ ds)) = ofDigits ds :=
      (ofDigits_zeros_append 1 _).trans (ofDigits_zeros_append _ _)
    have hlength : -((zeros n ++ ds).length : Int) = -n - ds.length := by
      simp [zeros]
      omega
    rw [hvalue, hlength]

/-- The point stands after the digits, with zeros between them and one behind. -/
theorem surrounds_append_zeros (hds : IsDigits ds) (hzero : ds.head? ≠ some '0') (n : Nat) :
    Surrounds (ds ++ zeros n) ['0'] ds n where
  before := hds.append fun _ => isDigit_of_mem_zeros
  noZero := Or.inr (by rwa [List.head?_append_of_ne_nil _ hds.ne_nil])
  after := isDigits_toDigits 0
  value := by
    have hvalue : ofDigits (ds ++ zeros n ++ ['0']) = ofDigits ds * Nat.pow 10 (n + 1) := by
      rw [← ofDigits_append_zeros, zeros, zeros, List.replicate_succ', List.append_assoc]
    have hpow : ((Nat.pow 10 (n + 1) : Nat) : ℚ) = 10 ^ (n + 1) := Nat.cast_pow 10 (n + 1)
    rw [hvalue, Nat.cast_mul, hpow, zpow_natCast, List.length_singleton]
    norm_num
    ring

/-- The point stands between the digits. -/
theorem surrounds_take_drop (hds : IsDigits ds) (hzero : ds.head? ≠ some '0') {n : Nat} (hn : 0 < n)
    (hlt : n < ds.length) : Surrounds (ds.take n) (ds.drop n) ds (n - ds.length) where
  before := ⟨by simp [hds.ne_nil]; omega, fun c hc => hds.digits c (List.mem_of_mem_take hc)⟩
  noZero := Or.inr (by rwa [List.head?_take, if_neg hn.ne'])
  after := ⟨by simp; omega, fun c hc => hds.digits c (List.mem_of_mem_drop hc)⟩
  value := by
    have hlength : -((ds.drop n).length : Int) = n - ds.length := by
      rw [List.length_drop]
      omega
    rw [List.take_append_drop, hlength]

/-- **Digits that are written around a point keep their value.** -/
theorem surrounds_positional (hds : IsDigits ds) (hzero : ds.head? ≠ some '0') (point : Int) :
    Surrounds (positional ds point).1
      (if (positional ds point).2.isEmpty then ['0'] else (positional ds point).2) ds
      (point - ds.length) := by
  have hkeep {cs : List Char} (h : IsDigits cs) : (if cs.isEmpty then ['0'] else cs) = cs :=
    if_neg (by simp [h.ne_nil])
  unfold positional
  split
  · obtain ⟨n, hn⟩ := Int.eq_ofNat_of_zero_le (show 0 ≤ -point by omega)
    obtain rfl : point = -(n : Int) := by omega
    have h := surrounds_zeros_append hds n
    simp only [neg_neg, Int.toNat_natCast, hkeep h.after]
    exact h
  · split
    · obtain ⟨n, hn⟩ := Int.eq_ofNat_of_zero_le (show 0 ≤ point - ds.length by omega)
      rw [hn]
      exact surrounds_append_zeros hds hzero n
    · obtain ⟨n, rfl⟩ := Int.eq_ofNat_of_zero_le (show 0 ≤ point by omega)
      have h := surrounds_take_drop hds hzero (n := n) (by omega) (by omega)
      simp only [Int.toNat_natCast, hkeep h.after]
      exact h

/-! ## Shortest digits -/

/-- The parts of digits that are written around a point. -/
def positionalParts (negative : Bool) (ds : List Char) (point : Int) : NumberText :=
  let (whole, fraction) := positional ds point
  ⟨negative, whole, '.' :: (if fraction.isEmpty then ['0'] else fraction), []⟩

/-- The parts of digits that are written with an exponent, all but the first behind a point. -/
def scientificParts (negative : Bool) (ds : List Char) (point : Int) : NumberText :=
  ⟨negative, ds.take 1, if ds.length = 1 then [] else '.' :: ds.drop 1,
    Decimal.exponentText 'e' (point - 1)⟩

/-- The parts of a decimal's text. -/
def shortestParts (negative : Bool) (d : Decimal) : NumberText :=
  let ds := Nat.toDigits 10 d.trimmed.digits
  let point := d.trimmed.exponent + ds.length
  if -4 < point ∧ point ≤ 16 then positionalParts negative ds point
  else scientificParts negative ds point

theorem chars_shortestParts (negative : Bool) (d : Decimal) :
    (shortestParts negative d).chars = (if negative then ['-'] else []) ++ d.shortestText := by
  unfold shortestParts shortestText
  simp only
  split
  · simp [NumberText.chars, positionalParts]
  · obtain ⟨c, rest, hds⟩ := List.exists_cons_of_ne_nil (isDigits_toDigits d.trimmed.digits).ne_nil
    rw [hds]
    cases rest <;> simp [NumberText.chars, scientificParts]

/-- The parts are a number's, they end with a fraction or an exponent, and they stand for the digits
and their power of ten. -/
structure NumberText.Spells (n : NumberText) (ds : List Char) (power : Int) : Prop where
  regular : n.Regular
  notInteger : n.fraction ≠ [] ∨ n.exponent ≠ []
  value : (n.digits : ℚ) * 10 ^ n.power = ofDigits ds * 10 ^ power

theorem spells_positionalParts (negative : Bool) (hds : IsDigits ds) (hzero : ds.head? ≠ some '0')
    (point : Int) : (positionalParts negative ds point).Spells ds (point - ds.length) := by
  have h := surrounds_positional hds hzero point
  refine ⟨⟨h.before, h.noZero, Or.inr ⟨_, h.after, rfl⟩, Or.inl rfl⟩,
    Or.inl (by simp [positionalParts]), ?_⟩
  rw [← h.value]
  simp [NumberText.digits, NumberText.power, positionalParts, Double.exponentPart]

theorem spells_scientificParts (negative : Bool) (hds : IsDigits ds) (hzero : ds.head? ≠ some '0')
    (point : Int) : (scientificParts negative ds point).Spells ds (point - ds.length) := by
  obtain ⟨c, rest, rfl⟩ := List.exists_cons_of_ne_nil hds.ne_nil
  have hdigits := List.forall_mem_cons.mp hds.digits
  have hplaces : (scientificParts negative (c :: rest) point).fraction.drop 1 = rest := by
    cases rest <;> rfl
  have hexponent : (scientificParts negative (c :: rest) point).exponent =
      Decimal.exponentText 'e' (point - 1) := rfl
  refine ⟨⟨⟨by simp [scientificParts], by simp [scientificParts, hdigits.1]⟩, Or.inr hzero, ?_,
    Or.inr ⟨_, _, ?_, isDigits_exponentDigits _, exponentText_eq _⟩⟩,
    Or.inr (by simp [hexponent, exponentText_eq]), ?_⟩
  · cases rest with
    | nil => exact Or.inl rfl
    | cons c' rest => exact Or.inr ⟨_, ⟨by simp, hdigits.2⟩, rfl⟩
  · split
    · exact Or.inr rfl
    · exact Or.inl rfl
  · have hpower : point - 1 - rest.length = point - (c :: rest).length := by
      rw [List.length_cons]
      omega
    simp only [NumberText.digits, NumberText.power, hplaces, hexponent, exponentPart_exponentText,
      hpower]
    rfl

/-- **The shortest text of a positive decimal stands for the decimal.** -/
theorem spells_shortestParts (negative : Bool) {d : Decimal} (hd : 0 < d.trimmed.digits) :
    (shortestParts negative d).Spells (Nat.toDigits 10 d.trimmed.digits) d.trimmed.exponent := by
  have hds := isDigits_toDigits d.trimmed.digits
  have hzero : (Nat.toDigits 10 d.trimmed.digits).head? ≠ some '0' := by
    obtain ⟨c, ds, hcs⟩ := List.exists_cons_of_ne_nil hds.ne_nil
    rw [hcs]
    rintro hhead
    exact toDigits_head_ne_zero hd ds (Option.some.inj hhead ▸ hcs)
  unfold shortestParts
  simp only
  split
  · have h := spells_positionalParts negative hds hzero
      (d.trimmed.exponent + (Nat.toDigits 10 d.trimmed.digits).length)
    rwa [add_sub_cancel_right] at h
  · have h := spells_scientificParts negative hds hzero
      (d.trimmed.exponent + (Nat.toDigits 10 d.trimmed.digits).length)
    rwa [add_sub_cancel_right] at h

/-! ## Binary numbers -/

/-- The text of a finite number. -/
def finiteParts (negative : Bool) (m : Nat) (e : Int) : NumberText :=
  if m = 0 then ⟨negative, ['0'], ['.', '0'], []⟩ else shortestParts negative (shortest m e)

theorem chars_finiteParts (negative : Bool) (m : Nat) (e : Int) :
    (finiteParts negative m e).chars = (Double.finite negative m e).text.toList := by
  unfold finiteParts Double.text
  rw [String.toList_ofList]
  split
  · simp [NumberText.chars]
  · rw [chars_shortestParts]

theorem value_pos_iff (d : Decimal) : 0 < d.value ↔ 0 < d.digits := by
  unfold Decimal.value
  rw [mul_pos_iff_of_pos_right (by positivity), Nat.cast_pos]

/-- **The text of a finite number stands for the number.** -/
theorem token_finiteParts (negative : Bool) {m : Nat} {e : Int} (h : Double.Fits m e) :
    (finiteParts negative m e).Regular ∧
      (finiteParts negative m e).token = .word (.float (.finite negative m e)) := by
  unfold finiteParts
  split
  · rename_i hm
    obtain rfl := h.normal.resolve_left (by rw [hm]; decide)
    refine ⟨⟨isDigits_toDigits 0, Or.inl rfl, Or.inr ⟨_, isDigits_toDigits 0, rfl⟩, Or.inl rfl⟩, ?_⟩
    rw [hm]
    rfl
  · rename_i hm
    have hpos : 0 < m := Nat.pos_of_ne_zero hm
    have hnears := nears_shortest h hpos
    have hdigits : 0 < (shortest m e).trimmed.digits := by
      rw [← value_pos_iff, value_trimmed]
      exact (zpow_pos (by norm_num) _).trans_le (hnears.bounds h hpos).1
    have hspells := spells_shortestParts negative hdigits
    have hvalue := hspells.value
    rw [ofDigits_toDigits] at hvalue
    have hnegative : (shortestParts negative (shortest m e)).negative = negative := by
      unfold shortestParts
      simp only
      split <;> rfl
    refine ⟨hspells.regular, ?_⟩
    have htrimmed : Double.Nears m e (shortest m e).trimmed.value :=
      (value_trimmed (shortest m e)).symm ▸ hnears
    rw [NumberText.token_eq hspells.notInteger, Double.ofScientific_eq h hpos, hnegative]
    rw [hvalue]
    exact htrimmed

end HealthAlert.Json
