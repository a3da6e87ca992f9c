import HealthAlert.Json.Writer
import HealthAlert.Proofs.Decimal.Digits
import HealthAlert.Proofs.Json.Cutting

/-!
# How texts and numbers are written

A text that is written between quotes, with or without the escapes that keep it in ASCII, is cut
back into one token that is the text (`tokenAt_writeText`), and the text of a number into one token
(`wordToken_chars`), which for the digits of an integer is the integer (`token_integerText`).

* `spells_writeChar`, `joinCodes_charCodes`: the codes that stand for a character, and back.
* `NumberText.Regular`: the form of a number's parts.
* `Delimited`: what may follow a number.
-/

namespace HealthAlert.Json

open Decimal (IsDigits isDigits_toDigits ofDigits_toDigits)
open Text (isHighSurrogate isLowSurrogate isSurrogate)

/-! ## Texts -/

/-- The codes that stand for a character when it is written. -/
def charCodes (asciiOnly : Bool) (c : Char) : List Nat :=
  if asciiOnly && decide (0x10000 ≤ c.toNat) then
    [0xD800 + (c.toNat - 0x10000) / 0x400, 0xDC00 + (c.toNat - 0x10000) % 0x400]
  else [c.toNat]

theorem hexValue?_digitChar : ∀ d < 16, hexValue? (Nat.digitChar d) = some d := by decide

/-- Four hexadecimal digits stand for the code that they are written for. -/
theorem spells_escapedCode {n : Nat} (h : n < 0x10000) : Spells (escapedCode n) [n] := by
  have hdigits : Text.hexDigits 4 n = [Nat.digitChar (n / 4096 % 16), Nat.digitChar (n / 256 % 16),
      Nat.digitChar (n / 16 % 16), Nat.digitChar (n / 1 % 16)] := rfl
  rw [escapedCode, hdigits]
  refine .code ?_ .nil
  unfold hexCode?
  simp only [hexValue?_digitChar _ (Nat.mod_lt _ (by decide : 0 < 16)), Option.some.injEq]
  omega

theorem toNat_lt (c : Char) : c.toNat < 0x110000 := by
  have h := c.valid
  simp only [UInt32.isValidChar, Nat.isValidChar] at h
  show c.val.toNat < 0x110000
  omega

/-- A character is no half of another. -/
theorem toNat_not_surrogate (c : Char) : c.toNat < 0xD800 ∨ 0xE000 ≤ c.toNat := by
  have h := c.valid
  simp only [UInt32.isValidChar, Nat.isValidChar] at h
  show c.val.toNat < 0xD800 ∨ 0xE000 ≤ c.val.toNat
  omega

theorem spells_escapedChar (c : Char) : Spells (escapedChar c) (charCodes true c) := by
  have hc := toNat_lt c
  unfold escapedChar charCodes
  by_cases h : c.toNat < 0x10000
  · rw [if_pos h, if_neg (by simp; omega)]
    exact spells_escapedCode h
  · rw [if_neg h, if_pos (by simp; omega)]
    exact (spells_escapedCode (by omega)).append (spells_escapedCode (by omega))

theorem charCodes_of_lt {asciiOnly : Bool} {c : Char} (h : c.toNat < 0x10000) :
    charCodes asciiOnly c = [c.toNat] :=
  if_neg (by simp; omega)

/-- **A character that is written stands for its codes.** -/
theorem spells_writeChar (asciiOnly : Bool) (c : Char) :
    Spells (writeChar asciiOnly c) (charCodes asciiOnly c) := by
  unfold writeChar
  by_cases hq : c = '"'
  · rw [if_pos (by simpa using hq), hq, charCodes_of_lt (by decide)]
    exact .escape rfl .nil
  · rw [if_neg (by simpa using hq)]
    by_cases hb : c = '\\'
    · rw [if_pos (by simpa using hb), hb, charCodes_of_lt (by decide)]
      exact .escape rfl .nil
    · rw [if_neg (by simpa using hb)]
      -- The control characters that have a letter.
      iterate 5
        split
        · rename_i h
          rw [beq_iff_eq.mp h, charCodes_of_lt (by decide)]
          exact .escape rfl .nil
      split
      · rw [charCodes_of_lt (by omega)]
        exact spells_escapedCode (by omega)
      · rename_i hcontrol
        split
        · rename_i h
          rw [(Bool.and_eq_true_iff.mp h).1]
          exact spells_escapedChar c
        · rename_i h
          have hcodes : charCodes asciiOnly c = [c.toNat] := by
            refine if_neg fun hlong => h ?_
            simp only [Bool.and_eq_true, decide_eq_true_eq] at hlong ⊢
            exact ⟨hlong.1, Nat.le_trans (by decide) hlong.2⟩
          rw [hcodes]
          exact .plain hq hb hcontrol .nil

theorem spells_writeChars (asciiOnly : Bool) (cs : List Char) :
    Spells (cs.flatMap (writeChar asciiOnly)) (cs.flatMap (charCodes asciiOnly)) := by
  induction cs with
  | nil => exact .nil
  | cons c cs ih =>
    rw [List.flatMap_cons, List.flatMap_cons]
    exact (spells_writeChar asciiOnly c).append ih

theorem isSurrogate_toNat (c : Char) : isSurrogate c.toNat = false := by
  have h := toNat_not_surrogate c
  simp only [isSurrogate, isHighSurrogate, isLowSurrogate, Bool.or_eq_false_iff,
    Bool.and_eq_false_iff, decide_eq_false_iff_not]
  omega

theorem charOfCode_toNat (c : Char) : charOfCode c.toNat = c := by
  rw [charOfCode, isSurrogate_toNat, if_neg Bool.false_ne_true, Char.ofNat_toNat]

/-- The codes of the last character give the character. -/
theorem joinCodes_charCodes (asciiOnly : Bool) (c : Char) (read : List Char) (before : List Nat) :
    joinCodes read ((charCodes asciiOnly c).reverse ++ before) = joinCodes (c :: read) before := by
  unfold charCodes
  split
  · rename_i h
    simp only [Bool.and_eq_true, decide_eq_true_eq] at h
    have hc := toNat_lt c
    have hlow : isLowSurrogate (0xDC00 + (c.toNat - 0x10000) % 0x400) = true := by
      unfold isLowSurrogate
      simp only [Bool.and_eq_true, decide_eq_true_eq]
      omega
    have hhigh : isHighSurrogate (0xD800 + (c.toNat - 0x10000) / 0x400) = true := by
      unfold isHighSurrogate
      simp only [Bool.and_eq_true, decide_eq_true_eq]
      omega
    have hcode : 0x10000 + (0xD800 + (c.toNat - 0x10000) / 0x400 - 0xD800) * 0x400 +
        (0xDC00 + (c.toNat - 0x10000) % 0x400 - 0xDC00) = c.toNat := by omega
    simp only [List.reverse_cons, List.reverse_nil, List.nil_append, List.cons_append, joinCodes,
      hlow, hhigh, Bool.and_self, if_true, hcode, Char.ofNat_toNat]
  · have hlow : isLowSurrogate c.toNat = false := by
      have h := toNat_not_surrogate c
      unfold isLowSurrogate
      simp only [Bool.and_eq_false_iff, decide_eq_false_iff_not]
      omega
    rw [List.reverse_singleton, List.singleton_append]
    cases before with
    | nil => rw [joinCodes, joinCodes, charOfCode_toNat]
    | cons high rest => simp [joinCodes, hlow, charOfCode_toNat]

theorem joinCodes_flatMap (asciiOnly : Bool) (cs read : List Char) (before : List Nat) :
    joinCodes read ((cs.flatMap (charCodes asciiOnly)).reverse ++ before) =
      joinCodes (cs ++ read) before := by
  induction cs generalizing read before with
  | nil => rfl
  | cons c cs ih =>
    rw [List.flatMap_cons, List.reverse_append, List.append_assoc, ih, joinCodes_charCodes]
    rfl

/-- **A text that is written between quotes is one token, the text itself.** -/
theorem tokenAt_writeText (asciiOnly : Bool) (s : String) (pos : Nat) (rest : List Char) :
    ∃ body, writeText asciiOnly s = '"' :: (body ++ ['"']) ∧
      tokenAt pos '"' (body ++ '"' :: rest) = (.text s, body.length + 1) := by
  refine ⟨s.toList.flatMap (writeChar asciiOnly), rfl, ?_⟩
  have hcodes := joinCodes_flatMap asciiOnly s.toList [] []
  rw [List.append_nil, List.append_nil] at hcodes
  rw [tokenAt_of_spells (spells_writeChars asciiOnly s.toList), hcodes]
  show (Token.text (String.ofList s.toList), _) = _
  rw [String.ofList_toList]

/-! ## Numbers -/

/-- What may follow a number: nothing that could go on with it. -/
def Delimited (rest : List Char) : Prop :=
  ∀ c ∈ rest.head?, c.isDigit = false ∧ c ≠ '.' ∧ c ≠ 'e' ∧ c ≠ 'E'

/-- The parts of a number's text have the form in which they are read. -/
structure NumberText.Regular (n : NumberText) : Prop where
  whole : IsDigits n.whole
  noZero : n.whole = ['0'] ∨ n.whole.head? ≠ some '0'
  fraction : n.fraction = [] ∨ ∃ ds, IsDigits ds ∧ n.fraction = '.' :: ds
  exponent : n.exponent = [] ∨
    ∃ sign ds, (sign = '+' ∨ sign = '-') ∧ IsDigits ds ∧ n.exponent = 'e' :: sign :: ds

section Rest

variable {ds rest : List Char} {n : NumberText}

theorem takeWhile_digits (hds : ∀ c ∈ ds, c.isDigit = true)
    (h : ∀ c ∈ rest.head?, c.isDigit = false) : (ds ++ rest).takeWhile Char.isDigit = ds := by
  have hrest : rest.takeWhile Char.isDigit = [] := by
    cases rest with
    | nil => rfl
    | cons c rest => exact List.takeWhile_cons_of_neg (by simp [h c rfl])
  rw [List.takeWhile_append_of_pos hds, hrest, List.append_nil]

theorem wholeText_digits (hds : IsDigits ds) (hzero : ds = ['0'] ∨ ds.head? ≠ some '0')
    (h : ∀ c ∈ rest.head?, c.isDigit = false) : wholeText (ds ++ rest) = ds := by
  rcases hzero with rfl | hzero
  · rfl
  · rw [wholeText, takeWhile_digits hds.digits h]
    obtain ⟨d, ds, rfl⟩ := List.exists_cons_of_ne_nil hds.ne_nil
    rintro tail htail
    exact hzero (congrArg some (List.cons.inj htail).1)

theorem fractionText_of_ne (h : ∀ c ∈ rest.head?, c ≠ '.') : fractionText rest = [] := by
  cases rest with
  | nil => rfl
  | cons c rest => simp [fractionText, h c rfl]

theorem fractionText_digits (hds : IsDigits ds) (h : ∀ c ∈ rest.head?, c.isDigit = false) :
    fractionText ('.' :: ds ++ rest) = '.' :: ds := by
  obtain ⟨d, ds, rfl⟩ := List.exists_cons_of_ne_nil hds.ne_nil
  rw [List.cons_append, fractionText, takeWhile_digits hds.digits h]

theorem exponentText_of_delimited (h : Delimited rest) : exponentText rest = [] := by
  cases rest with
  | nil => rfl
  | cons c rest =>
    rw [exponentText_cons, if_neg (by simp [(h c rfl).2.2])]

theorem exponentText_digits (hds : IsDigits ds) {sign : Char} (hsign : sign = '+' ∨ sign = '-')
    (h : ∀ c ∈ rest.head?, c.isDigit = false) :
    exponentText ('e' :: sign :: ds ++ rest) = 'e' :: sign :: ds := by
  have hmark : exponentSign (sign :: (ds ++ rest)) = [sign] := by
    rcases hsign with rfl | rfl <;> rfl
  obtain ⟨d, ds, rfl⟩ := List.exists_cons_of_ne_nil hds.ne_nil
  rw [List.cons_append, List.cons_append, exponentText_cons, if_pos (by decide), hmark]
  simp only [List.length_singleton, List.drop_succ_cons, List.drop_zero,
    takeWhile_digits hds.digits h]
  rfl

/-- **The parts of a number are found again in its text.** -/
theorem unsignedText?_parts (hn : n.Regular) (h : Delimited rest) :
    unsignedText? n.negative (n.whole ++ (n.fraction ++ (n.exponent ++ rest))) = some n := by
  have hrest : ∀ c ∈ rest.head?, c.isDigit = false := fun c hc => (h c hc).1
  have hexponent : exponentText (n.exponent ++ rest) = n.exponent := by
    rcases hn.exponent with he | ⟨sign, ds, hsign, hds, he⟩
    · rw [he, List.nil_append, exponentText_of_delimited h]
    · rw [he, exponentText_digits hds hsign hrest]
  have hafter : ∀ c ∈ (n.exponent ++ rest).head?, c.isDigit = false ∧ c ≠ '.' := by
    rcases hn.exponent with he | ⟨sign, ds, -, -, he⟩
    · rw [he]
      exact fun c hc => ⟨(h c hc).1, (h c hc).2.1⟩
    · rw [he]
      simp
  have hfraction : fractionText (n.fraction ++ (n.exponent ++ rest)) = n.fraction := by
    rcases hn.fraction with hf | ⟨ds, hds, hf⟩
    · rw [hf, List.nil_append, fractionText_of_ne fun c hc => (hafter c hc).2]
    · rw [hf, fractionText_digits hds fun c hc => (hafter c hc).1]
  have hwhole : wholeText (n.whole ++ (n.fraction ++ (n.exponent ++ rest))) = n.whole := by
    refine wholeText_digits hn.whole hn.noZero ?_
    rcases hn.fraction with hf | ⟨ds, hds, hf⟩
    · rw [hf]
      exact fun c hc => (hafter c hc).1
    · rw [hf]
      simp
  unfold unsignedText?
  simp only [hwhole, List.drop_left, hfraction, hexponent, List.isEmpty_eq_false_iff.mpr
    hn.whole.ne_nil, Bool.false_eq_true, if_false]

/-- No word starts with a digit, or with a minus sign and a digit. -/
theorem word?_of_digit {sign : List Char} (hs : sign = [] ∨ sign = ['-']) {d : Char}
    (hd : d.isDigit = true) (rest : List Char) : word? (sign ++ d :: rest) = none := by
  have hne (x : Char) (hx : x.isDigit = false) : (x == d) = false := by
    refine beq_false_of_ne ?_
    rintro rfl
    exact absurd (hd.symm.trans hx) (by simp)
  rcases hs with rfl | rfl
  · simp [word?, words, List.isPrefixOf, hne 'n' rfl, hne 't' rfl, hne 'f' rfl, hne 'N' rfl,
      hne 'I' rfl, hne '-' rfl]
  · simp [word?, words, List.isPrefixOf, hne 'I' rfl]

/-- **The text of a number is one token.** -/
theorem wordToken_chars (hn : n.Regular) (h : Delimited rest) :
    wordToken (n.chars ++ rest) = (n.token, n.chars.length - 1) := by
  have hparts := unsignedText?_parts hn h
  obtain ⟨d, ds, hds⟩ : ∃ d ds, n.whole = d :: ds := List.exists_cons_of_ne_nil hn.whole.ne_nil
  have hd : d.isDigit = true := hn.whole.digits d (hds ▸ List.mem_cons_self)
  have hchars : n.chars ++ rest = (if n.negative then ['-'] else []) ++
      (n.whole ++ (n.fraction ++ (n.exponent ++ rest))) := by
    simp only [NumberText.chars, List.append_assoc]
  have hword : word? (n.chars ++ rest) = none := by
    rw [hchars, hds, List.cons_append]
    refine word?_of_digit ?_ hd _
    split
    · exact Or.inr rfl
    · exact Or.inl rfl
  have hnumber : numberText? (n.chars ++ rest) = some n := by
    rw [hchars]
    split
    · rename_i hneg
      rwa [List.singleton_append, numberText?_minus, ← hneg]
    · rename_i hneg
      rw [List.nil_append, numberText?_of_head]
      · rwa [eq_false_of_ne_true hneg] at hparts
      · rw [hds]
        rintro tail htail
        exact absurd hd (by rw [(List.cons.inj htail).1]; decide)
  unfold wordToken
  rw [hword, hnumber, NumberText.length_chars]

end Rest

/-! ## Integers -/

theorem toDigits_head_ne_zero {n : Nat} (h : 0 < n) :
    ∀ rest, Nat.toDigits 10 n ≠ '0' :: rest := by
  induction n using Nat.strongRecOn with
  | _ n ih =>
    intro rest hr
    by_cases hn : n < 10
    · rw [Nat.toDigits_of_lt_base hn] at hr
      have hzero : ∀ d < 10, Nat.digitChar d = '0' → d = 0 := by decide
      exact absurd (hzero n hn (List.cons.inj hr).1) (by omega)
    · rw [Nat.toDigits_of_base_le (by decide) (by omega)] at hr
      cases hd : Nat.toDigits 10 (n / 10) with
      | nil => exact Nat.toDigits_ne_nil hd
      | cons d ds =>
        rw [hd] at hr
        have hfirst : d = '0' := (List.cons.inj hr).1
        exact ih (n / 10) (by omega) (by omega) ds (hfirst ▸ hd)

/-- The parts of an integer's text. -/
def integerText (n : Int) : NumberText :=
  ⟨decide (n < 0), Nat.toDigits 10 n.natAbs, [], []⟩

theorem chars_integerText (n : Int) : (integerText n).chars = (toString n).toList := by
  rw [Decimal.toList_toString_int]
  simp [NumberText.chars, integerText]

theorem regular_integerText (n : Int) : (integerText n).Regular where
  whole := isDigits_toDigits _
  noZero := by
    rcases Nat.eq_zero_or_pos n.natAbs with hn | hn
    · left
      simp only [integerText, hn]
      rfl
    · right
      obtain ⟨d, ds, hds⟩ : ∃ d ds, Nat.toDigits 10 n.natAbs = d :: ds :=
        List.exists_cons_of_ne_nil Nat.toDigits_ne_nil
      rintro hhead
      simp only [integerText, hds, List.head?_cons, Option.some.injEq] at hhead
      exact toDigits_head_ne_zero hn ds (hhead ▸ hds)
  fraction := Or.inl rfl
  exponent := Or.inl rfl

/-- The token that an integer is written as: the integer itself, unless it has more digits than are
read. -/
def integerToken (n : Int) : Token :=
  let digits := (Nat.toDigits 10 n.natAbs).length
  if maxIntegerDigits < digits then .longInteger digits else .word (.int n)

/-- The number whose digits and sign are those of an integer is the integer. -/
theorem token_integerText (n : Int) : (integerText n).token = integerToken n := by
  have hvalue : (if decide (n < 0) = true then -(n.natAbs : Int) else n.natAbs) = n := by
    split
    · rename_i h
      have h := of_decide_eq_true h
      omega
    · rename_i h
      have h := of_decide_eq_false (Bool.not_eq_true _ ▸ h)
      omega
  unfold NumberText.token integerText integerToken
  simp only [List.isEmpty_nil, Bool.and_self, if_true, ofDigits_toDigits, hvalue]

end HealthAlert.Json
