import HealthAlert.Json.Surrogates
import HealthAlert.Proofs.Json.LineEnds
import HealthAlert.Proofs.Json.Spelling

/-!
# Texts without lone surrogates

A text is `Whole` when every surrogate that it spells has its other half. Nothing is replaced in
such a text before it is read, and no character of its value stands for anything else.

Escapes cut a text into parts (`Scanned`), and no control character is part of an escape. So line
ends make no difference to the surrogates that a text spells.

* `openText_of_whole`: a whole text is read as it stands.
* `scanned`: every text is cut into parts.
* **`lonesFrom_unifyLineEnds`**, `whole_unifyLineEnds`: line ends leave the lone surrogates.
-/

namespace HealthAlert

namespace Json

open Text (unifyLineEnds isHighSurrogate isLowSurrogate isSurrogate)

/-- Every surrogate that the text spells has its other half. -/
def Whole (cs : List Char) : Prop :=
  loneCodes (pointsOf cs) = []

instance (cs : List Char) : Decidable (Whole cs) :=
  inferInstanceAs (Decidable (loneCodes (pointsOf cs) = []))

variable {cs front rest : List Char} {code : Nat}

theorem settle_of_whole (h : Whole cs) : settle (pointsOf cs) = cs := by
  unfold settle
  rw [h]
  simp [pointsOf, Function.comp_def, Char.ofNat_toNat]

theorem standIns_of_whole (h : Whole cs) : standIns (pointsOf cs) = [] := by
  unfold standIns
  rw [h]

/-- **A whole text is read as it stands**, and no character of its value is a stand-in. -/
theorem openText_of_whole (h : Whole cs) : openText cs = (read cs).map (⟨·, []⟩) := by
  rw [openText, settle_of_whole h, standIns_of_whole h]

/-! ## Escapes -/

/-- The characters spell a code behind a backslash, whatever follows, and none of them is a control
character. -/
structure Escape (front : List Char) (code : Nat) : Prop where
  length : front.length = 5
  plain : ∀ c ∈ front, 0x20 ≤ c.toNat
  spells : ∀ rest, escapedCode? (pointsOf (front ++ rest)) = some code

theorem le_toNat_of_hexValue? {c : Char} {n : Nat} (h : hexValue? c = some n) :
    0x20 ≤ c.toNat := by
  unfold hexValue? at h
  split at h
  · rename_i hc
    exact Nat.le_trans (by decide) (Char.le_def.mp hc.1)
  · split at h
    · rename_i hc
      exact Nat.le_trans (by decide) (Char.le_def.mp hc.1)
    · split at h
      · rename_i hc
        exact Nat.le_trans (by decide) (Char.le_def.mp hc.1)
      · exact absurd h (by simp)

/-- An escape stands in front. -/
theorem exists_escape (h : escapedCode? (pointsOf cs) = some code) :
    ∃ front rest, cs = front ++ rest ∧ Escape front code := by
  match cs, h with
  | u :: a :: b :: c :: d :: rest, h =>
    have hsome := h
    simp only [pointsOf, List.map_cons, escapedCode?, Char.ofNat_toNat] at hsome
    split at hsome
    · rename_i hu
      refine ⟨[u, a, b, c, d], rest, rfl, rfl, ?_, fun rest' => ?_⟩
      · unfold hexCode? at hsome
        split at hsome
        · rename_i ha hb hc hd
          simp only [List.forall_mem_cons, List.not_mem_nil, false_imp_iff, implies_true, and_true]
          exact ⟨by rw [hu]; decide, le_toNat_of_hexValue? ha, le_toNat_of_hexValue? hb,
            le_toNat_of_hexValue? hc, le_toNat_of_hexValue? hd⟩
        · exact absurd hsome (by simp)
      · simp only [List.cons_append, List.nil_append, pointsOf, List.map_cons, escapedCode?,
          Char.ofNat_toNat]
        rw [if_pos hu, hsome]
    · exact absurd hsome (by simp)

/-- No line end stands in an escape. -/
theorem Escape.unify (h : Escape front code) (rest : List Char) :
    unifyLineEnds (front ++ rest) = front ++ unifyLineEnds rest :=
  Text.unifyLineEnds_append (fun c hc => Text.ne_return_of_le (h.plain c hc)) rest

theorem escapedCode?_unifyLineEnds (cs : List Char) :
    escapedCode? (pointsOf (unifyLineEnds cs)) = escapedCode? (pointsOf cs) := by
  cases h : escapedCode? (pointsOf cs) with
  | some code =>
    obtain ⟨front, rest, rfl, hescape⟩ := exists_escape h
    rw [hescape.unify]
    exact hescape.spells _
  | none =>
    cases h' : escapedCode? (pointsOf (unifyLineEnds cs)) with
    | none => rfl
    | some code =>
      obtain ⟨front, rest, hcs, hescape⟩ := exists_escape h'
      obtain ⟨after, rfl⟩ := Text.exists_eq_append_of_unifyLineEnds hescape.plain hcs
      rw [hescape.spells] at h
      exact absurd h (by simp)

theorem toNat_ne_backslash {c : Char} (h : c ≠ '\\') : c.toNat ≠ '\\'.toNat :=
  fun hc => h (Char.toNat_inj.mp hc)

theorem startsLow_unifyLineEnds (cs : List Char) :
    startsLow (pointsOf (unifyLineEnds cs)) = startsLow (pointsOf cs) := by
  cases cs with
  | nil => rfl
  | cons c rest =>
    by_cases hc : c = '\r'
    · subst hc
      rw [Text.unifyLineEnds_return]
      rfl
    · rw [Text.unifyLineEnds_cons hc]
      simp only [pointsOf, List.map_cons, startsLow]
      rw [show List.map Char.toNat (unifyLineEnds rest) = pointsOf (unifyLineEnds rest) from rfl,
        escapedCode?_unifyLineEnds]
      rfl

/-- The escape of a second half stands in front. -/
theorem exists_escape_of_startsLow (h : startsLow (pointsOf cs) = true) :
    ∃ front rest code, cs = '\\' :: (front ++ rest) ∧ Escape front code ∧
      isLowSurrogate code = true := by
  cases cs with
  | nil => exact absurd h (by simp [pointsOf, startsLow])
  | cons c rest =>
    simp only [pointsOf, List.map_cons, startsLow, Bool.and_eq_true, beq_iff_eq] at h
    obtain ⟨hc, hany⟩ := h
    obtain ⟨code, hcode, hlow⟩ := Option.any_eq_true .. |>.mp hany
    have hcode : escapedCode? (pointsOf rest) = some code := hcode
    obtain ⟨front, after, rfl, hescape⟩ := exists_escape hcode
    exact ⟨front, after, code, by rw [Char.toNat_inj.mp hc], hescape, hlow⟩

theorem Escape.startsLow (h : Escape front code) (hlow : isLowSurrogate code = true)
    (rest : List Char) : Json.startsLow (pointsOf ('\\' :: (front ++ rest))) = true := by
  show ('\\'.toNat == '\\'.toNat &&
    (escapedCode? (pointsOf (front ++ rest))).any isLowSurrogate) = true
  rw [h.spells, Option.any_some, hlow]
  rfl

theorem drop_pointsOf (n : Nat) (cs : List Char) : (pointsOf cs).drop n = pointsOf (cs.drop n) :=
  List.map_drop.symm

theorem Escape.drop (h : Escape front code) (rest : List Char) :
    (pointsOf (front ++ rest)).drop 5 = pointsOf rest := by
  rw [drop_pointsOf, ← h.length, List.drop_left]

/-! ## The parts of a text -/

/-- A text is cut by escapes into parts, among which are pairs of escapes for one character. -/
inductive Scanned : List Char → Prop where
  | nil : Scanned []
  | char {c : Char} {rest : List Char} (h : c ≠ '\\') (hrest : Scanned rest) : Scanned (c :: rest)
  | last : Scanned ['\\']
  /-- A character is escaped by itself. -/
  | short {c : Char} {rest : List Char} (h : escapedCode? (pointsOf (c :: rest)) = none)
    (hrest : Scanned rest) : Scanned ('\\' :: c :: rest)
  | code {front rest : List Char} {code : Nat} (h : Escape front code)
    (hpair : (isHighSurrogate code && startsLow (pointsOf rest)) = false)
    (hrest : Scanned rest) : Scanned ('\\' :: (front ++ rest))
  | pair {front front' rest : List Char} {high low : Nat} (h : Escape front high)
    (hhigh : isHighSurrogate high = true) (h' : Escape front' low)
    (hlow : isLowSurrogate low = true) (hrest : Scanned rest) :
    Scanned ('\\' :: (front ++ '\\' :: (front' ++ rest)))

/-- Every text is cut so. -/
theorem scanned (cs : List Char) : Scanned cs := by
  -- By induction on the length: an escape is left behind as a whole.
  induction hn : cs.length using Nat.strongRecOn generalizing cs with
  | ind n ih =>
    subst hn
    cases cs with
    | nil => exact .nil
    | cons c rest =>
      by_cases hc : c = '\\'
      · subst hc
        cases hcode : escapedCode? (pointsOf rest) with
        | none =>
          cases rest with
          | nil => exact .last
          | cons c rest =>
            exact .short hcode (ih rest.length (by simp only [List.length_cons]; omega) rest rfl)
        | some code =>
          obtain ⟨front, after, rfl, hescape⟩ := exists_escape hcode
          cases hpair : isHighSurrogate code && startsLow (pointsOf after) with
          | false =>
            refine .code hescape hpair (ih after.length ?_ after rfl)
            simp only [List.length_cons, List.length_append]
            omega
          | true =>
            obtain ⟨hhigh, hstarts⟩ := Bool.and_eq_true_iff.mp hpair
            obtain ⟨front', last, low, rfl, hescape', hlow⟩ := exists_escape_of_startsLow hstarts
            refine .pair hescape hhigh hescape' hlow (ih last.length ?_ last rfl)
            simp only [List.length_cons, List.length_append]
            omega
      · exact .char hc (ih rest.length (Nat.lt_succ_self _) rest rfl)

/-! ## Lone surrogates by themselves -/

/-- The surrogates without their other halves, in order, behind code points that are skipped. -/
def lonesFrom (skip : Nat) : List Nat → List Nat
  | [] => []
  | n :: rest =>
    if 0 < skip then lonesFrom (skip - 1) rest
    else if n = '\\'.toNat then
      match escapedCode? rest with
      | none => lonesFrom 1 rest
      | some code =>
        if isHighSurrogate code && startsLow (rest.drop 5) then lonesFrom 11 rest
        else if isSurrogate code then code :: lonesFrom 5 rest
        else lonesFrom 5 rest
    else if isSurrogate n then n :: lonesFrom 0 rest
    else lonesFrom 0 rest

theorem filterMap_partsFrom (found : List Part) (skip : Nat) (shown : Bool) (points : List Nat) :
    (partsFrom found skip shown points).filterMap Part.lone? =
      found.reverse.filterMap Part.lone? ++ lonesFrom skip points := by
  induction points generalizing found skip shown with
  | nil => simp [partsFrom, lonesFrom]
  | cons n rest ih =>
    rw [partsFrom, lonesFrom]
    by_cases hskip : 0 < skip
    · rw [if_pos hskip, if_pos hskip, ih]
      cases shown <;> simp [Part.lone?]
    · rw [if_neg hskip, if_neg hskip]
      split
      · cases escapedCode? rest with
        | none => simp [ih, Part.lone?]
        | some code =>
          dsimp only
          split
          · simp [ih, Part.lone?]
          · split <;> simp [ih, Part.lone?]
      · split <;> simp [ih, Part.lone?]

theorem loneCodes_eq (points : List Nat) : loneCodes points = (lonesFrom 0 points).eraseDups := by
  rw [loneCodes, parts, filterMap_partsFrom, List.reverse_nil, List.filterMap_nil, List.nil_append]

theorem eraseDups_eq_nil_iff {l : List Nat} : l.eraseDups = [] ↔ l = [] := by
  cases l with
  | nil => simp
  | cons a l => simp [List.eraseDups_cons]

theorem whole_iff : Whole cs ↔ lonesFrom 0 (pointsOf cs) = [] := by
  rw [Whole, loneCodes_eq, eraseDups_eq_nil_iff]

theorem lonesFrom_eq_drop (skip : Nat) (points : List Nat) :
    lonesFrom skip points = lonesFrom 0 (points.drop skip) := by
  induction points generalizing skip with
  | nil => rw [List.drop_nil, lonesFrom, lonesFrom]
  | cons n rest ih =>
    cases skip with
    | zero => rfl
    | succ skip =>
      rw [lonesFrom, if_pos (Nat.succ_pos skip), Nat.add_sub_cancel, ih, List.drop_succ_cons]

section Parts

variable {c : Char}

/-- Behind a character that starts no escape. -/
theorem lonesFrom_cons (h : c ≠ '\\') (rest : List Char) :
    lonesFrom 0 (pointsOf (c :: rest)) = lonesFrom 0 (pointsOf rest) := by
  rw [pointsOf, List.map_cons, lonesFrom, if_neg (Nat.lt_irrefl 0), if_neg (toNat_ne_backslash h),
    isSurrogate_toNat]
  rfl

theorem lonesFrom_backslash (rest : List Char) :
    lonesFrom 0 (pointsOf ('\\' :: rest)) =
      match escapedCode? (pointsOf rest) with
      | none => lonesFrom 0 ((pointsOf rest).drop 1)
      | some code =>
        if isHighSurrogate code && startsLow ((pointsOf rest).drop 5) then
          lonesFrom 0 ((pointsOf rest).drop 11)
        else if isSurrogate code then code :: lonesFrom 0 ((pointsOf rest).drop 5)
        else lonesFrom 0 ((pointsOf rest).drop 5) := by
  have hbackslash : lonesFrom 0 (pointsOf ('\\' :: rest)) =
      lonesFrom 0 ('\\'.toNat :: pointsOf rest) := rfl
  rw [hbackslash, lonesFrom, if_neg (Nat.lt_irrefl 0), if_pos rfl, lonesFrom_eq_drop 1,
    lonesFrom_eq_drop 5, lonesFrom_eq_drop 11]

theorem lonesFrom_short (h : escapedCode? (pointsOf (c :: rest)) = none) :
    lonesFrom 0 (pointsOf ('\\' :: c :: rest)) = lonesFrom 0 (pointsOf rest) := by
  rw [lonesFrom_backslash, h]
  rfl

theorem lonesFrom_code (h : Escape front code)
    (hpair : (isHighSurrogate code && startsLow (pointsOf rest)) = false) :
    lonesFrom 0 (pointsOf ('\\' :: (front ++ rest))) =
      if isSurrogate code then code :: lonesFrom 0 (pointsOf rest)
      else lonesFrom 0 (pointsOf rest) := by
  rw [lonesFrom_backslash, h.spells]
  dsimp only
  rw [h.drop, hpair, if_neg Bool.false_ne_true]

theorem lonesFrom_pair {front' : List Char} {high low : Nat} (h : Escape front high)
    (hhigh : isHighSurrogate high = true) (h' : Escape front' low)
    (hlow : isLowSurrogate low = true) :
    lonesFrom 0 (pointsOf ('\\' :: (front ++ '\\' :: (front' ++ rest)))) =
      lonesFrom 0 (pointsOf rest) := by
  have hlength : (front ++ '\\' :: front').length = 11 := by
    simp only [List.length_append, List.length_cons, h.length, h'.length]
  have hdrop : (front ++ '\\' :: (front' ++ rest)).drop 11 = rest := by
    rw [← List.cons_append, ← List.append_assoc, ← hlength, List.drop_left]
  rw [lonesFrom_backslash, h.spells]
  dsimp only
  rw [h.drop, hhigh, h'.startsLow hlow, Bool.and_self, if_pos rfl, drop_pointsOf, hdrop]

end Parts

/-- A text without backslashes spells no surrogate. -/
theorem whole_of_ne_backslash (h : ∀ c ∈ cs, c ≠ '\\') : Whole cs := by
  rw [whole_iff]
  induction cs with
  | nil => rfl
  | cons c rest ih =>
    rw [List.forall_mem_cons] at h
    rw [lonesFrom_cons h.1, ih h.2]

/-! ## Line ends -/

theorem lonesFrom_afterReturn (rest : List Char) :
    lonesFrom 0 (pointsOf (unifyLineEnds (Text.afterReturn rest))) =
      lonesFrom 0 (pointsOf (unifyLineEnds rest)) := by
  rcases Text.unifyLineEnds_afterReturn rest with h | h
  · rw [h]
  · rw [h, lonesFrom_cons (by decide)]

/-- **No escape reaches over a line end**, so the lone surrogates stay. -/
theorem lonesFrom_unifyLineEnds (cs : List Char) :
    lonesFrom 0 (pointsOf (unifyLineEnds cs)) = lonesFrom 0 (pointsOf cs) := by
  induction scanned cs with
  | nil => rfl
  | last => rfl
  | @char c rest hc _ ih =>
    by_cases hr : c = '\r'
    · subst hr
      rw [Text.unifyLineEnds_return, lonesFrom_cons (by decide), lonesFrom_cons (by decide),
        lonesFrom_afterReturn, ih]
    · rw [Text.unifyLineEnds_cons hr, lonesFrom_cons hc, lonesFrom_cons hc, ih]
  | @short c rest hnone _ ih =>
    have hunified := escapedCode?_unifyLineEnds (c :: rest)
    rw [Text.unifyLineEnds_cons (by decide)]
    by_cases hr : c = '\r'
    · subst hr
      rw [Text.unifyLineEnds_return] at hunified ⊢
      rw [lonesFrom_short (hunified.trans hnone), lonesFrom_short hnone,
        lonesFrom_afterReturn, ih]
    · rw [Text.unifyLineEnds_cons hr] at hunified ⊢
      rw [lonesFrom_short (hunified.trans hnone), lonesFrom_short hnone, ih]
  | @code front rest code h hpair _ ih =>
    rw [Text.unifyLineEnds_cons (by decide), h.unify, lonesFrom_code h hpair,
      lonesFrom_code h (by rw [startsLow_unifyLineEnds, hpair]), ih]
  | @pair front front' rest high low h hhigh h' hlow _ ih =>
    rw [Text.unifyLineEnds_cons (by decide), h.unify, Text.unifyLineEnds_cons (by decide), h'.unify,
      lonesFrom_pair h hhigh h' hlow, lonesFrom_pair h hhigh h' hlow, ih]

theorem whole_unifyLineEnds : Whole (unifyLineEnds cs) ↔ Whole cs := by
  rw [whole_iff, whole_iff, lonesFrom_unifyLineEnds]

end Json

end HealthAlert
