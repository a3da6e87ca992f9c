import HealthAlert.Proofs.Json.Bytes
import HealthAlert.Proofs.Json.Printable

/-!
# Texts with lone surrogates

Before a text with lone surrogates is read, stand-ins take their places. This changes escapes alone,
so the text keeps its line ends and control characters. What is read therefore does not depend on
whether the text comes from a file, where every line end is a line feed, or from bytes.

* `settle_eq`: what is read in place of a text, part by part.
* `settled_unifyLineEnds`, `standIns_unifyLineEnds`: line ends make no difference.
* **`openText_unifyLineEnds_iff`**, **`readBytes_of_openText`**: all read the same.
-/

namespace HealthAlert

namespace Json

open Text (StandIns unifyLineEnds isHighSurrogate isLowSurrogate isSurrogate)

variable {lone : StandIns} {cs front rest : List Char} {c : Char} {code : Nat}

/-! ## Settled texts -/

/-- The escape of the stand-in for a surrogate. -/
def standInEscape (lone : StandIns) (code : Nat) : List Char :=
  escapedCode ((lone.char? code).getD (Char.ofNat 0xFFFD)).toNat

/-- The code points with stand-ins, behind code points of an escape that are skipped or shown. -/
def settledFrom (lone : StandIns) (skip : Nat) (shown : Bool) : List Nat → List Char
  | [] => []
  | n :: rest =>
    if 0 < skip then
      (if shown then [Char.ofNat n] else []) ++ settledFrom lone (skip - 1) shown rest
    else if n = '\\'.toNat then
      match escapedCode? rest with
      | none => Char.ofNat n :: settledFrom lone 1 true rest
      | some code =>
        if isHighSurrogate code && startsLow (rest.drop 5) then
          Char.ofNat n :: settledFrom lone 11 true rest
        else if isSurrogate code then standInEscape lone code ++ settledFrom lone 5 false rest
        else Char.ofNat n :: settledFrom lone 5 true rest
    else if isSurrogate n then
      (lone.char? n).getD (Char.ofNat 0xFFFD) :: settledFrom lone 0 true rest
    else Char.ofNat n :: settledFrom lone 0 true rest

/-- The text with stand-ins. -/
def settled (lone : StandIns) (cs : List Char) : List Char :=
  settledFrom lone 0 true (pointsOf cs)

@[simp] theorem Part.chars_kept (n : Nat) : (Part.kept n).chars lone = [Char.ofNat n] := rfl

@[simp] theorem Part.chars_escaped (n : Nat) :
    (Part.lone n true).chars lone = standInEscape lone n := rfl

@[simp] theorem Part.chars_plain (n : Nat) :
    (Part.lone n false).chars lone = [(lone.char? n).getD (Char.ofNat 0xFFFD)] := rfl

theorem flatMap_partsFrom (found : List Part) (skip : Nat) (shown : Bool) (points : List Nat) :
    (partsFrom found skip shown points).flatMap (·.chars lone) =
      found.reverse.flatMap (·.chars lone) ++ settledFrom lone skip shown points := by
  induction points generalizing found skip shown with
  | nil => simp [partsFrom, settledFrom]
  | cons n rest ih =>
    rw [partsFrom, settledFrom]
    by_cases hskip : 0 < skip
    · rw [if_pos hskip, if_pos hskip, ih]
      cases shown <;> simp
    · rw [if_neg hskip, if_neg hskip]
      split
      · cases escapedCode? rest with
        | none => simp [ih]
        | some code =>
          dsimp only
          split
          · simp [ih]
          · split <;> simp [ih]
      · split <;> simp [ih]

theorem settledFrom_shown (skip : Nat) (cs : List Char) :
    settledFrom lone skip true (pointsOf cs) = cs.take skip ++ settled lone (cs.drop skip) := by
  induction cs generalizing skip with
  | nil => simp [pointsOf, settledFrom, settled]
  | cons c rest ih =>
    cases skip with
    | zero => simp [settled]
    | succ skip =>
      rw [pointsOf, List.map_cons, settledFrom, if_pos (Nat.succ_pos skip), Nat.add_sub_cancel,
        if_pos rfl, Char.ofNat_toNat]
      exact congrArg (c :: ·) (ih skip)

theorem settledFrom_hidden (skip : Nat) (cs : List Char) :
    settledFrom lone skip false (pointsOf cs) = settled lone (cs.drop skip) := by
  induction cs generalizing skip with
  | nil => simp [pointsOf, settledFrom, settled]
  | cons c rest ih =>
    cases skip with
    | zero =>
      -- Whether skipped code points are shown makes no difference where none are.
      rw [settled, List.drop_zero, pointsOf, List.map_cons, settledFrom, settledFrom]
      rfl
    | succ skip =>
      rw [pointsOf, List.map_cons, settledFrom, if_pos (Nat.succ_pos skip), Nat.add_sub_cancel,
        if_neg Bool.false_ne_true]
      exact ih skip

/-! ### By the parts of the text -/

theorem settled_cons (h : c ≠ '\\') (rest : List Char) :
    settled lone (c :: rest) = c :: settled lone rest := by
  rw [settled, pointsOf, List.map_cons, settledFrom, if_neg (Nat.lt_irrefl 0),
    if_neg (toNat_ne_backslash h), isSurrogate_toNat, if_neg Bool.false_ne_true, Char.ofNat_toNat]
  rfl

theorem settled_backslash (rest : List Char) :
    settled lone ('\\' :: rest) =
      match escapedCode? (pointsOf rest) with
      | none => '\\' :: (rest.take 1 ++ settled lone (rest.drop 1))
      | some code =>
        if isHighSurrogate code && startsLow ((pointsOf rest).drop 5) then
          '\\' :: (rest.take 11 ++ settled lone (rest.drop 11))
        else if isSurrogate code then standInEscape lone code ++ settled lone (rest.drop 5)
        else '\\' :: (rest.take 5 ++ settled lone (rest.drop 5)) := by
  have hbackslash : settled lone ('\\' :: rest) =
      settledFrom lone 0 true ('\\'.toNat :: pointsOf rest) := rfl
  rw [hbackslash, settledFrom, if_neg (Nat.lt_irrefl 0), if_pos rfl, Char.ofNat_toNat,
    settledFrom_shown, settledFrom_shown, settledFrom_shown, settledFrom_hidden]

theorem settled_short (h : escapedCode? (pointsOf (c :: rest)) = none) :
    settled lone ('\\' :: c :: rest) = '\\' :: c :: settled lone rest := by
  rw [settled_backslash, h]
  rfl

theorem settled_code (h : Escape front code)
    (hpair : (isHighSurrogate code && startsLow (pointsOf rest)) = false) :
    settled lone ('\\' :: (front ++ rest)) =
      (if isSurrogate code then standInEscape lone code else '\\' :: front) ++
        settled lone rest := by
  have htake : (front ++ rest).take 5 = front := h.length ▸ List.take_left
  have hdrop : (front ++ rest).drop 5 = rest := h.length ▸ List.drop_left
  rw [settled_backslash, h.spells]
  dsimp only
  rw [h.drop, hpair, if_neg Bool.false_ne_true, htake, hdrop]
  split <;> rfl

theorem settled_pair {front' : List Char} {high low : Nat} (h : Escape front high)
    (hhigh : isHighSurrogate high = true) (h' : Escape front' low)
    (hlow : isLowSurrogate low = true) :
    settled lone ('\\' :: (front ++ '\\' :: (front' ++ rest))) =
      '\\' :: (front ++ '\\' :: (front' ++ settled lone rest)) := by
  have hlength : (front ++ '\\' :: front').length = 11 := by
    simp only [List.length_append, List.length_cons, h.length, h'.length]
  have hsplit : front ++ '\\' :: (front' ++ rest) = (front ++ '\\' :: front') ++ rest := by simp
  have htake : (front ++ '\\' :: (front' ++ rest)).take 11 = front ++ '\\' :: front' := by
    rw [hsplit, ← hlength, List.take_left]
  have hdrop : (front ++ '\\' :: (front' ++ rest)).drop 11 = rest := by
    rw [hsplit, ← hlength, List.drop_left]
  rw [settled_backslash, h.spells]
  dsimp only
  rw [h.drop, hhigh, h'.startsLow hlow, Bool.and_self, if_pos rfl, htake, hdrop]
  simp

/-- A text without lone surrogates stays. -/
theorem settled_of_whole (h : Whole cs) : settled lone cs = cs := by
  rw [whole_iff] at h
  induction scanned cs with
  | nil => rfl
  | last => rfl
  | char hc _ ih =>
    rw [lonesFrom_cons hc] at h
    rw [settled_cons hc, ih h]
  | short hnone _ ih =>
    rw [lonesFrom_short hnone] at h
    rw [settled_short hnone, ih h]
  | code hescape hpair _ ih =>
    rw [lonesFrom_code hescape hpair] at h
    rw [settled_code hescape hpair]
    split at h
    · exact absurd h (by simp)
    · rw [if_neg ‹_›, ih h]
      rfl
  | pair hescape hhigh hescape' hlow _ ih =>
    rw [lonesFrom_pair hescape hhigh hescape' hlow] at h
    rw [settled_pair hescape hhigh hescape' hlow, ih h]

/-- **What is read in place of a text.** -/
theorem settle_eq (cs : List Char) :
    settle (pointsOf cs) = settled (standIns (pointsOf cs)) cs := by
  by_cases h : Whole cs
  · rw [settle_of_whole h, settled_of_whole h]
  · unfold settle
    split
    · exact absurd ‹_› h
    · rw [parts, flatMap_partsFrom]
      rfl

/-! ## Line ends -/

theorem ne_return_of_mem_standInEscape (h : c ∈ standInEscape lone code) : c ≠ '\r' := by
  rintro rfl
  exact absurd (isPrintable_of_mem_escapedCode h) (by decide)

/-- A line feed in front is not put there. -/
theorem exists_of_settled_feed {after : List Char} (h : settled lone cs = '\n' :: after) :
    ∃ rest, cs = '\n' :: rest ∧ after = settled lone rest := by
  cases scanned cs with
  | nil => exact absurd h (by simp [settled, pointsOf, settledFrom])
  | last => exact absurd h (by rw [settled_backslash]; simp [pointsOf, escapedCode?])
  | char hc _ =>
    rw [settled_cons hc] at h
    obtain ⟨rfl, rfl⟩ := List.cons.inj h
    exact ⟨_, rfl, rfl⟩
  | short hnone _ =>
    rw [settled_short hnone] at h
    exact absurd (List.cons.inj h).1 (by decide)
  | code hescape hpair _ =>
    rw [settled_code hescape hpair] at h
    split at h <;> exact absurd (List.cons.inj h).1 (by decide)
  | pair hescape hhigh hescape' hlow _ =>
    rw [settled_pair hescape hhigh hescape' hlow] at h
    exact absurd (List.cons.inj h).1 (by decide)

theorem settled_unify_afterReturn
    (h : settled lone (unifyLineEnds rest) = unifyLineEnds (settled lone rest)) :
    settled lone (unifyLineEnds (Text.afterReturn rest)) =
      unifyLineEnds (Text.afterReturn (settled lone rest)) := by
  by_cases hfeed : ∃ after, rest = '\n' :: after
  · obtain ⟨after, rfl⟩ := hfeed
    rw [Text.unifyLineEnds_cons (by decide), settled_cons (by decide), settled_cons (by decide),
      Text.unifyLineEnds_cons (by decide)] at h
    rw [settled_cons (by decide)]
    exact (List.cons.inj h).2
  · have hsame (ds : List Char) (hds : ¬ ∃ after, ds = '\n' :: after) :
        Text.afterReturn ds = ds := by
      unfold Text.afterReturn
      split
      · exact absurd ⟨_, rfl⟩ hds
      · rfl
    rw [hsame rest hfeed, h, hsame]
    rintro ⟨after, hafter⟩
    obtain ⟨after, rfl, -⟩ := exists_of_settled_feed hafter
    exact hfeed ⟨after, rfl⟩

/-- **Line ends stay as they are**, since only escapes are replaced. -/
theorem settled_unifyLineEnds (lone : StandIns) (cs : List Char) :
    settled lone (unifyLineEnds cs) = unifyLineEnds (settled lone cs) := by
  induction scanned cs with
  | nil => rfl
  | last => rfl
  | @char c rest hc _ ih =>
    by_cases hr : c = '\r'
    · subst hr
      rw [Text.unifyLineEnds_return, settled_cons (by decide), settled_cons (by decide),
        Text.unifyLineEnds_return, settled_unify_afterReturn ih]
    · rw [Text.unifyLineEnds_cons hr, settled_cons hc, settled_cons hc, Text.unifyLineEnds_cons hr,
        ih]
  | @short c rest hnone _ ih =>
    have hunified := escapedCode?_unifyLineEnds (c :: rest)
    have hbackslash (ds : List Char) : unifyLineEnds ('\\' :: ds) = '\\' :: unifyLineEnds ds :=
      Text.unifyLineEnds_cons (by decide) ds
    rw [settled_short hnone, hbackslash, hbackslash]
    by_cases hr : c = '\r'
    · subst hr
      rw [Text.unifyLineEnds_return] at hunified ⊢
      rw [settled_short (hunified.trans hnone), Text.unifyLineEnds_return,
        settled_unify_afterReturn ih]
    · rw [Text.unifyLineEnds_cons hr] at hunified ⊢
      rw [settled_short (hunified.trans hnone), Text.unifyLineEnds_cons hr, ih]
  | @code front rest code h hpair _ ih =>
    rw [Text.unifyLineEnds_cons (by decide), h.unify, settled_code h hpair,
      settled_code h (by rw [startsLow_unifyLineEnds, hpair]), ih]
    split
    · rw [Text.unifyLineEnds_append fun c hc => ne_return_of_mem_standInEscape hc]
    · rw [List.cons_append, List.cons_append, Text.unifyLineEnds_cons (by decide), h.unify]
  | @pair front front' rest high low h hhigh h' hlow _ ih =>
    rw [Text.unifyLineEnds_cons (by decide), h.unify, Text.unifyLineEnds_cons (by decide), h'.unify,
      settled_pair h hhigh h' hlow, settled_pair h hhigh h' hlow, ih,
      Text.unifyLineEnds_cons (by decide), h.unify, Text.unifyLineEnds_cons (by decide), h'.unify]

/-! ## Stand-ins -/

theorem escapedCodesFrom_unifyLineEnds (found : List Nat) (cs : List Char) :
    escapedCodesFrom found (pointsOf (unifyLineEnds cs)) =
      escapedCodesFrom found (pointsOf cs) := by
  have hplain {c : Char} (h : c ≠ '\\') (found : List Nat) (rest : List Char) :
      escapedCodesFrom found (pointsOf (c :: rest)) = escapedCodesFrom found (pointsOf rest) := by
    rw [pointsOf, List.map_cons, escapedCodesFrom, if_neg (toNat_ne_backslash h)]
    rfl
  induction cs generalizing found with
  | nil => rfl
  | cons c rest ih =>
    by_cases hr : c = '\r'
    · subst hr
      rw [Text.unifyLineEnds_return, hplain (by decide), hplain (by decide), ← ih]
      rcases Text.unifyLineEnds_afterReturn rest with h | h
      · rw [h]
      · rw [h, hplain (by decide)]
    · rw [Text.unifyLineEnds_cons hr]
      by_cases hc : c = '\\'
      · subst hc
        have hbackslash (ds : List Char) : escapedCodesFrom found (pointsOf ('\\' :: ds)) =
            escapedCodesFrom ((escapedCode? (pointsOf ds)).toList ++ found) (pointsOf ds) := rfl
        rw [hbackslash, hbackslash, escapedCode?_unifyLineEnds, ih]
      · rw [hplain hc, hplain hc, ih]

theorem filter_unifyLineEnds {p : Char → Bool} (hr : p '\r' = false) (hn : p '\n' = false)
    (cs : List Char) : (unifyLineEnds cs).filter p = cs.filter p := by
  induction cs with
  | nil => rfl
  | cons c rest ih =>
    by_cases hc : c = '\r'
    · subst hc
      rw [Text.unifyLineEnds_return, List.filter_cons_of_neg (by simp [hn]),
        List.filter_cons_of_neg (by simp [hr]), ← ih]
      rcases Text.unifyLineEnds_afterReturn rest with h | h
      · rw [h]
      · rw [h, List.filter_cons_of_neg (by simp [hn])]
    · rw [Text.unifyLineEnds_cons hc, List.filter_cons, List.filter_cons, ih]

theorem unspelled_unifyLineEnds (cs : List Char) :
    unspelled (pointsOf (unifyLineEnds cs)) = unspelled (pointsOf cs) := by
  have hfilter (ds : List Char) : (pointsOf ds).filter (0xE000 ≤ ·) =
      pointsOf (ds.filter fun c => decide (0xE000 ≤ c.toNat)) := by
    rw [pointsOf, List.filter_map]
    rfl
  unfold unspelled
  rw [hfilter, hfilter, filter_unifyLineEnds (by decide) (by decide),
    escapedCodesFrom_unifyLineEnds]

theorem standIns_unifyLineEnds (cs : List Char) :
    standIns (pointsOf (unifyLineEnds cs)) = standIns (pointsOf cs) := by
  unfold standIns
  rw [loneCodes_eq, loneCodes_eq, lonesFrom_unifyLineEnds, unspelled_unifyLineEnds]

/-! ## What is read -/

variable {d : Document}

theorem openText_eq_ok_iff : openText cs = .ok d ↔
    readText (settled (standIns (pointsOf cs)) cs) = .ok d.value ∧
      d.lone = standIns (pointsOf cs) := by
  obtain ⟨v, lone⟩ := d
  rw [openText, settle_eq, ← read_eq_ok_iff]
  cases read (settled (standIns (pointsOf cs)) cs) with
  | error e => simp [Except.map]
  | ok v' => simp [Except.map, eq_comm]

/-- **Line ends make no difference to what is read.** -/
theorem openText_unifyLineEnds_iff : openText (unifyLineEnds cs) = .ok d ↔ openText cs = .ok d := by
  rw [openText_eq_ok_iff, openText_eq_ok_iff, standIns_unifyLineEnds, settled_unifyLineEnds,
    readText_unifyLineEnds_iff]

/-- Control characters stay. -/
theorem mem_settled (hc : c.toNat < 0x20) (h : c ∈ cs) : c ∈ settled lone cs := by
  have hbackslash : c ≠ '\\' := by
    rintro rfl
    exact absurd hc (by decide)
  have hescape {front : List Char} {code : Nat} (he : Escape front code) : c ∉ front := fun hmem =>
    absurd (he.plain c hmem) (Nat.not_le.mpr hc)
  induction scanned cs with
  | nil => exact absurd h List.not_mem_nil
  | last => exact absurd (List.mem_singleton.mp h) hbackslash
  | char hd _ ih =>
    rw [settled_cons hd]
    exact (List.mem_cons.mp h).elim (· ▸ List.mem_cons_self) fun h => List.mem_cons_of_mem _ (ih h)
  | short hnone _ ih =>
    rw [settled_short hnone]
    have hrest := (List.mem_cons.mp h).resolve_left hbackslash
    exact List.mem_cons_of_mem _ ((List.mem_cons.mp hrest).elim (· ▸ List.mem_cons_self)
      fun h => List.mem_cons_of_mem _ (ih h))
  | code he hpair _ ih =>
    rw [settled_code he hpair]
    have hrest := (List.mem_cons.mp h).resolve_left hbackslash
    exact List.mem_append_right _ (ih ((List.mem_append.mp hrest).resolve_left (hescape he)))
  | pair he hhigh he' hlow _ ih =>
    rw [settled_pair he hhigh he' hlow]
    have hrest := (List.mem_append.mp ((List.mem_cons.mp h).resolve_left hbackslash)).resolve_left
      (hescape he)
    have hlast := (List.mem_append.mp ((List.mem_cons.mp hrest).resolve_left
      hbackslash)).resolve_left (hescape he')
    exact List.mem_cons_of_mem _ (List.mem_append_right _ (List.mem_cons_of_mem _
      (List.mem_append_right _ (ih hlast))))

/-- **What is read from a text in UTF-8 is read from its bytes.** -/
theorem readBytes_of_openText {bytes : List UInt8} (hd : Text.Utf8.decode bytes = .ok cs)
    (h : openText cs = .ok d) : readBytes bytes = .value d := by
  obtain ⟨hread, hlone⟩ := openText_eq_ok_iff.mp h
  have hpoints : Text.Utf8.decodePassing bytes = some (pointsOf cs) := by
    rw [Text.Utf8.decodePassing, hd]
    rfl
  have hnull : '\x00' ∉ cs := fun hmem =>
    null_not_mem_of_readText hread (mem_settled (by decide) hmem)
  have hmark : cs.head? ≠ some (Char.ofNat 0xFEFF) := by
    intro hhead
    obtain ⟨rest, rfl⟩ := List.head?_eq_some_iff.mp hhead
    rw [settled_cons (by decide)] at hread
    exact head?_ne_of_readText hread rfl
  have hopen : openPoints (pointsOf cs) = .ok d := by
    rw [openPoints, settle_eq, hread, ← hlone]
    rfl
  unfold readBytes
  rw [Encoding.detect_of_decode hd hnull hmark]
  simp only [Encoding.decode, hpoints, hopen]

end Json

end HealthAlert
