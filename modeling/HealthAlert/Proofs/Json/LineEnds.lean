import HealthAlert.Proofs.Json.Cutting
import HealthAlert.Text.Lines

/-!
# Line ends do not matter to JSON

Line ends stand between tokens only, since no text may hold a control character. So a text that is
read from a file, where every line end is a line feed, is the same value as the text itself.

* `cut_unifyLineEnds`: the tokens stay.
* `plain_of_readText`: what is read holds no control character but white space.
* **`readText_unifyLineEnds_iff`**: the value stays, and no text becomes one that can be read.
-/

namespace HealthAlert

/-! ## Texts with line feeds only -/

namespace Text

variable {c : Char} {cs front rest : List Char}

theorem unifyLineEndsFrom_append (read cs : List Char) (more : List Char) :
    unifyLineEndsFrom (read ++ more) cs = more.reverse ++ unifyLineEndsFrom read cs := by
  induction read, cs using unifyLineEndsFrom.induct with
  | case1 read => simp [unifyLineEndsFrom]
  | case2 read rest ih =>
    rw [unifyLineEndsFrom, unifyLineEndsFrom]
    exact ih
  | case3 read rest hrest ih =>
    rw [unifyLineEndsFrom, unifyLineEndsFrom]
    · exact ih
    all_goals exact hrest
  | case4 read c rest hpair hc ih =>
    rw [unifyLineEndsFrom, unifyLineEndsFrom]
    · exact ih
    all_goals assumption

theorem unifyLineEndsFrom_single (c : Char) (cs : List Char) :
    unifyLineEndsFrom [c] cs = c :: unifyLineEnds cs :=
  unifyLineEndsFrom_append [] cs [c]

/-- What follows a carriage return, without the line feed that ends the same line. -/
def afterReturn : List Char → List Char
  | '\n' :: rest => rest
  | rest => rest

@[simp] theorem unifyLineEnds_nil : unifyLineEnds [] = [] := rfl

theorem unifyLineEnds_return (rest : List Char) :
    unifyLineEnds ('\r' :: rest) = '\n' :: unifyLineEnds (afterReturn rest) := by
  rw [← unifyLineEndsFrom_single, unifyLineEnds]
  unfold afterReturn
  split
  · rw [unifyLineEndsFrom]
  · rw [unifyLineEndsFrom]
    assumption

theorem unifyLineEnds_cons (h : c ≠ '\r') (rest : List Char) :
    unifyLineEnds (c :: rest) = c :: unifyLineEnds rest := by
  rw [← unifyLineEndsFrom_single, unifyLineEnds, unifyLineEndsFrom]
  · exact fun _ hc => absurd hc h
  · exact h

/-- A line feed behind a carriage return only adds itself. -/
theorem unifyLineEnds_afterReturn (rest : List Char) :
    unifyLineEnds rest = unifyLineEnds (afterReturn rest) ∨
      unifyLineEnds rest = '\n' :: unifyLineEnds (afterReturn rest) := by
  unfold afterReturn
  split
  · exact Or.inr (unifyLineEnds_cons (by decide) _)
  · exact Or.inl rfl

theorem unifyLineEnds_append (h : ∀ c ∈ front, c ≠ '\r') (rest : List Char) :
    unifyLineEnds (front ++ rest) = front ++ unifyLineEnds rest := by
  induction front with
  | nil => rfl
  | cons c front ih =>
    rw [List.forall_mem_cons] at h
    rw [List.cons_append, unifyLineEnds_cons h.1, ih h.2, List.cons_append]

/-- No line end stands among characters that are no control characters. -/
theorem ne_return_of_le (h : 0x20 ≤ c.toNat) : c ≠ '\r' := by
  rintro rfl
  exact absurd h (by decide)

theorem unifyLineEnds_drop {n : Nat} (h : ∀ c ∈ cs.take n, 0x20 ≤ c.toNat) :
    (unifyLineEnds cs).drop n = unifyLineEnds (cs.drop n) := by
  have hfront := unifyLineEnds_append (fun c hc => ne_return_of_le (h c hc)) (cs.drop n)
  rw [List.take_append_drop] at hfront
  rw [hfront]
  rcases Nat.le_total n cs.length with hn | hn
  · exact List.drop_left' (List.length_take_of_le hn)
  · rw [List.drop_of_length_le hn, List.take_of_length_le hn, unifyLineEnds_nil, List.append_nil,
      List.drop_of_length_le hn]

/-- What stands in front of the first line end stood there before. -/
theorem exists_eq_append_of_unifyLineEnds (h : ∀ c ∈ front, 0x20 ≤ c.toNat)
    (hcs : unifyLineEnds cs = front ++ rest) : ∃ after, cs = front ++ after := by
  induction front generalizing cs with
  | nil => exact ⟨cs, rfl⟩
  | cons x front ih =>
    rw [List.forall_mem_cons] at h
    cases cs with
    | nil => exact absurd hcs (by simp)
    | cons c after =>
      by_cases hc : c = '\r'
      · rw [hc, unifyLineEnds_return] at hcs
        rw [← (List.cons.inj hcs).1] at h
        exact absurd h.1 (by decide)
      · rw [unifyLineEnds_cons hc] at hcs
        obtain ⟨rfl, hrest⟩ := List.cons.inj hcs
        obtain ⟨after, rfl⟩ := ih h.2 hrest
        exact ⟨after, rfl⟩

theorem unifyLineEnds_takeWhile {p : Char → Bool} (hr : p '\r' = false) (hn : p '\n' = false)
    (cs : List Char) : (unifyLineEnds cs).takeWhile p = cs.takeWhile p := by
  induction cs with
  | nil => rfl
  | cons c rest ih =>
    by_cases hc : c = '\r'
    · rw [hc, unifyLineEnds_return, List.takeWhile_cons_of_neg (by simp [hn]),
        List.takeWhile_cons_of_neg (by simp [hr])]
    · rw [unifyLineEnds_cons hc]
      cases hp : p c
      · rw [List.takeWhile_cons_of_neg (by simp [hp]), List.takeWhile_cons_of_neg (by simp [hp])]
      · rw [List.takeWhile_cons_of_pos hp, List.takeWhile_cons_of_pos hp, ih]

theorem isPrefixOf_unifyLineEnds (h : ∀ c ∈ front, 0x20 ≤ c.toNat) (cs : List Char) :
    front.isPrefixOf (unifyLineEnds cs) = front.isPrefixOf cs := by
  induction front generalizing cs with
  | nil => simp
  | cons x front ih =>
    rw [List.forall_mem_cons] at h
    cases cs with
    | nil => rfl
    | cons c rest =>
      by_cases hc : c = '\r'
      · have hfeed : (x == '\n') = false := by
          refine beq_false_of_ne ?_
          rintro rfl
          exact absurd h.1 (by decide)
        have hreturn : (x == '\r') = false := beq_false_of_ne (ne_return_of_le h.1)
        rw [hc, unifyLineEnds_return]
        simp only [List.isPrefixOf, hfeed, hreturn, Bool.false_and]
      · rw [unifyLineEnds_cons hc]
        simp [List.isPrefixOf, ih h.2]

end Text

/-! ## Tokens -/

namespace Json

open Text

variable {c : Char} {cs rest : List Char}

theorem fractionText_unifyLineEnds (cs : List Char) :
    fractionText (unifyLineEnds cs) = fractionText cs := by
  cases cs with
  | nil => rfl
  | cons c rest =>
    by_cases hr : c = '\r'
    · rw [hr, unifyLineEnds_return]
      rfl
    · rw [unifyLineEnds_cons hr]
      by_cases hc : c = '.'
      · rw [hc, fractionText, fractionText, unifyLineEnds_takeWhile rfl rfl]
      · simp [fractionText, hc]

theorem exponentSign_unifyLineEnds (cs : List Char) :
    exponentSign (unifyLineEnds cs) = exponentSign cs := by
  cases cs with
  | nil => rfl
  | cons c rest =>
    by_cases hr : c = '\r'
    · rw [hr, unifyLineEnds_return]
      rfl
    · rw [unifyLineEnds_cons hr]
      by_cases hp : c = '+'
      · rw [hp]
        rfl
      · by_cases hm : c = '-'
        · rw [hm]
          rfl
        · simp [exponentSign, hp, hm]

theorem exponentText_unifyLineEnds (cs : List Char) :
    exponentText (unifyLineEnds cs) = exponentText cs := by
  cases cs with
  | nil => rfl
  | cons c rest =>
    by_cases hr : c = '\r'
    · rw [hr, unifyLineEnds_return]
      rfl
    · obtain ⟨hpre, hle⟩ := exponentSign_prefix rest
      rw [unifyLineEnds_cons hr, exponentText_cons, exponentText_cons, exponentSign_unifyLineEnds,
        unifyLineEnds_drop (by rwa [← List.prefix_iff_eq_take.mp hpre]),
        unifyLineEnds_takeWhile rfl rfl]

theorem wholeText_unifyLineEnds (cs : List Char) :
    wholeText (unifyLineEnds cs) = wholeText cs := by
  cases cs with
  | nil => rfl
  | cons c rest =>
    by_cases hr : c = '\r'
    · rw [hr, unifyLineEnds_return]
      rfl
    · rw [unifyLineEnds_cons hr]
      by_cases hz : c = '0'
      · rw [hz]
        rfl
      · rw [wholeText, wholeText, ← unifyLineEnds_cons hr, unifyLineEnds_takeWhile rfl rfl]
        · exact fun _ h => hz (List.cons.inj h).1
        · exact fun _ h => hz (List.cons.inj h).1

theorem unsignedText?_unifyLineEnds (negative : Bool) (cs : List Char) :
    unsignedText? negative (unifyLineEnds cs) = unsignedText? negative cs := by
  obtain ⟨hwhole, hdigits⟩ := wholeText_prefix cs
  obtain ⟨hfraction, hle⟩ := fractionText_prefix (cs.drop (wholeText cs).length)
  have hrest : (unifyLineEnds cs).drop (wholeText cs).length =
      unifyLineEnds (cs.drop (wholeText cs).length) := by
    refine unifyLineEnds_drop fun c hc => ?_
    rw [← List.prefix_iff_eq_take.mp hwhole] at hc
    exact le_of_isDigit (hdigits c hc)
  unfold unsignedText?
  dsimp only
  rw [wholeText_unifyLineEnds, hrest, fractionText_unifyLineEnds,
    unifyLineEnds_drop (by rwa [← List.prefix_iff_eq_take.mp hfraction]),
    exponentText_unifyLineEnds]

theorem numberText?_unifyLineEnds (cs : List Char) :
    numberText? (unifyLineEnds cs) = numberText? cs := by
  cases cs with
  | nil => rfl
  | cons c rest =>
    by_cases hm : c = '-'
    · rw [hm, unifyLineEnds_cons (by decide), numberText?_minus, numberText?_minus,
        unsignedText?_unifyLineEnds]
    · rw [numberText?_of_head, numberText?_of_head, unsignedText?_unifyLineEnds]
      · exact fun _ h => hm (List.cons.inj h).1
      · intro after h
        by_cases hr : c = '\r'
        · rw [hr, unifyLineEnds_return] at h
          exact absurd (List.cons.inj h).1 (by decide)
        · rw [unifyLineEnds_cons hr] at h
          exact hm (List.cons.inj h).1

theorem word?_unifyLineEnds (cs : List Char) : word? (unifyLineEnds cs) = word? cs := by
  have hwords : ∀ w ∈ words.map Prod.fst, ∀ c ∈ w.toList, 0x20 ≤ c.toNat := by
    simp [words]
  have hfind {ws : List (String × Value)}
      (h : ∀ w ∈ ws.map Prod.fst, ∀ c ∈ w.toList, 0x20 ≤ c.toNat) :
      ws.find? (fun w => w.1.toList.isPrefixOf (unifyLineEnds cs)) =
        ws.find? (fun w => w.1.toList.isPrefixOf cs) := by
    induction ws with
    | nil => rfl
    | cons w ws ih =>
      rw [List.map_cons, List.forall_mem_cons] at h
      rw [List.find?_cons, List.find?_cons, isPrefixOf_unifyLineEnds h.1, ih h.2]
  unfold word?
  rw [hfind hwords]

theorem wordToken_unifyLineEnds (cs : List Char) :
    wordToken (unifyLineEnds cs) = wordToken cs := by
  unfold wordToken
  rw [word?_unifyLineEnds, numberText?_unifyLineEnds]

/-- The characters of a number or word that can be read are no control characters, and there is at
least one. -/
theorem wordToken_front (h : (wordToken cs).1.Sound) :
    ∀ x ∈ cs.take ((wordToken cs).2 + 1), 0x20 ≤ x.toNat := by
  unfold wordToken at h ⊢
  cases hw : word? cs with
  | some w =>
    obtain ⟨v, n⟩ := w
    have hpre := word?_prefix hw
    have hn : n - 1 + 1 = n := Nat.sub_add_cancel hpre.1
    simp only [hn]
    exact hpre.2
  | none =>
    rw [hw] at h
    cases hnumber : numberText? cs with
    | some n =>
      have hpre := NumberText.chars_prefix hnumber
      have hn : n.length - 1 + 1 = n.chars.length := by
        rw [Nat.sub_add_cancel (NumberText.length_pos hnumber), n.length_chars]
      simp only [hn]
      rw [← List.prefix_iff_eq_take.mp hpre.1]
      exact hpre.2
    | none =>
      rw [hnumber] at h
      exact h.elim

/-- What a token is, in front of the same characters with line feeds only. -/
structure TokenStays (pos pos' : Nat) (c : Char) (rest : List Char) : Prop where
  same : tokenAt pos' c (unifyLineEnds rest) = tokenAt pos c rest
  /-- No character of the token is a control character. -/
  front : ∀ x ∈ c :: rest.take (tokenAt pos c rest).2, 0x20 ≤ x.toNat

theorem tokenStays {pos : Nat} (pos' : Nat) (h : (tokenAt pos c rest).1.Sound)
    (hr : c ≠ '\r') : TokenStays pos pos' c rest := by
  cases hp : punctuation? c with
  | some t =>
    refine ⟨by rw [tokenAt_of_punctuation hp, tokenAt_of_punctuation hp], ?_⟩
    rw [tokenAt_of_punctuation hp]
    simpa using le_of_punctuation? hp
  | none =>
    by_cases hq : c = '"'
    · subst hq
      obtain ⟨body, codes, after, rfl, hspells⟩ := spells_of_tokenAt h
      have hbody : ∀ x ∈ body ++ ['"'], 0x20 ≤ x.toNat := List.forall_mem_append.mpr
        ⟨hspells.le_toNat, by simp⟩
      have hunified : unifyLineEnds (body ++ '"' :: after) =
          body ++ '"' :: unifyLineEnds after := by
        have := unifyLineEnds_append (fun x hx => ne_return_of_le (hbody x hx)) after
        simpa using this
      have htake : (body ++ '"' :: after).take (body.length + 1) = body ++ ['"'] := by
        rw [List.append_cons]
        exact List.take_left' (by simp)
      refine ⟨by rw [hunified, tokenAt_of_spells hspells, tokenAt_of_spells hspells], ?_⟩
      rw [tokenAt_of_spells hspells, htake]
      exact List.forall_mem_cons.mpr ⟨by decide, hbody⟩
    · rw [tokenAt_word hp hq] at h
      have hfront := wordToken_front h
      refine ⟨?_, ?_⟩
      · rw [tokenAt_word hp hq, tokenAt_word hp hq, ← unifyLineEnds_cons hr,
          wordToken_unifyLineEnds]
      · rw [tokenAt_word hp hq]
        rwa [List.take_succ_cons] at hfront

/-- The line feed after a carriage return gives no token. -/
theorem cut_afterReturn (pos : Nat) (rest : List Char) :
    (∃ pos', cut pos 0 rest = cut pos' 0 (afterReturn rest)) ∧
      (afterReturn rest).length ≤ rest.length ∧
      ∀ x ∈ rest, isSpace x = true ∨ x ∈ afterReturn rest := by
  unfold afterReturn
  split
  · exact ⟨⟨pos + 1, cut_space rfl pos _⟩, Nat.le_succ _,
      List.forall_mem_cons.mpr ⟨Or.inl rfl, fun _ hx => Or.inr hx⟩⟩
  · exact ⟨⟨pos, rfl⟩, Nat.le_refl _, fun _ hx => Or.inr hx⟩

/-- **Line ends give no tokens**: a text whose tokens can all be read gives the same ones when every
line end is a line feed, and it holds no control character but white space. -/
theorem cut_unifyLineEnds (pos pos' : Nat) (cs : List Char)
    (h : ∀ t ∈ cut pos 0 cs, t.Sound) :
    cut pos' 0 (unifyLineEnds cs) = cut pos 0 cs ∧
      ∀ x ∈ cs, isSpace x = true ∨ 0x20 ≤ x.toNat := by
  -- A token takes several characters at once, so the induction is on the length of the text.
  induction hlen : cs.length using Nat.strongRecOn generalizing pos pos' cs with
  | _ n ih =>
    cases cs with
    | nil => exact ⟨rfl, by simp⟩
    | cons c rest =>
      rw [List.length_cons] at hlen
      by_cases hr : c = '\r'
      · subst hr
        obtain ⟨⟨pos₁, hcut⟩, hshorter, hmem⟩ := cut_afterReturn (pos + 1) rest
        rw [cut_space rfl, hcut] at h ⊢
        obtain ⟨hrest, hplain⟩ := ih _ (by omega) pos₁ (pos' + 1) (afterReturn rest) h rfl
        rw [unifyLineEnds_return, cut_space rfl]
        exact ⟨hrest, List.forall_mem_cons.mpr
          ⟨Or.inl rfl, fun x hx => (hmem x hx).elim Or.inl (hplain x)⟩⟩
      · rw [unifyLineEnds_cons hr]
        cases hs : isSpace c with
        | true =>
          rw [cut_space hs] at h ⊢
          obtain ⟨hrest, hplain⟩ := ih _ (by omega) (pos + 1) (pos' + 1) rest h rfl
          rw [cut_space hs]
          exact ⟨hrest, List.forall_mem_cons.mpr ⟨Or.inl hs, hplain⟩⟩
        | false =>
          rw [cut_token hs] at h ⊢
          rw [List.forall_mem_cons] at h
          obtain ⟨hsame, hfront⟩ := tokenStays pos' h.1 hr
          rw [List.forall_mem_cons] at hfront
          rw [cut_token hs, hsame, unifyLineEnds_drop hfront.2]
          obtain ⟨hrest, hplain⟩ := ih _ (by simp only [List.length_drop]; omega) _
            (pos' + 1 + (tokenAt pos c rest).2) _ h.2 rfl
          refine ⟨by rw [hrest], List.forall_mem_cons.mpr ⟨Or.inr hfront.1, fun x hx => ?_⟩⟩
          rw [← List.take_append_drop (tokenAt pos c rest).2 rest, List.mem_append] at hx
          exact hx.elim (fun hx => Or.inr (hfront.2 x hx)) (hplain x)

/-- What can be read as a token in front of line feeds could be read before. -/
theorem sound_of_tokenAt_unifyLineEnds {pos pos' : Nat} (hr : c ≠ '\r')
    (h : (tokenAt pos' c (unifyLineEnds rest)).1.Sound) : (tokenAt pos c rest).1.Sound := by
  cases hp : punctuation? c with
  | some t =>
    rw [tokenAt_of_punctuation hp] at h ⊢
    exact h
  | none =>
    by_cases hq : c = '"'
    · subst hq
      obtain ⟨body, codes, after, hrest, hspells⟩ := spells_of_tokenAt h
      have hbody : ∀ x ∈ body ++ ['"'], 0x20 ≤ x.toNat := List.forall_mem_append.mpr
        ⟨hspells.le_toNat, by simp⟩
      rw [List.append_cons] at hrest
      obtain ⟨before, rfl⟩ := exists_eq_append_of_unifyLineEnds hbody hrest
      rw [List.append_assoc, List.singleton_append, tokenAt_of_spells hspells]
      trivial
    · rw [tokenAt_word hp hq, ← unifyLineEnds_cons hr, wordToken_unifyLineEnds] at h
      rwa [tokenAt_word hp hq]

/-- A text whose tokens cannot all be read does not gain by line feeds. -/
theorem sound_of_cut_unifyLineEnds (pos pos' : Nat) (cs : List Char)
    (h : ∀ t ∈ cut pos' 0 (unifyLineEnds cs), t.Sound) : ∀ t ∈ cut pos 0 cs, t.Sound := by
  induction hlen : cs.length using Nat.strongRecOn generalizing pos pos' cs with
  | _ n ih =>
    cases cs with
    | nil => simp
    | cons c rest =>
      rw [List.length_cons] at hlen
      by_cases hr : c = '\r'
      · subst hr
        obtain ⟨⟨pos₁, hcut⟩, hshorter, -⟩ := cut_afterReturn (pos + 1) rest
        rw [unifyLineEnds_return, cut_space rfl] at h
        rw [cut_space rfl, hcut]
        exact ih _ (by omega) pos₁ (pos' + 1) (afterReturn rest) h rfl
      · rw [unifyLineEnds_cons hr] at h
        cases hs : isSpace c with
        | true =>
          rw [cut_space hs] at h ⊢
          exact ih _ (by omega) (pos + 1) (pos' + 1) rest h rfl
        | false =>
          rw [cut_token hs] at h ⊢
          rw [List.forall_mem_cons] at h ⊢
          have hsound : (tokenAt pos c rest).1.Sound := sound_of_tokenAt_unifyLineEnds hr h.1
          obtain ⟨hsame, hfront⟩ := tokenStays pos' hsound hr
          rw [List.forall_mem_cons] at hfront
          rw [hsame, unifyLineEnds_drop hfront.2] at h
          exact ⟨hsound, ih _ (by simp only [List.length_drop]; omega) _ _ _ h.2 rfl⟩

/-- **Line ends do not matter to JSON.** -/
theorem readText_unifyLineEnds_iff {v : Value} :
    readText (unifyLineEnds cs) = .ok v ↔ readText cs = .ok v := by
  constructor
  · intro h
    obtain ⟨hsound, hsame⟩ := readText_of_cut h
    have hcut := (cut_unifyLineEnds 0 0 cs (sound_of_cut_unifyLineEnds 0 0 cs hsound)).1
    exact hsame _ hcut.symm
  · intro h
    obtain ⟨hsound, hsame⟩ := readText_of_cut h
    exact hsame _ (cut_unifyLineEnds 0 0 cs hsound).1

/-- A text that is read holds no control character but white space. -/
theorem plain_of_readText {v : Value} (h : readText cs = .ok v) :
    ∀ x ∈ cs, isSpace x = true ∨ 0x20 ≤ x.toNat :=
  (cut_unifyLineEnds 0 0 cs (readText_of_cut h).1).2

end Json

end HealthAlert
