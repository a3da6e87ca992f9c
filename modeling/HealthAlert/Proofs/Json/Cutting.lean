import HealthAlert.Json.Reader

/-!
# How a text is cut into tokens

Which tokens a text gives does not depend on the offset at which it starts, as long as every token
can be read; so tokens are looked at without their places here (`cut`). What stands between the
quotes of a text and what it stands for is a relation of its own (`Spells`).

* `spells_of_closed`, `scanText_of_spells`: a text that is closed is read as what it spells.
* `NumberText.chars_prefix`: the characters of a number stand in front.
* `run_of_tokens`: what the machine reads to the end has no token that cannot be read, and tokens in
  other places lead it to the same end.
* `readText_of_cut`: texts that give the same tokens are read alike.
-/

namespace HealthAlert.Json

/-! ## Tokens without their places -/

/-- The token can be read. -/
def Token.Sound : Token → Prop
  | .faultyText _ _ | .longInteger _ | .stray => False
  | _ => True

/-- The tokens from an offset on, without their places. -/
def cut (pos skip : Nat) (cs : List Char) : List Token :=
  (tokensFrom [] pos skip cs).map Located.token

theorem tokensFrom_eq (found : List Located) (pos skip : Nat) (cs : List Char) :
    tokensFrom found pos skip cs = found.reverse ++ tokensFrom [] pos skip cs := by
  induction cs generalizing found pos skip with
  | nil => simp [tokensFrom]
  | cons c rest ih =>
    unfold tokensFrom
    split
    · exact ih found _ _
    · split
      · exact ih found _ _
      · dsimp only
        rw [ih (_ :: found), ih [_]]
        simp

@[simp] theorem cut_nil (pos skip : Nat) : cut pos skip [] = [] := rfl

theorem cut_skip (pos skip : Nat) (c : Char) (rest : List Char) :
    cut pos (skip + 1) (c :: rest) = cut (pos + 1) skip rest := rfl

/-- Characters that belong to the token found last give no tokens. -/
theorem cut_drop (pos skip : Nat) (cs : List Char) :
    cut pos skip cs = cut (pos + skip) 0 (cs.drop skip) := by
  induction skip generalizing pos cs with
  | zero => rfl
  | succ n ih =>
    cases cs with
    | nil => rfl
    | cons c rest => rw [cut_skip, ih, List.drop_succ_cons, Nat.add_right_comm, Nat.add_assoc]

theorem cut_space {c : Char} (h : isSpace c = true) (pos : Nat) (rest : List Char) :
    cut pos 0 (c :: rest) = cut (pos + 1) 0 rest := by
  unfold cut
  rw [tokensFrom, if_neg (Nat.lt_irrefl 0), if_pos h]

theorem cut_token {c : Char} (h : isSpace c = false) (pos : Nat) (rest : List Char) :
    cut pos 0 (c :: rest) =
      (tokenAt pos c rest).1 ::
        cut (pos + 1 + (tokenAt pos c rest).2) 0 (rest.drop (tokenAt pos c rest).2) := by
  rw [← cut_drop]
  unfold cut
  rw [tokensFrom, if_neg (Nat.lt_irrefl 0), if_neg (by simp [h])]
  dsimp only
  rw [tokensFrom_eq]
  rfl

/-- Every token starts with a character that is no space. -/
theorem exists_tokenAt_of_mem_cut {t : Token} {pos skip : Nat} {cs : List Char}
    (h : t ∈ cut pos skip cs) :
    ∃ pos c rest, isSpace c = false ∧ (tokenAt pos c rest).1 = t := by
  induction cs generalizing pos skip with
  | nil => exact absurd h List.not_mem_nil
  | cons c rest ih =>
    cases skip with
    | succ skip => exact ih (cut_skip pos skip c rest ▸ h)
    | zero =>
      cases hs : isSpace c with
      | true => exact ih (cut_space hs pos rest ▸ h)
      | false =>
        rw [cut_token hs, ← cut_drop] at h
        rcases List.mem_cons.mp h with rfl | hrest
        · exact ⟨pos, c, rest, hs, rfl⟩
        · exact ih hrest

/-! ## Texts -/

theorem le_of_hexValue? {c : Char} {n : Nat} (h : hexValue? c = some n) : 0x20 ≤ c.toNat := by
  unfold hexValue? at h
  split at h
  · exact Nat.le_trans (by decide) (show '0'.toNat ≤ c.toNat from (‹_ ∧ _› : _ ∧ _).1)
  · split at h
    · exact Nat.le_trans (by decide) (show 'a'.toNat ≤ c.toNat from (‹_ ∧ _› : _ ∧ _).1)
    · split at h
      · exact Nat.le_trans (by decide) (show 'A'.toNat ≤ c.toNat from (‹_ ∧ _› : _ ∧ _).1)
      · exact absurd h (by simp)

theorem le_of_hexCode? {a b c d : Char} {n : Nat} (h : hexCode? a b c d = some n) :
    ∀ x ∈ [a, b, c, d], 0x20 ≤ x.toNat := by
  unfold hexCode? at h
  split at h
  · rename_i ha hb hc hd
    intro x hx
    simp only [List.mem_cons, List.not_mem_nil, or_false] at hx
    rcases hx with rfl | rfl | rfl | rfl
    · exact le_of_hexValue? ha
    · exact le_of_hexValue? hb
    · exact le_of_hexValue? hc
    · exact le_of_hexValue? hd
  · exact absurd h (by simp)

theorem le_of_escapeCode? {c : Char} {n : Nat} (h : escapeCode? c = some n) : 0x20 ≤ c.toNat := by
  unfold escapeCode? at h
  split at h <;> first | decide | exact absurd h (by simp)

/-- The characters between quotes stand for the codes. -/
inductive Spells : List Char → List Nat → Prop where
  | nil : Spells [] []
  | plain {c : Char} {rest : List Char} {codes : List Nat} (quote : c ≠ '"') (backslash : c ≠ '\\')
      (control : ¬ c.toNat < 0x20) (h : Spells rest codes) : Spells (c :: rest) (c.toNat :: codes)
  | escape {c : Char} {n : Nat} {rest : List Char} {codes : List Nat}
      (code : escapeCode? c = some n) (h : Spells rest codes) :
      Spells ('\\' :: c :: rest) (n :: codes)
  | code {a b c d : Char} {n : Nat} {rest : List Char} {codes : List Nat}
      (code : hexCode? a b c d = some n) (h : Spells rest codes) :
      Spells ('\\' :: 'u' :: a :: b :: c :: d :: rest) (n :: codes)

variable {body rest cs : List Char} {codes before : List Nat}

theorem Spells.append {other : List Char} {more : List Nat} (h : Spells body codes)
    (h' : Spells other more) : Spells (body ++ other) (codes ++ more) := by
  induction h with
  | nil => exact h'
  | plain quote backslash control _ ih => exact .plain quote backslash control ih
  | escape code _ ih => exact .escape code ih
  | code code _ ih => exact .code code ih

/-- No control character stands between quotes. -/
theorem Spells.le_toNat (h : Spells body codes) : ∀ c ∈ body, 0x20 ≤ c.toNat := by
  induction h with
  | nil => exact fun _ hc => nomatch hc
  | plain _ _ control _ ih => exact List.forall_mem_cons.mpr ⟨Nat.not_lt.mp control, ih⟩
  | escape code _ ih =>
    exact List.forall_mem_cons.mpr
      ⟨by decide, List.forall_mem_cons.mpr ⟨le_of_escapeCode? code, ih⟩⟩
  | code code _ ih =>
    have hdigits := le_of_hexCode? code
    simp only [List.forall_mem_cons] at hdigits ⊢
    exact ⟨by decide, by decide, hdigits.1, hdigits.2.1, hdigits.2.2.1, hdigits.2.2.2.1, ih⟩

theorem scanText_code {a b c d : Char} {n : Nat} (h : hexCode? a b c d = some n)
    (start pos : Nat) (before : List Nat) (hr : rest ≠ []) :
    scanText start pos before ('\\' :: 'u' :: a :: b :: c :: d :: rest) =
      scanText start (pos + 6) (n :: before) rest := by
  cases rest with
  | nil => exact absurd rfl hr
  | cons e rest => rw [scanText, h]

theorem scanText_escape {c : Char} {n : Nat} (h : escapeCode? c = some n) (start pos : Nat)
    (before : List Nat) (rest : List Char) :
    scanText start pos before ('\\' :: c :: rest) =
      scanText start (pos + 2) (n :: before) rest := by
  have hu : c ≠ 'u' := by
    rintro rfl
    exact absurd h (by simp [escapeCode?])
  rw [scanText, h]
  · exact fun _ _ _ _ _ _ hc => absurd hc hu
  · exact hu

theorem scanText_plain {c : Char} (hq : c ≠ '"') (hb : c ≠ '\\') (h : ¬ c.toNat < 0x20)
    (start pos : Nat) (before : List Nat) (rest : List Char) :
    scanText start pos before (c :: rest) =
      scanText start (pos + 1) (c.toNat :: before) rest := by
  rw [scanText, if_neg h]
  · exact hq
  · exact fun hc => absurd hc hb
  · exact fun _ _ _ _ _ _ hc => absurd hc hb
  · exact fun _ hc => absurd hc hb
  · exact fun _ _ hc => absurd hc hb

/-- What is spelled before a quote is read, wherever it stands and whatever follows. -/
theorem scanText_of_spells (h : Spells body codes) (start pos : Nat) (before : List Nat)
    (rest : List Char) :
    scanText start pos before (body ++ '"' :: rest) =
      .closed (String.ofList (joinCodes [] (codes.reverse ++ before))) (pos + body.length + 1) := by
  induction h generalizing pos before with
  | nil => rfl
  | plain quote backslash control _ ih =>
    rw [List.cons_append, scanText_plain quote backslash control, ih]
    simp [Nat.add_comm, Nat.add_left_comm]
  | escape code _ ih =>
    rw [List.cons_append, List.cons_append, scanText_escape code, ih]
    simp [Nat.add_comm, Nat.add_left_comm]
  | code code _ ih =>
    simp only [List.cons_append]
    rw [scanText_code code start pos before (by simp), ih]
    simp [Nat.add_comm, Nat.add_left_comm]

/-- A text that is closed spells what it is read as. -/
theorem spells_of_closed {start pos stop : Nat} {s : String}
    (h : scanText start pos before cs = .closed s stop) :
    ∃ body codes rest, cs = body ++ '"' :: rest ∧ Spells body codes ∧
      s = String.ofList (joinCodes [] (codes.reverse ++ before)) := by
  induction pos, before, cs using scanText.induct with
  | case1 => exact absurd h (by simp [scanText])
  | case2 pos before rest =>
    rw [scanText] at h
    exact ⟨[], [], rest, rfl, .nil, (TextScan.closed.inj h).1.symm⟩
  | case3 => exact absurd h (by simp [scanText])
  | case4 pos before a b c d e rest n hcode ih =>
    rw [scanText_code hcode start pos before (by simp)] at h
    obtain ⟨body, codes, after, hcs, hspells, hs⟩ := ih h
    exact ⟨'\\' :: 'u' :: a :: b :: c :: d :: body, n :: codes, after, by rw [hcs]; rfl,
      .code hcode hspells, by simpa using hs⟩
  | case5 pos before a b c d e rest hcode => exact absurd h (by simp [scanText, hcode])
  | case6 pos before tail hshort =>
    rw [scanText] at h
    · exact absurd h (by simp)
    · exact hshort
  | case7 pos before c rest _ hu n hcode ih =>
    rw [scanText_escape hcode] at h
    obtain ⟨body, codes, after, hcs, hspells, hs⟩ := ih h
    exact ⟨'\\' :: c :: body, n :: codes, after, by rw [hcs]; rfl, .escape hcode hspells,
      by simpa using hs⟩
  | case8 pos before c rest hlong hu hcode =>
    rw [scanText, hcode] at h
    · exact absurd h (by simp)
    · exact hlong
    · exact hu
  | case9 pos before c rest hq h1 h2 h3 h4 hcontrol =>
    rw [scanText, if_pos hcontrol] at h
    · exact absurd h (by simp)
    all_goals assumption
  | case10 pos before c rest hq h1 h2 h3 h4 hcontrol ih =>
    have hb : c ≠ '\\' := by
      cases rest with
      | nil => exact fun hc => h1 hc rfl
      | cons d rest => exact fun hc => h4 d rest hc rfl
    rw [scanText_plain hq hb hcontrol] at h
    obtain ⟨body, codes, after, hcs, hspells, hs⟩ := ih h
    exact ⟨c :: body, c.toNat :: codes, after, by rw [hcs]; rfl,
      .plain hq hb hcontrol hspells, by simpa using hs⟩

/-! ## Numbers and words -/

/-- The characters of a number. -/
def NumberText.chars (n : NumberText) : List Char :=
  (if n.negative then ['-'] else []) ++ n.whole ++ n.fraction ++ n.exponent

theorem NumberText.length_chars (n : NumberText) : n.chars.length = n.length := by
  unfold chars length
  cases n.negative <;> simp <;> omega

theorem le_of_isDigit {c : Char} (h : c.isDigit = true) : 0x20 ≤ c.toNat :=
  Nat.le_trans (by decide) (Char.isDigit_iff_toNat.mp h).1

theorem le_of_mem_takeWhile {c : Char} (h : c ∈ cs.takeWhile Char.isDigit) : 0x20 ≤ c.toNat := by
  have hall := List.all_takeWhile (l := cs) (p := Char.isDigit)
  exact le_of_isDigit (List.all_eq_true.mp hall c h)

theorem fractionText_prefix (cs : List Char) :
    fractionText cs <+: cs ∧ ∀ c ∈ fractionText cs, 0x20 ≤ c.toNat := by
  unfold fractionText
  split
  · rename_i rest
    cases hds : rest.takeWhile Char.isDigit with
    | nil => exact ⟨List.nil_prefix, by simp⟩
    | cons d ds =>
      have hpre : d :: ds <+: rest := hds ▸ List.takeWhile_prefix _
      have hle : ∀ c ∈ d :: ds, 0x20 ≤ c.toNat := fun c hc => le_of_mem_takeWhile (hds ▸ hc)
      exact ⟨List.cons_prefix_cons.mpr ⟨rfl, hpre⟩,
        List.forall_mem_cons.mpr ⟨by decide, hle⟩⟩
  · exact ⟨List.nil_prefix, by simp⟩

/-- The sign in front of an exponent's digits. -/
def exponentSign : List Char → List Char
  | '+' :: _ => ['+']
  | '-' :: _ => ['-']
  | _ => []

theorem exponentText_cons (c : Char) (rest : List Char) :
    exponentText (c :: rest) =
      if c == 'e' || c == 'E' then
        match (rest.drop (exponentSign rest).length).takeWhile Char.isDigit with
        | [] => []
        | ds => c :: (exponentSign rest ++ ds)
      else [] := rfl

theorem exponentSign_prefix (cs : List Char) :
    exponentSign cs <+: cs ∧ ∀ c ∈ exponentSign cs, 0x20 ≤ c.toNat := by
  unfold exponentSign
  split
  · exact ⟨List.cons_prefix_cons.mpr ⟨rfl, List.nil_prefix⟩, by simp⟩
  · exact ⟨List.cons_prefix_cons.mpr ⟨rfl, List.nil_prefix⟩, by simp⟩
  · exact ⟨List.nil_prefix, by simp⟩

theorem append_prefix_of_drop {front next : List Char} (h : front <+: cs)
    (h' : next <+: cs.drop front.length) : front ++ next <+: cs := by
  obtain ⟨rest, rfl⟩ := h
  rw [List.drop_left] at h'
  exact (List.prefix_append_right_inj front).mpr h'

theorem exponentText_prefix (cs : List Char) :
    exponentText cs <+: cs ∧ ∀ c ∈ exponentText cs, 0x20 ≤ c.toNat := by
  cases cs with
  | nil => exact ⟨List.nil_prefix, by simp [exponentText]⟩
  | cons c rest =>
    rw [exponentText_cons]
    have hsign := exponentSign_prefix rest
    split
    · rename_i hc
      cases hds : (rest.drop (exponentSign rest).length).takeWhile Char.isDigit with
      | nil => exact ⟨List.nil_prefix, by simp⟩
      | cons d ds =>
        have hpre : d :: ds <+: rest.drop (exponentSign rest).length :=
          hds ▸ List.takeWhile_prefix _
        have hle : ∀ x ∈ d :: ds, 0x20 ≤ x.toNat := fun x hx => le_of_mem_takeWhile (hds ▸ hx)
        have hletter : 0x20 ≤ c.toNat := by
          simp only [Bool.or_eq_true, beq_iff_eq] at hc
          rcases hc with rfl | rfl <;> decide
        exact ⟨List.cons_prefix_cons.mpr ⟨rfl, append_prefix_of_drop hsign.1 hpre⟩,
          List.forall_mem_cons.mpr ⟨hletter, List.forall_mem_append.mpr ⟨hsign.2, hle⟩⟩⟩
    · exact ⟨List.nil_prefix, by simp⟩

/-- The integer part in front. -/
def wholeText : List Char → List Char
  | '0' :: _ => ['0']
  | r => r.takeWhile Char.isDigit

theorem wholeText_prefix (cs : List Char) :
    wholeText cs <+: cs ∧ ∀ c ∈ wholeText cs, c.isDigit = true := by
  unfold wholeText
  split
  · exact ⟨List.cons_prefix_cons.mpr ⟨rfl, List.nil_prefix⟩, by simp⟩
  · exact ⟨List.takeWhile_prefix _, fun c hc => List.all_eq_true.mp List.all_takeWhile c hc⟩

/-- A number without its sign. -/
def unsignedText? (negative : Bool) (cs : List Char) : Option NumberText :=
  if (wholeText cs).isEmpty then none
  else
    let rest := cs.drop (wholeText cs).length
    some ⟨negative, wholeText cs, fractionText rest,
      exponentText (rest.drop (fractionText rest).length)⟩

theorem numberText?_minus (cs : List Char) : numberText? ('-' :: cs) = unsignedText? true cs := rfl

theorem numberText?_of_head (h : ∀ rest, cs ≠ '-' :: rest) :
    numberText? cs = unsignedText? false cs := by
  unfold numberText?
  split
  rename_i hcs
  split at hcs
  · exact absurd rfl (h _)
  · obtain ⟨rfl, rfl⟩ := Prod.mk.inj hcs
    rfl

theorem unsignedText?_prefix {negative : Bool} {n : NumberText}
    (h : unsignedText? negative cs = some n) :
    n.negative = negative ∧ n.whole ++ n.fraction ++ n.exponent <+: cs ∧
      ∀ c ∈ n.whole ++ n.fraction ++ n.exponent, 0x20 ≤ c.toNat := by
  unfold unsignedText? at h
  split at h
  · exact absurd h (by simp)
  · rw [← Option.some.inj h]
    have hwhole := wholeText_prefix cs
    have hfraction := fractionText_prefix (cs.drop (wholeText cs).length)
    have hexponent := exponentText_prefix
      ((cs.drop (wholeText cs).length).drop (fractionText (cs.drop (wholeText cs).length)).length)
    refine ⟨rfl, ?_, ?_⟩
    · refine append_prefix_of_drop (append_prefix_of_drop hwhole.1 hfraction.1) ?_
      rw [List.length_append, ← List.drop_drop]
      exact hexponent.1
    · simp only [List.forall_mem_append]
      exact ⟨⟨fun c hc => le_of_isDigit (hwhole.2 c hc), hfraction.2⟩, hexponent.2⟩

/-- **The characters of a number stand in front**, and none of them is a control character. -/
theorem NumberText.chars_prefix {n : NumberText} (h : numberText? cs = some n) :
    n.chars <+: cs ∧ ∀ c ∈ n.chars, 0x20 ≤ c.toNat := by
  unfold chars
  by_cases hminus : ∃ rest, cs = '-' :: rest
  · obtain ⟨rest, rfl⟩ := hminus
    obtain ⟨hn, hpre, hle⟩ := unsignedText?_prefix (numberText?_minus rest ▸ h)
    rw [hn, List.append_assoc, List.append_assoc, ← List.append_assoc n.whole]
    exact ⟨List.cons_prefix_cons.mpr ⟨rfl, hpre⟩,
      List.forall_mem_cons.mpr ⟨by decide, hle⟩⟩
  · rw [numberText?_of_head fun rest hr => hminus ⟨rest, hr⟩] at h
    obtain ⟨hn, hpre, hle⟩ := unsignedText?_prefix h
    rw [hn]
    exact ⟨hpre, hle⟩

theorem NumberText.length_pos {n : NumberText} (h : numberText? cs = some n) : 0 < n.length := by
  have hwhole {negative : Bool} {rest : List Char} (h : unsignedText? negative rest = some n) :
      0 < n.whole.length := by
    unfold unsignedText? at h
    split at h
    · exact absurd h (by simp)
    · rename_i hne
      rw [← Option.some.inj h]
      exact List.length_pos_iff.mpr fun he => hne (List.isEmpty_iff.mpr he)
  have hpos : 0 < n.whole.length := by
    by_cases hminus : ∃ rest, cs = '-' :: rest
    · obtain ⟨rest, rfl⟩ := hminus
      exact hwhole (numberText?_minus rest ▸ h)
    · exact hwhole (numberText?_of_head (fun rest hr => hminus ⟨rest, hr⟩) ▸ h)
  unfold length
  omega

theorem word?_prefix {v : Value} {n : Nat} (h : word? cs = some (v, n)) :
    0 < n ∧ ∀ c ∈ cs.take n, 0x20 ≤ c.toNat := by
  obtain ⟨w, hw, he⟩ := Option.map_eq_some_iff.mp h
  have hfound : w.1.toList.isPrefixOf cs = true := by simpa using List.find?_some hw
  obtain ⟨rest, rfl⟩ := List.isPrefixOf_iff_prefix.mp hfound
  rw [← (Prod.mk.inj he).2, ← String.length_toList, List.take_left]
  have hwords : ∀ w ∈ words.map Prod.fst,
      0 < w.toList.length ∧ ∀ c ∈ w.toList, 0x20 ≤ c.toNat := by simp [words]
  exact hwords w.1 (List.mem_map_of_mem (List.mem_of_find?_eq_some hw))

/-! ## The token at a character -/

/-- The token that a character is by itself. -/
def punctuation? (c : Char) : Option Token :=
  if c == '[' then some .openBracket
  else if c == ']' then some .closeBracket
  else if c == '\x7b' then some .openBrace
  else if c == '\x7d' then some .closeBrace
  else if c == ',' then some .comma
  else if c == ':' then some .colon
  else none

/-- The number or word in front, and how many characters after the first belong to it. -/
def wordToken (cs : List Char) : Token × Nat :=
  match word? cs with
  | some (v, n) => (.word v, n - 1)
  | none =>
    match numberText? cs with
    | some n => (n.token, n.length - 1)
    | none => (.stray, 0)

theorem tokenAt_eq (pos : Nat) (c : Char) (rest : List Char) :
    tokenAt pos c rest =
      match punctuation? c with
      | some t => (t, 0)
      | none =>
        if c == '"' then
          match scanText pos (pos + 1) [] rest with
          | .closed s stop => (.text s, stop - pos - 1)
          | .faulty p at' => (.faultyText p at', 0)
        else wordToken (c :: rest) := by
  unfold tokenAt punctuation?
  repeat (split; · rfl)
  rfl

theorem tokenAt_of_punctuation {c : Char} {t : Token} (h : punctuation? c = some t) (pos : Nat)
    (rest : List Char) : tokenAt pos c rest = (t, 0) := by
  rw [tokenAt_eq, h]

theorem le_of_punctuation? {c : Char} {t : Token} (h : punctuation? c = some t) :
    0x20 ≤ c.toNat := by
  unfold punctuation? at h
  iterate 6
    split at h
    · rename_i hc
      rw [beq_iff_eq.mp hc]
      decide
  exact absurd h (by simp)

theorem tokenAt_word {c : Char} (h : punctuation? c = none) (hq : c ≠ '"') (pos : Nat)
    (rest : List Char) : tokenAt pos c rest = wordToken (c :: rest) := by
  rw [tokenAt_eq, h]
  exact if_neg (by simpa using hq)

/-- The token is one that a word or a number gives. -/
def Token.IsWord : Token → Prop
  | .word _ | .longInteger _ => True
  | _ => False

theorem not_isWord_of_punctuation? {c : Char} {t : Token} (h : punctuation? c = some t) :
    ¬ t.IsWord := by
  unfold punctuation? at h
  iterate 6
    split at h
    · obtain rfl := Option.some.inj h
      exact id
  exact absurd h (by simp)

theorem wordToken_of_tokenAt {pos : Nat} {c : Char} {rest : List Char}
    (h : (tokenAt pos c rest).1.IsWord) : (wordToken (c :: rest)).1 = (tokenAt pos c rest).1 := by
  rw [tokenAt_eq] at h ⊢
  cases hp : punctuation? c with
  | some t =>
    rw [hp] at h
    exact absurd h (not_isWord_of_punctuation? hp)
  | none =>
    simp only [hp] at h ⊢
    split at h
    · split at h <;> exact h.elim
    · rw [if_neg ‹_›]

/-- A text that spells codes is one token. -/
theorem tokenAt_of_spells (h : Spells body codes) (pos : Nat) (rest : List Char) :
    tokenAt pos '"' (body ++ '"' :: rest) =
      (.text (String.ofList (joinCodes [] codes.reverse)), body.length + 1) := by
  rw [tokenAt_eq]
  simp only [show punctuation? '"' = none from rfl, beq_self_eq_true, if_true]
  rw [scanText_of_spells h, List.append_nil]
  simp only [Prod.mk.injEq, true_and]
  omega

/-- A token that can be read and starts with a quote is a text that spells something. -/
theorem spells_of_tokenAt {pos : Nat} (h : (tokenAt pos '"' cs).1.Sound) :
    ∃ body codes rest, cs = body ++ '"' :: rest ∧ Spells body codes := by
  rw [tokenAt_eq] at h
  simp only [show punctuation? '"' = none from rfl, beq_self_eq_true, if_true] at h
  cases hscan : scanText pos (pos + 1) [] cs with
  | closed s stop =>
    obtain ⟨body, codes, rest, hcs, hspells, -⟩ := spells_of_closed hscan
    exact ⟨body, codes, rest, hcs, hspells⟩
  | faulty p at' =>
    rw [hscan] at h
    exact h.elim

/-! ## The machine -/

section Machine

variable {s s' : State} {t t' : Located} {v : Value}

theorem startValue_of_token {stack : List Frame} (h : startValue stack t = .ok s)
    (ht : t'.token = t.token) : startValue stack t' = .ok s ∧ t.token.Sound := by
  unfold startValue at h ⊢
  rw [ht]
  cases hk : t.token <;> simp_all [Token.Sound]

theorem startEntry_of_token {entries : List (String × Value)} {stack : List Frame}
    (h : startEntry entries stack t = .ok s) (ht : t'.token = t.token) :
    startEntry entries stack t' = .ok s ∧ t.token.Sound := by
  unfold startEntry at h ⊢
  rw [ht]
  cases hk : t.token <;> simp_all [Token.Sound]

/-- Unless a step fails, it looks at the token only, which can be read. -/
theorem step_of_token (h : step s t = .ok s') (ht : t'.token = t.token) :
    step s t' = .ok s' ∧ t.token.Sound := by
  cases s with
  | value stack => exact startValue_of_token h ht
  | firstItem stack =>
    unfold step at h ⊢
    dsimp only at h ⊢
    rw [ht]
    split at h
    · rename_i hk
      rw [hk]
      exact ⟨h, trivial⟩
    · exact startValue_of_token h ht
  | firstKey stack =>
    unfold step at h ⊢
    dsimp only at h ⊢
    rw [ht]
    split at h
    · rename_i hk
      rw [hk]
      exact ⟨h, trivial⟩
    · exact startEntry_of_token h ht
  | key entries stack => exact startEntry_of_token h ht
  | colon entries key stack =>
    unfold step at h ⊢
    rw [ht]
    cases hk : t.token <;> simp_all [Token.Sound]
  | afterItem items stack =>
    unfold step at h ⊢
    rw [ht]
    cases hk : t.token <;> simp_all [Token.Sound]
  | afterEntry entries stack =>
    unfold step at h ⊢
    rw [ht]
    cases hk : t.token <;> simp_all [Token.Sound]
  | complete v => exact absurd h (by simp [step])

/-- **Unless it fails, the machine looks at the tokens only**, and all of them can be read. -/
theorem run_of_tokens {ls ls' : List Located} (h : run s ls = .ok s')
    (ht : ls'.map Located.token = ls.map Located.token) :
    run s ls' = .ok s' ∧ ∀ l ∈ ls, l.token.Sound := by
  induction ls generalizing s ls' with
  | nil =>
    rw [List.map_nil, List.map_eq_nil_iff] at ht
    rw [ht]
    exact ⟨h, by simp⟩
  | cons l ls ih =>
    obtain ⟨l', rest', rfl, htoken, hrest⟩ := List.map_eq_cons_iff.mp ht
    rw [run] at h
    cases hstep : step s l with
    | error e =>
      rw [hstep] at h
      exact absurd h (by simp)
    | ok next =>
      rw [hstep] at h
      obtain ⟨hstep', hsound⟩ := step_of_token hstep htoken
      obtain ⟨hrun, hall⟩ := ih h hrest
      rw [run, hstep']
      exact ⟨hrun, List.forall_mem_cons.mpr ⟨hsound, hall⟩⟩

theorem finish_eq_ok_iff {length : Nat} : finish length s = .ok v ↔ s = .complete v := by
  cases s <;> simp [finish]

/-- A text is read as a value when the machine is led to it by the text's tokens. -/
theorem readText_eq_ok_iff :
    readText cs = .ok v ↔ run (.value []) (tokens cs) = .ok (.complete v) := by
  unfold readText
  cases hrun : run (.value []) (tokens cs) with
  | ok s => simp [finish_eq_ok_iff]
  | error e => simp

/-- Texts with the same tokens are read alike, and every token of a text that is read can be
read. -/
theorem readText_of_cut (h : readText cs = .ok v) :
    (∀ t ∈ cut 0 0 cs, t.Sound) ∧ ∀ cs', cut 0 0 cs' = cut 0 0 cs → readText cs' = .ok v := by
  rw [readText_eq_ok_iff] at h
  refine ⟨fun t ht => ?_, fun cs' hcut => readText_eq_ok_iff.mpr (run_of_tokens h hcut).1⟩
  obtain ⟨l, hl, rfl⟩ := List.mem_map.mp ht
  exact (run_of_tokens h rfl).2 l hl

end Machine

end HealthAlert.Json
