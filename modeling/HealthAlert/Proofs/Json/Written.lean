import HealthAlert.Proofs.Json.Numbers
import HealthAlert.Proofs.Value.Keyed

/-!
# The tokens of what is written

Both ways to write a value give the same tokens (`spelling`), with different white space between
them. A mode and a foreign value give the tokens of a text, and a tuple those of a list.

* `Value.WellFormed`: the values that a program can hold.
* `Cuts`: the tokens that characters give, whatever stands around them.
* **`cuts_writeChars`**: what is written on one line gives the tokens of the value.
* **`cuts_indentedChars`**: so does what is written over several lines.
-/

namespace HealthAlert

/-! ## Values -/

namespace Value

mutual

/-- The value is one that a program can hold: its numbers with a fraction are numbers of 64 bits,
and no record repeats a key. -/
def WellFormed : Value → Prop
  | .float x => x.WellFormed
  | .list vs => AllWellFormed vs
  | .tuple vs => AllWellFormed vs
  | .record es => (Keyed.keys es).Nodup ∧ HoldWellFormed es
  | .null | .bool _ | .int _ | .text _ | .member _ | .foreign _ => True

/-- All values of a list are well formed. -/
def AllWellFormed : List Value → Prop
  | [] => True
  | v :: vs => WellFormed v ∧ AllWellFormed vs

/-- The values of all fields are well formed. -/
def HoldWellFormed : List (String × Value) → Prop
  | [] => True
  | (_, v) :: es => WellFormed v ∧ HoldWellFormed es

end

theorem allWellFormed_iff {vs : List Value} : AllWellFormed vs ↔ ∀ v ∈ vs, v.WellFormed := by
  induction vs with
  | nil => simp [AllWellFormed]
  | cons v vs ih => simp [AllWellFormed, ih]

theorem holdWellFormed_iff {es : List (String × Value)} :
    HoldWellFormed es ↔ ∀ e ∈ es, e.2.WellFormed := by
  induction es with
  | nil => simp [HoldWellFormed]
  | cons e es ih => simp [HoldWellFormed, ih]

/-- A record stays well formed when a field is set. -/
theorem wellFormed_put {es : List (String × Value)} {v : Value} (hes : WellFormed (.record es))
    (key : String) (hv : v.WellFormed) : WellFormed (.record (Keyed.put es key v)) := by
  obtain ⟨hkeys, hfields⟩ := hes
  rw [holdWellFormed_iff] at hfields
  refine ⟨Keyed.nodup_keys_put hkeys key v, holdWellFormed_iff.mpr fun e he => ?_⟩
  rcases Keyed.mem_put he with he | rfl
  · exact hfields e he
  · exact hv

end Value

namespace Json

/-! ## Tokens of values -/

mutual

/-- The tokens of a value. -/
def spelling : Value → List Token
  | .list xs => .openBracket :: (itemsSpelling xs ++ [.closeBracket])
  | .tuple xs => .openBracket :: (itemsSpelling xs ++ [.closeBracket])
  | .record es => .openBrace :: (entriesSpelling es ++ [.closeBrace])
  | .text s => [.text s]
  | .member m => [.text m.text]
  | .foreign k => [.text k.display]
  | .int n => [integerToken n]
  | .null => [.word .null]
  | .bool b => [.word (.bool b)]
  | .float x => [.word (.float x)]

/-- The tokens of values with commas between them. -/
def itemsSpelling : List Value → List Token
  | [] => []
  | [x] => spelling x
  | x :: xs => spelling x ++ .comma :: itemsSpelling xs

/-- The tokens of entries with commas between them. -/
def entriesSpelling : List (String × Value) → List Token
  | [] => []
  | [(k, v)] => .text k :: .colon :: spelling v
  | (k, v) :: es => .text k :: .colon :: (spelling v ++ .comma :: entriesSpelling es)

end

/-! ## From characters to tokens -/

/-- The characters give the tokens, wherever they stand and whatever follows that does not go on
with a number. -/
def Cuts (cs : List Char) (ts : List Token) : Prop :=
  ∀ pos rest, Delimited rest → cut pos 0 (cs ++ rest) = ts ++ cut (pos + cs.length) 0 rest

variable {cs front : List Char} {ts us : List Token} {c : Char} {t : Token}

theorem delimited_nil : Delimited [] := fun _ h => nomatch h

theorem Delimited.append (h : Delimited cs) {rest : List Char} (h' : Delimited rest) :
    Delimited (cs ++ rest) := by
  cases cs with
  | nil => exact h'
  | cons c cs => exact h

theorem Cuts.cut_eq (h : Cuts cs ts) : cut 0 0 cs = ts := by
  have hcut := h 0 [] delimited_nil
  rwa [List.append_nil, cut_nil, List.append_nil] at hcut

theorem cuts_nil : Cuts [] [] := fun _ _ _ => rfl

theorem Cuts.append (h : Cuts front ts) (h' : Cuts cs us) (hd : Delimited cs) :
    Cuts (front ++ cs) (ts ++ us) := by
  intro pos rest hrest
  rw [List.append_assoc, h pos _ (hd.append hrest), h' _ _ hrest, List.append_assoc,
    List.length_append, Nat.add_assoc]

theorem Cuts.punctuation (hp : punctuation? c = some t) (hs : isSpace c = false) (h : Cuts cs ts) :
    Cuts (c :: cs) (t :: ts) := by
  intro pos rest hrest
  rw [List.cons_append, cut_token hs, tokenAt_of_punctuation hp, List.drop_zero, h _ _ hrest,
    List.length_cons]
  simp only [List.cons_append, Nat.add_zero, Nat.add_comm 1, Nat.add_assoc]

theorem Cuts.space (hs : isSpace c = true) (h : Cuts cs ts) : Cuts (c :: cs) ts := by
  intro pos rest hrest
  rw [List.cons_append, cut_space hs, h _ _ hrest, List.length_cons, Nat.add_right_comm,
    Nat.add_assoc]

theorem Cuts.spaces (hs : ∀ c ∈ front, isSpace c = true) (h : Cuts cs ts) :
    Cuts (front ++ cs) ts := by
  induction front with
  | nil => exact h
  | cons c front ih =>
    rw [List.forall_mem_cons] at hs
    exact (ih hs.2).space hs.1

/-- A text needs nothing that keeps it apart from what follows. -/
theorem Cuts.text (asciiOnly : Bool) (s : String) (h : Cuts cs ts) :
    Cuts (writeText asciiOnly s ++ cs) (.text s :: ts) := by
  intro pos rest hrest
  obtain ⟨body, hbody, htoken⟩ := tokenAt_writeText asciiOnly s pos (cs ++ rest)
  have hdrop : (body ++ '"' :: (cs ++ rest)).drop (body.length + 1) = cs ++ rest := by
    rw [List.append_cons]
    exact List.drop_left' (by simp)
  have hchars : writeText asciiOnly s ++ cs ++ rest = '"' :: (body ++ '"' :: (cs ++ rest)) := by
    rw [hbody]
    simp
  rw [hchars, cut_token rfl, htoken]
  dsimp only
  rw [hdrop, h _ _ hrest, hbody]
  simp only [List.cons_append, List.length_cons, List.length_append, List.length_nil]
  congr 3
  omega

/-- A number or a word is one token, if it is recognized as such. -/
theorem cuts_word (hc : punctuation? c = none) (hq : c ≠ '"') (hs : isSpace c = false)
    (h : ∀ rest, Delimited rest → wordToken (c :: (cs ++ rest)) = (t, cs.length)) :
    Cuts (c :: cs) [t] := by
  intro pos rest hrest
  rw [List.cons_append, cut_token hs, tokenAt_word hc hq, h rest hrest]
  simp only [List.drop_left, List.cons_append, List.nil_append, List.length_cons, Nat.add_assoc,
    Nat.add_comm 1]

/-- A digit and the minus sign start no other token than a number or a word. -/
theorem plain_of_isDigit (h : c.isDigit = true ∨ c = '-') :
    punctuation? c = none ∧ c ≠ '"' ∧ isSpace c = false := by
  rcases h with h | rfl
  · have hne (x : Char) (hx : x.isDigit = false) : (c == x) = false := by
      refine beq_false_of_ne ?_
      rintro rfl
      exact absurd (h.symm.trans hx) (by simp)
    refine ⟨?_, ne_of_beq_false (hne '"' rfl), ?_⟩
    · simp only [punctuation?, hne '[' rfl, hne ']' rfl, hne '\x7b' rfl, hne '\x7d' rfl,
        hne ',' rfl, hne ':' rfl, Bool.false_eq_true, if_false]
    · simp only [isSpace, hne ' ' rfl, hne '\t' rfl, hne '\n' rfl, hne '\r' rfl, Bool.or_false]
  · exact ⟨rfl, by decide, rfl⟩

/-- The text of a number gives its token. -/
theorem cuts_chars {n : NumberText} (hn : n.Regular) : Cuts n.chars [n.token] := by
  have hword (rest : List Char) (hrest : Delimited rest) := wordToken_chars hn hrest
  obtain ⟨d, ds, hds⟩ : ∃ d ds, n.whole = d :: ds := List.exists_cons_of_ne_nil hn.whole.ne_nil
  have hfirst : ∃ c cs, n.chars = c :: cs ∧ (c.isDigit = true ∨ c = '-') := by
    unfold NumberText.chars
    rw [hds]
    split
    · exact ⟨'-', _, rfl, Or.inr rfl⟩
    · exact ⟨d, _, rfl, Or.inl (hn.whole.digits d (hds ▸ List.mem_cons_self))⟩
  obtain ⟨c, cs, hcs, hc⟩ := hfirst
  rw [hcs] at hword ⊢
  obtain ⟨hp, hq, hs⟩ := plain_of_isDigit hc
  exact cuts_word hp hq hs hword

theorem cuts_int (n : Int) : Cuts (toString n).toList [integerToken n] := by
  rw [← chars_integerText, ← token_integerText]
  exact cuts_chars (regular_integerText n)

theorem cuts_writeDouble {x : Double} (hx : x.WellFormed) :
    Cuts (writeDouble x) [.word (.float x)] := by
  cases x with
  | nan => exact cuts_word (c := 'N') rfl (by decide) rfl fun _ _ => rfl
  | infinite negative =>
    cases negative with
    | false => exact cuts_word (c := 'I') rfl (by decide) rfl fun _ _ => rfl
    | true => exact cuts_word (c := '-') rfl (by decide) rfl fun _ _ => rfl
  | finite negative m e =>
    obtain ⟨hregular, htoken⟩ := token_finiteParts negative hx
    have hcuts := cuts_chars hregular
    rwa [htoken, chars_finiteParts] at hcuts

theorem cuts_writeText (asciiOnly : Bool) (s : String) :
    Cuts (writeText asciiOnly s) [.text s] := by
  have hcuts := cuts_nil.text asciiOnly s
  rwa [List.append_nil] at hcuts

theorem cuts_writeLeaf (asciiOnly : Bool) {v : Value} (hv : v.WellFormed)
    (hl : ∀ xs, v ≠ .list xs) (ht : ∀ xs, v ≠ .tuple xs) (hr : ∀ es, v ≠ .record es) :
    Cuts (writeLeaf asciiOnly v) (spelling v) := by
  cases v with
  | null => exact cuts_word (c := 'n') rfl (by decide) rfl fun _ _ => rfl
  | bool b =>
    cases b with
    | false => exact cuts_word (c := 'f') rfl (by decide) rfl fun _ _ => rfl
    | true => exact cuts_word (c := 't') rfl (by decide) rfl fun _ _ => rfl
  | int n => exact cuts_int n
  | float x => exact cuts_writeDouble hv
  | text s => exact cuts_writeText asciiOnly s
  | member m => exact cuts_writeText asciiOnly m.text
  | foreign k => exact cuts_writeText asciiOnly k.display
  | list xs => exact absurd rfl (hl xs)
  | tuple xs => exact absurd rfl (ht xs)
  | record es => exact absurd rfl (hr es)

/-! ### On one line -/

/-- A separator: a character, and perhaps white space. -/
def Separates (separator : List Char) (c : Char) : Prop :=
  ∃ blanks, separator = c :: blanks ∧ ∀ b ∈ blanks, isSpace b = true

/-- The separators of the style are those of the format, with white space at most. -/
structure Style.Regular (style : Style) : Prop where
  items : Separates style.itemSeparator ','
  keys : Separates style.keySeparator ':'

theorem regular_spaced : spaced.Regular :=
  ⟨⟨[' '], rfl, by simp [isSpace]⟩, ⟨[' '], rfl, by simp [isSpace]⟩⟩

theorem regular_compact : compact.Regular :=
  ⟨⟨[], rfl, by simp⟩, ⟨[], rfl, by simp⟩⟩

theorem Cuts.separator {separator : List Char} (hs : Separates separator c)
    (hp : punctuation? c = some t) (hc : isSpace c = false) (h : Cuts cs ts) :
    Cuts (separator ++ cs) (t :: ts) := by
  obtain ⟨blanks, rfl, hblanks⟩ := hs
  exact (h.spaces hblanks).punctuation hp hc

theorem delimited_separator {separator : List Char} (hs : Separates separator c)
    (hc : Delimited [c]) : Delimited (separator ++ cs) := by
  obtain ⟨blanks, rfl, -⟩ := hs
  exact hc

mutual

/-- **What is written on one line gives the tokens of the value.** -/
theorem cuts_writeChars {style : Style} (hr : style.Regular) :
    ∀ {v : Value}, v.WellFormed → Cuts (writeChars style v) (spelling v)
  | .list _, hv | .tuple _, hv =>
    ((cuts_writeItems hr hv).append (cuts_nil.punctuation rfl rfl)
      (by simp [Delimited])).punctuation rfl rfl
  | .record _, hv =>
    ((cuts_writeEntries hr hv.2).append (cuts_nil.punctuation rfl rfl)
      (by simp [Delimited])).punctuation rfl rfl
  | .null, hv | .bool _, hv | .int _, hv | .float _, hv | .text _, hv | .member _, hv
  | .foreign _, hv =>
    cuts_writeLeaf style.asciiOnly hv (by simp) (by simp) (by simp)

theorem cuts_writeItems {style : Style} (hr : style.Regular) :
    ∀ {xs : List Value}, Value.AllWellFormed xs → Cuts (writeItems style xs) (itemsSpelling xs)
  | [], _ => cuts_nil
  | [_], h => cuts_writeChars hr h.1
  | _ :: y :: xs, h =>
    (cuts_writeChars hr h.1).append ((cuts_writeItems hr h.2).separator hr.items rfl rfl)
      (delimited_separator hr.items (by simp [Delimited]))

theorem cuts_writeEntries {style : Style} (hr : style.Regular) :
    ∀ {es : List (String × Value)}, Value.HoldWellFormed es →
      Cuts (writeEntries style es) (entriesSpelling es)
  | [], _ => cuts_nil
  | [(_, _)], h => ((cuts_writeChars hr h.1).separator hr.keys rfl rfl).text _ _
  | (_, _) :: e :: es, h =>
    (((cuts_writeChars hr h.1).append ((cuts_writeEntries hr h.2).separator hr.items rfl rfl)
      (delimited_separator hr.items (by simp [Delimited]))).separator hr.keys rfl rfl).text _ _

end

/-! ### Over several lines -/

theorem isSpace_of_mem_lineBreak {depth : Nat} : ∀ b ∈ lineBreak depth, isSpace b = true :=
  List.forall_mem_cons.mpr ⟨rfl, fun _ hb => by rw [List.eq_of_mem_replicate hb]; rfl⟩

theorem delimited_lineBreak (depth : Nat) : Delimited (lineBreak depth ++ cs) := by
  simp [Delimited, lineBreak]

/-- A closing character on its own line. -/
theorem Cuts.closed (h : Cuts front ts) (depth : Nat) (hp : punctuation? c = some t)
    (hs : isSpace c = false) : Cuts (front ++ (lineBreak depth ++ [c])) (ts ++ [t]) :=
  h.append ((cuts_nil.punctuation hp hs).spaces isSpace_of_mem_lineBreak)
    (delimited_lineBreak depth)

mutual

/-- **What is written over several lines gives the tokens of the value.** -/
theorem cuts_indentedChars (depth : Nat) :
    ∀ {v : Value}, v.WellFormed → Cuts (indentedChars depth v) (spelling v)
  | .list [], _ | .tuple [], _ | .record [], _ =>
    (cuts_nil.punctuation rfl rfl).punctuation rfl rfl
  | .list (_ :: _), hv | .tuple (_ :: _), hv =>
    ((cuts_indentedItems (depth + 1) hv).closed depth rfl rfl).punctuation rfl rfl
  | .record (_ :: _), hv =>
    ((cuts_indentedEntries (depth + 1) hv.2).closed depth rfl rfl).punctuation rfl rfl
  | .null, hv | .bool _, hv | .int _, hv | .float _, hv | .text _, hv | .member _, hv
  | .foreign _, hv =>
    cuts_writeLeaf true hv (by simp) (by simp) (by simp)

theorem cuts_indentedItems (depth : Nat) :
    ∀ {xs : List Value}, Value.AllWellFormed xs → Cuts (indentedItems depth xs) (itemsSpelling xs)
  | [], _ => cuts_nil
  | [_], h => (cuts_indentedChars depth h.1).spaces isSpace_of_mem_lineBreak
  | _ :: y :: xs, h =>
    ((cuts_indentedChars depth h.1).append ((cuts_indentedItems depth h.2).punctuation rfl rfl)
      (by simp [Delimited])).spaces isSpace_of_mem_lineBreak

theorem cuts_indentedEntries (depth : Nat) :
    ∀ {es : List (String × Value)}, Value.HoldWellFormed es →
      Cuts (indentedEntries depth es) (entriesSpelling es)
  | [], _ => cuts_nil
  | [(_, _)], h =>
    ((((cuts_indentedChars depth h.1).space rfl).punctuation rfl rfl).text true _).spaces
      isSpace_of_mem_lineBreak
  | (_, _) :: e :: es, h =>
    (((((cuts_indentedChars depth h.1).append
      ((cuts_indentedEntries depth h.2).punctuation rfl rfl)
        (by simp [Delimited])).space rfl).punctuation rfl rfl).text true _).spaces
          isSpace_of_mem_lineBreak

end

end Json

end HealthAlert
