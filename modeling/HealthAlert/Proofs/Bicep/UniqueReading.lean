import HealthAlert.Bicep.Render
import HealthAlert.Proofs.Bicep.Ending
import HealthAlert.Proofs.Decimal.Digits

/-!
# A text has one tree

A tree of truth values, integers and quoted texts can be read back from the right end of its text:
the last character says whether a scalar, an array or an object ends there, and its parts are read
back from the last to the first.

* `Scalar.decided_content`, `Literal.decided_write`: scalars and trees are decided by the end of a
  text.
* **`render_eq_render_iff`**: two documents of such values have the same text only if they are
  equal.
-/

namespace HealthAlert.Bicep

/-! ## Scalars -/

namespace Scalar

/-- A truth value or an integer. -/
def IsWord : Scalar → Prop
  | .bool _ => True
  | .int _ => True
  | _ => False

/-- A truth value, an integer or a quoted text. -/
def Quoted (s : Scalar) : Prop :=
  s.IsWord ∨ ∃ t, s = .text (quote t)

/-- The characters of truth values and integers. -/
def isWordChar (c : Char) : Bool :=
  c.isAlphanum || c == '-'

theorem toList_bool (b : Bool) : (content (.bool b)).toList =
    if b then ['t', 'r', 'u', 'e'] else ['f', 'a', 'l', 's', 'e'] := by
  cases b <;> rfl

theorem IsWord.chars {s : Scalar} (h : s.IsWord) :
    s.content.toList ≠ [] ∧ ∀ c ∈ s.content.toList, isWordChar c = true := by
  cases s with
  | bool b =>
    rw [toList_bool]
    cases b <;> simp [isWordChar]
  | int n =>
    refine ⟨?_, fun c hc => ?_⟩
    · rw [content, Decimal.toList_toString_int]
      exact List.append_ne_nil_of_right_ne_nil _ Nat.toDigits_ne_nil
    · rcases Decimal.isDigit_or_minus_of_mem_toString hc with hd | rfl
      · simp only [isWordChar, Char.isAlphanum, hd, Bool.or_true, Bool.true_or]
      · decide
  | float x => exact h.elim
  | text t => exact h.elim
  | member m => exact h.elim

theorem IsWord.content_inj {s s' : Scalar} (h : s.IsWord) (h' : s'.IsWord)
    (hc : s.content.toList = s'.content.toList) : s = s' := by
  -- The last letter of a truth value is neither a digit nor a minus sign.
  have hletter : ∀ (b : Bool) (n : Int),
      (content (.bool b)).toList ≠ (content (.int n)).toList := by
    intro b n he
    have hmem : 'e' ∈ (content (.int n)).toList := by
      rw [← he, toList_bool]
      cases b <;> decide
    exact absurd (Decimal.isDigit_or_minus_of_mem_toString hmem) (by decide)
  cases s with
  | bool b =>
    cases s' with
    | bool b' =>
      rw [toList_bool, toList_bool] at hc
      revert hc
      cases b <;> cases b' <;> decide
    | int n => exact absurd hc (hletter b n)
    | float x => exact h'.elim
    | text t => exact h'.elim
    | member m => exact h'.elim
  | int n =>
    cases s' with
    | bool b => exact absurd hc.symm (hletter b n)
    | int n' =>
      rw [Decimal.eq_of_toList_toString_int hc]
    | float x => exact h'.elim
    | text t => exact h'.elim
    | member m => exact h'.elim
  | float x => exact h.elim
  | text t => exact h.elim
  | member m => exact h.elim

theorem content_quote (t : String) : (content (.text (quote t))).toList = quoteChars t.toList :=
  toList_quote t

/-- As the only entry of an object the scalar is written no other way. -/
theorem soleContent_of_quoted {s : Scalar} (h : s.Quoted) : s.soleContent = s.content := by
  cases s with
  | member m => rcases h with h | ⟨t, h⟩ <;> cases h
  | _ => rfl

/-- A scalar may end in the character: one of a word, or a closing quote. -/
def isEnd (c : Char) : Bool :=
  isWordChar c || c == '\''

theorem not_gap_of_isEnd {c : Char} (h : isEnd c = true) : ¬ isGap c = true := by
  intro hgap
  simp only [isGap, Bool.or_eq_true, beq_iff_eq] at hgap
  rcases hgap with rfl | rfl <;> exact absurd h (by decide)

theorem Quoted.getLast? {s : Scalar} (h : s.Quoted) :
    ∃ c, s.content.toList.getLast? = some c ∧ isEnd c = true := by
  rcases h with h | ⟨t, rfl⟩
  · obtain ⟨hne, hchars⟩ := h.chars
    refine ⟨_, List.getLast?_eq_some_getLast hne, ?_⟩
    exact Bool.or_eq_true_iff.mpr (Or.inl (hchars _ (List.getLast_mem hne)))
  · exact ⟨'\'', by rw [content_quote, getLast?_quoteChars], rfl⟩

/-- A word and a quoted text do not end alike. -/
theorem word_ne_quoted {s : Scalar} (h : s.IsWord) {cs x y : List Char} :
    x ++ s.content.toList ≠ y ++ quoteChars cs := by
  intro he
  have hlast := getLast?_eq_of_append_eq h.chars.1 (by simp [quoteChars]) he
  rw [getLast?_quoteChars] at hlast
  exact absurd (h.chars.2 _ (List.mem_of_getLast? hlast)) (by decide)

theorem decided_content {s : Scalar} (h : s.Quoted) :
    Decided Quoted (fun s => s.content.toList) s := by
  intro s' h' x y hx hy he
  rcases h with h | ⟨t, rfl⟩ <;> rcases h' with h' | ⟨t', rfl⟩
  · have hword : ∀ {w w' : Scalar}, w.IsWord → ∀ u c,
        w.content.toList = u ++ w'.content.toList → u.getLast? = some c → ¬ isGap c = true :=
      fun hw u c hu hc => not_gap_of_isEnd (Bool.or_eq_true_iff.mpr
        (Or.inl (hw.chars.2 c (hu ▸ List.mem_append_left _ (List.mem_of_getLast? hc)))))
    obtain ⟨hxy, hc⟩ := append_inj_of_getLast? hx hy (hword h) (hword h') he
    exact ⟨hxy, h.content_inj h' hc⟩
  · simp only [content_quote] at he
    exact absurd he (word_ne_quoted h)
  · simp only [content_quote] at he
    exact absurd he.symm (word_ne_quoted h')
  · simp only [content_quote] at he
    obtain ⟨hxy, hc⟩ := decided_quoteChars _ _ trivial x y hx hy he
    exact ⟨hxy, by rw [String.toList_inj.mp hc]⟩

end Scalar

/-! ## Trees -/

namespace Literal

mutual

/-- Every scalar of the tree is a truth value, an integer or a quoted text. -/
def Quoted : Literal → Prop
  | .scalar s => s.Quoted
  | .array items => QuotedItems items
  | .object entries => QuotedEntries entries

/-- The elements are such trees. -/
def QuotedItems : List Literal → Prop
  | [] => True
  | item :: items => Quoted item ∧ QuotedItems items

/-- The values of the entries are such trees. -/
def QuotedEntries : List (String × Literal) → Prop
  | [] => True
  | (_, item) :: entries => Quoted item ∧ QuotedEntries entries

end

theorem quotedItems_iff {items : List Literal} :
    QuotedItems items ↔ ∀ item ∈ items, item.Quoted := by
  induction items with
  | nil => simp [QuotedItems]
  | cons item items ih => simp [QuotedItems, ih]

theorem quotedEntries_iff {entries : List (String × Literal)} :
    QuotedEntries entries ↔ ∀ e ∈ entries, e.2.Quoted := by
  induction entries with
  | nil => simp [QuotedEntries]
  | cons e entries ih => simp [QuotedEntries, ih]

theorem soleContent_of_quotedEntries {entries : List (String × Literal)}
    (h : QuotedEntries entries) (key : String) (s : Scalar) (hs : sole? entries = some (key, s)) :
    s.soleContent = s.content := by
  rw [eq_of_sole? hs] at h
  exact Scalar.soleContent_of_quoted h.1

variable {threshold : Int} {indent : List Char}

theorem isGap_of_mem_gapOf (hi : ∀ c ∈ indent, c = ' ') {isEmpty onOneLine : Bool} :
    ∀ c ∈ gapOf indent isEmpty onOneLine, isGap c = true := by
  intro c hc
  unfold gapOf at hc
  split at hc
  · exact absurd hc List.not_mem_nil
  · split at hc
    · rw [List.mem_singleton.mp hc]
      decide
    · rcases List.mem_cons.mp hc with rfl | hc
      · decide
      · rw [hi c hc]
        decide

/-! ## Reading a tree back -/

/-- The text of a tree may end in the character: as a scalar does, or in a closing bracket. -/
def endsIn : Literal → Char → Bool
  | .scalar _, c => Scalar.isEnd c
  | .array _, c => c == ']'
  | .object _, c => c == '\x7d'

theorem exists_endsIn (threshold : Int) (indent : List Char) {l : Literal} (h : l.Quoted) :
    ∃ c, (write threshold indent l).getLast? = some c ∧ l.endsIn c = true := by
  have hclosing : ∀ (o c : Char) (gap : List Char) (parts : List (List Char)),
      (enclosed o c gap parts).getLast? = some c := by
    intro o c gap parts
    simp [enclosed, List.getLast?_cons, List.getLast?_append]
  cases l with
  | scalar s => exact Scalar.Quoted.getLast? h
  | array items => exact ⟨']', by rw [write_array_eq_enclosed, hclosing], rfl⟩
  | object entries =>
    exact ⟨'\x7d', by rw [write_object_eq_enclosed (soleContent_of_quotedEntries h), hclosing], rfl⟩

/-- Trees whose texts end together are of one kind. -/
theorem endsIn_of_append_eq {l l' : Literal} (h : l.Quoted) (h' : l'.Quoted) {x y : List Char}
    (he : x ++ write threshold indent l = y ++ write threshold indent l') :
    ∃ c, l.endsIn c = true ∧ l'.endsIn c = true := by
  obtain ⟨c, hc, hends⟩ := exists_endsIn threshold indent h
  obtain ⟨c', hc', hends'⟩ := exists_endsIn threshold indent h'
  have hne : ∀ {cs : List Char} {d : Char}, cs.getLast? = some d → cs ≠ [] := by
    rintro cs d hd rfl
    exact absurd hd (by simp)
  have hlast := getLast?_eq_of_append_eq (hne hc) (hne hc') he
  rw [hc, hc'] at hlast
  exact ⟨c, hends, Option.some.inj hlast ▸ hends'⟩

/-- The text of a tree ends in no gap and in no opening bracket. -/
theorem endsBefore_write (threshold : Int) (indent : List Char) {opening : Char}
    (ho : Scalar.isEnd opening = false) (hb : opening ≠ ']') (hc : opening ≠ '\x7d') :
    EndsBefore Quoted (write threshold indent) opening := by
  intro l hl
  obtain ⟨c, hlast, hends⟩ := exists_endsIn threshold indent hl
  refine ⟨c, hlast, ?_⟩
  cases l with
  | scalar s =>
    refine ⟨?_, Scalar.not_gap_of_isEnd hends⟩
    rintro rfl
    exact absurd (ho.symm.trans hends) (by decide)
  | array items =>
    obtain rfl : c = ']' := eq_of_beq hends
    exact ⟨hb.symm, by decide⟩
  | object entries =>
    obtain rfl : c = '\x7d' := eq_of_beq hends
    exact ⟨hc.symm, by decide⟩

theorem endsBefore_writeEntry {opening : Char} (ho : Scalar.isEnd opening = false)
    (hb : opening ≠ ']') (hc : opening ≠ '\x7d') :
    EndsBefore (fun e : String × Literal => e.2.Quoted) (writeEntry threshold indent) opening := by
  intro e he
  obtain ⟨c, hlast, hne⟩ :=
    endsBefore_write threshold indent ho hb hc e.2 he
  refine ⟨c, ?_, hne⟩
  simp [writeEntry, List.getLast?_append, List.getLast?_cons, hlast]

theorem spaces_append_indentStep (hi : ∀ c ∈ indent, c = ' ') :
    ∀ c ∈ indent ++ indentStep, c = ' ' := by
  intro c hc
  rcases List.mem_append.mp hc with hc | hc
  · exact hi c hc
  · rcases List.mem_cons.mp hc with rfl | hc
    · rfl
    · exact List.mem_singleton.mp hc

/-- An entry is read back with its value, and then its key. -/
theorem decided_writeEntry {e : String × Literal}
    (h : Decided Quoted (write threshold indent) e.2) :
    Decided (fun e => e.2.Quoted) (writeEntry threshold indent) e := by
  intro e' he' x y hx hy heq
  have hcolon : ∀ z : List Char, Apart (z ++ [':', ' ']) := by
    intro z c hc
    simp at hc
    subst hc
    decide
  have hvalue : x ++ keyChars e.1.toList ++ [':', ' '] ++ write threshold indent e.2 =
      y ++ keyChars e'.1.toList ++ [':', ' '] ++ write threshold indent e'.2 := by
    simpa [writeEntry] using heq
  obtain ⟨hkeys, hitem⟩ := h e'.2 he' _ _ (hcolon _) (hcolon _) hvalue
  obtain ⟨hxy, hkey⟩ := decided_keyChars _ _ trivial x y hx hy (List.append_cancel_right hkeys)
  exact ⟨hxy, Prod.ext (String.toList_inj.mp hkey) hitem⟩

variable (threshold)

mutual

/-- **A tree is read back from the end of its text**, whatever stands before it. -/
theorem decided_write {indent : List Char} (hi : ∀ c ∈ indent, c = ' ') :
    ∀ l : Literal, l.Quoted → Decided Quoted (write threshold indent) l
  | .scalar s, h => by
    intro l' h' x y hx hy he
    obtain ⟨c, hc, hc'⟩ := endsIn_of_append_eq h h' he
    cases l' with
    | scalar s' =>
      obtain ⟨hxy, hs⟩ := Scalar.decided_content h s' h' x y hx hy he
      exact ⟨hxy, congrArg Literal.scalar hs⟩
    | array items' =>
      obtain rfl : c = ']' := eq_of_beq hc'
      exact absurd hc Bool.false_ne_true
    | object entries' =>
      obtain rfl : c = '\x7d' := eq_of_beq hc'
      exact absurd hc Bool.false_ne_true
  | .array items, h => by
    intro l' h' x y _ _ he
    obtain ⟨c, hc, hc'⟩ := endsIn_of_append_eq h h' he
    obtain rfl : c = ']' := eq_of_beq hc
    cases l' with
    | scalar s' => exact absurd hc' Bool.false_ne_true
    | array items' =>
      have hi' : ∀ c ∈ indent ++ indentStep, c = ' ' := spaces_append_indentStep hi
      rw [write_array_eq_enclosed, write_array_eq_enclosed] at he
      obtain ⟨hxy, hitems⟩ := append_enclosed_inj
        (endsBefore_write _ _ rfl (by decide) (by decide)) (by decide)
        (quotedItems_iff.mp h) (quotedItems_iff.mp h') (decided_items hi' items h)
        (isGap_of_mem_gapOf hi) (isGap_of_mem_gapOf hi)
        (fun hg => List.isEmpty_iff.mp (isEmpty_of_gapOf_eq_nil hg))
        (fun hg => List.isEmpty_iff.mp (isEmpty_of_gapOf_eq_nil hg)) he
      exact ⟨hxy, congrArg Literal.array hitems⟩
    | object entries' => exact absurd hc' Bool.false_ne_true
  | .object entries, h => by
    intro l' h' x y _ _ he
    obtain ⟨c, hc, hc'⟩ := endsIn_of_append_eq h h' he
    obtain rfl : c = '\x7d' := eq_of_beq hc
    cases l' with
    | scalar s' => exact absurd hc' Bool.false_ne_true
    | array items' => exact absurd hc' Bool.false_ne_true
    | object entries' =>
      have hi' : ∀ c ∈ indent ++ indentStep, c = ' ' := spaces_append_indentStep hi
      rw [write_object_eq_enclosed (soleContent_of_quotedEntries h),
        write_object_eq_enclosed (soleContent_of_quotedEntries h')] at he
      obtain ⟨hxy, hentries⟩ := append_enclosed_inj
        (endsBefore_writeEntry rfl (by decide) (by decide)) (by decide)
        (quotedEntries_iff.mp h) (quotedEntries_iff.mp h')
        (fun e he => decided_writeEntry (decided_entries hi' entries h e he))
        (isGap_of_mem_gapOf hi) (isGap_of_mem_gapOf hi)
        (fun hg => List.isEmpty_iff.mp (isEmpty_of_gapOf_eq_nil hg))
        (fun hg => List.isEmpty_iff.mp (isEmpty_of_gapOf_eq_nil hg)) he
      exact ⟨hxy, congrArg Literal.object hentries⟩

theorem decided_items {indent : List Char} (hi : ∀ c ∈ indent, c = ' ') :
    ∀ items : List Literal, QuotedItems items →
      ∀ item ∈ items, Decided Quoted (write threshold indent) item
  | [], _ => fun _ hm => absurd hm List.not_mem_nil
  | item :: items, h => List.forall_mem_cons.mpr
      ⟨decided_write hi item h.1, decided_items hi items h.2⟩

theorem decided_entries {indent : List Char} (hi : ∀ c ∈ indent, c = ' ') :
    ∀ entries : List (String × Literal), QuotedEntries entries →
      ∀ e ∈ entries, Decided Quoted (write threshold indent) e.2
  | [], _ => fun _ hm => absurd hm List.not_mem_nil
  | (_, item) :: entries, h => List.forall_mem_cons.mpr
      ⟨decided_write hi item h.1, decided_entries hi entries h.2⟩

end

/-- Trees with the same text are equal. -/
theorem text_inj {indent : String} (hi : ∀ c ∈ indent.toList, c = ' ') {l l' : Literal}
    (h : l.Quoted) (h' : l'.Quoted) (he : l.text indent threshold = l'.text indent threshold) :
    l = l' := by
  have hchars := String.ofList_injective he
  have hnil : Apart [] := fun c hc => absurd hc (by simp)
  exact (decided_write threshold hi l h l' h' [] [] hnil hnil hchars).2

/-! ## Values -/

mutual

/-- The value that a tree stands for. -/
def toValue : Literal → Value
  | .scalar (.bool b) => .bool b
  | .scalar (.int n) => .int n
  | .scalar (.float x) => .float x
  | .scalar (.text s) => .text s
  | .scalar (.member m) => .member m
  | .array items => .list (toValues items)
  | .object entries => .record (toMembers entries)

/-- The elements that trees stand for. -/
def toValues : List Literal → List Value
  | [] => []
  | item :: items => toValue item :: toValues items

/-- The entries that trees stand for. -/
def toMembers : List (String × Literal) → List (String × Value)
  | [] => []
  | (key, item) :: entries => (key, toValue item) :: toMembers entries

end

end Literal

mutual

/-- The value is built from truth values, integers, quoted texts, lists and records. -/
def QuotedDocument : Value → Prop
  | .bool _ => True
  | .int _ => True
  | .text t => ∃ s, t = quote s
  | .list items => QuotedElements items
  | .record entries => QuotedMembers entries
  | _ => False

/-- The elements are such values. -/
def QuotedElements : List Value → Prop
  | [] => True
  | v :: vs => QuotedDocument v ∧ QuotedElements vs

/-- The entries hold such values, under any keys. -/
def QuotedMembers : List (String × Value) → Prop
  | [] => True
  | (_, v) :: es => QuotedDocument v ∧ QuotedMembers es

end

mutual

/-- Such a value is a tree that stands for it. -/
theorem exists_literal : ∀ v : Value, QuotedDocument v →
    ∃ l, Literal.ofValue? v = .ok l ∧ l.Quoted ∧ l.toValue = v
  | .bool b, _ => ⟨.scalar (.bool b), rfl, Or.inl trivial, rfl⟩
  | .int n, _ => ⟨.scalar (.int n), rfl, Or.inl trivial, rfl⟩
  | .text t, h => ⟨.scalar (.text t), rfl, Or.inr (h.imp fun _ hs => congrArg _ hs), rfl⟩
  | .list items, h => by
    obtain ⟨ls, hls, hquoted, hvalues⟩ := exists_literals items h
    exact ⟨.array ls, by rw [Literal.ofValue?, hls]; rfl, hquoted,
      by rw [Literal.toValue, hvalues]⟩
  | .record entries, h => by
    obtain ⟨ls, hls, hquoted, hvalues⟩ := exists_literalEntries entries h
    exact ⟨.object ls, by rw [Literal.ofValue?, hls]; rfl, hquoted,
      by rw [Literal.toValue, hvalues]⟩

theorem exists_literals : ∀ vs : List Value, QuotedElements vs →
    ∃ ls, Literal.ofItems? vs = .ok ls ∧ Literal.QuotedItems ls ∧ Literal.toValues ls = vs
  | [], _ => ⟨[], rfl, trivial, rfl⟩
  | v :: vs, h => by
    obtain ⟨l, hl, hquoted, hvalue⟩ := exists_literal v h.1
    obtain ⟨ls, hls, hquoteds, hvalues⟩ := exists_literals vs h.2
    exact ⟨l :: ls, by rw [Literal.ofItems?, hl, hls]; rfl, ⟨hquoted, hquoteds⟩,
      by rw [Literal.toValues, hvalue, hvalues]⟩

theorem exists_literalEntries : ∀ es : List (String × Value), QuotedMembers es →
    ∃ ls, Literal.ofEntries? es = .ok ls ∧ Literal.QuotedEntries ls ∧ Literal.toMembers ls = es
  | [], _ => ⟨[], rfl, trivial, rfl⟩
  | (key, v) :: es, h => by
    obtain ⟨l, hl, hquoted, hvalue⟩ := exists_literal v h.1
    obtain ⟨ls, hls, hquoteds, hvalues⟩ := exists_literalEntries es h.2
    exact ⟨(key, l) :: ls, by rw [Literal.ofEntries?, hl, hls]; rfl, ⟨hquoted, hquoteds⟩,
      by rw [Literal.toMembers, hvalue, hvalues]⟩

end

/-- **No two documents have the same text.** Every document of truth values, integers and quoted
texts has a text, and two of them have the same text only if they are equal, with the order of
their entries. -/
theorem render_eq_render_iff {indent : String} (hi : ∀ c ∈ indent.toList, c = ' ')
    (threshold : Int) {v w : Value} (hv : QuotedDocument v) (hw : QuotedDocument w) :
    ∃ t u, render indent threshold v = .ok t ∧ render indent threshold w = .ok u ∧
      (t = u ↔ v = w) := by
  obtain ⟨l, hl, hquoted, rfl⟩ := exists_literal v hv
  obtain ⟨l', hl', hquoted', rfl⟩ := exists_literal w hw
  refine ⟨l.text indent threshold, l'.text indent threshold, ?_, ?_, fun he => ?_, fun he => ?_⟩
  · rw [render, hl]
    rfl
  · rw [render, hl']
    rfl
  · rw [Literal.text_inj threshold hi hquoted hquoted' he]
  · have htrees := hl.symm.trans ((congrArg Literal.ofValue? he).trans hl')
    rw [Except.ok.inj htrees]

/-- Two texts, of which the first ends in a backslash. -/
def twoTexts : Value :=
  .record [("in\n", .list [.text (quote "a\\"), .text (quote "b\n")])]

/-- One text that looks like the two. -/
def oneText : Value :=
  .record [("in\n", .list [.text (quote "a' 'b\n")])]

theorem render_twoTexts_ne_oneText :
    ∃ t u, render "  " 2 twoTexts = .ok t ∧ render "  " 2 oneText = .ok u ∧ t ≠ u := by
  have hindent : ∀ c ∈ "  ".toList, c = ' ' := by simp
  have htwo : QuotedDocument twoTexts := ⟨⟨⟨_, rfl⟩, ⟨_, rfl⟩, trivial⟩, trivial⟩
  have hone : QuotedDocument oneText := ⟨⟨⟨_, rfl⟩, trivial⟩, trivial⟩
  obtain ⟨t, u, ht, hu, hiff⟩ := render_eq_render_iff hindent 2 htwo hone
  refine ⟨t, u, ht, hu, fun he => ?_⟩
  have hentry := (List.cons.inj (Value.record.inj (hiff.mp he))).1
  have hlists := Value.list.inj (Prod.mk.inj hentry).2
  exact absurd (congrArg List.length hlists) (by decide)

end HealthAlert.Bicep
