import HealthAlert.Proofs.Bicep.Skeleton
import Mathlib.Data.List.Basic
import Mathlib.Data.List.Induction

/-!
# The part that ends a text

Backslashes are not escaped, so from the left a quoted text may look as if it went on: `'a\' 'b'`
starts like the one text `a' ` and is two. From the right there is no doubt. Every quote inside a
quoted text has a backslash before it, and the opening quote never has one: before it stands a
space, a line break or nothing. So the end of a text says which part was written last and where
that part starts.

`Decided S f a` states it of one part: behind a gap, no other part of the kind `S` ends a text as
`a` does when `f` writes it.

* `decided_quoteChars`, `decided_keyChars`: quoted texts and keys, whatever their characters.
* `append_enclosed_inj`: decided parts between brackets are read back, whatever the layout.
-/

namespace HealthAlert.Bicep

/-! ## Where a part starts -/

/-- A space or a line break. -/
def isGap (c : Char) : Bool :=
  c == ' ' || c == '\n'

/-- Nothing, or characters that end in a gap. -/
def Apart (cs : List Char) : Prop :=
  ∀ c, cs.getLast? = some c → isGap c = true

theorem apart_append {gap : List Char} (hne : gap ≠ []) (h : ∀ c ∈ gap, isGap c = true)
    (cs : List Char) : Apart (cs ++ gap) := by
  intro c hc
  rw [List.getLast?_append_of_ne_nil _ hne] at hc
  exact h c (List.mem_of_getLast? hc)

/-- What stands before the cut of two equal texts is the same when it ends in a `Q` and what
stands behind the cut cannot give up an end in `Q` to it. -/
theorem append_inj_of_getLast? {Q : Char → Prop} {x y a b : List Char}
    (hx : ∀ c, x.getLast? = some c → Q c) (hy : ∀ c, y.getLast? = some c → Q c)
    (ha : ∀ u c, a = u ++ b → u.getLast? = some c → ¬ Q c)
    (hb : ∀ u c, b = u ++ a → u.getLast? = some c → ¬ Q c)
    (h : x ++ a = y ++ b) : x = y ∧ a = b := by
  rcases List.append_eq_append_iff.mp h with ⟨u, rfl, hu⟩ | ⟨u, rfl, hu⟩
  · cases hl : u.getLast? with
    | none =>
      obtain rfl := List.getLast?_eq_none_iff.mp hl
      exact ⟨(List.append_nil x).symm, hu⟩
    | some c => exact absurd (hy c (by simp [List.getLast?_append, hl])) (ha u c hu hl)
  · cases hl : u.getLast? with
    | none =>
      obtain rfl := List.getLast?_eq_none_iff.mp hl
      exact ⟨List.append_nil y, hu.symm⟩
    | some c => exact absurd (hx c (by simp [List.getLast?_append, hl])) (hb u c hu hl)

/-- Two texts that are equal end in the same character. -/
theorem getLast?_eq_of_append_eq {x y a b : List Char} (ha : a ≠ []) (hb : b ≠ [])
    (h : x ++ a = y ++ b) : a.getLast? = b.getLast? := by
  have hlast := congrArg List.getLast? h
  rwa [List.getLast?_append_of_ne_nil _ ha, List.getLast?_append_of_ne_nil _ hb] at hlast

section Deciding

variable {α : Type} {S : α → Prop} {f : α → List Char}

/-- Behind a gap, no other part of the kind `S` ends a text as `a` does. -/
def Decided (S : α → Prop) (f : α → List Char) (a : α) : Prop :=
  ∀ b, S b → ∀ x y, Apart x → Apart y → x ++ f a = y ++ f b → x = y ∧ a = b

/-! ## Quoted texts -/

/-- Before every quote of a quoted text stands the backslash of its escape. -/
theorem getLast?_of_escapeQuotes {cs u v : List Char} (h : escapeQuotes cs = u ++ '\'' :: v) :
    u.getLast? = some '\\' := by
  induction cs generalizing u with
  | nil => exact absurd h (by simp [escapeQuotes])
  | cons c cs ih =>
    by_cases hq : c = '\''
    · subst hq
      rw [escapeQuotes_quote] at h
      rcases u with _ | ⟨d, _ | ⟨e, u⟩⟩
      · exact absurd (List.cons.inj h).1 (by decide)
      · rw [← (List.cons.inj h).1]
        rfl
      · have hrest := ih (List.cons.inj (List.cons.inj h).2).2
        rw [List.getLast?_cons, List.getLast?_cons, hrest]
        rfl
    · rw [escapeQuotes_cons hq] at h
      rcases u with _ | ⟨d, u⟩
      · exact absurd (List.cons.inj h).1 hq
      · have hrest := ih (List.cons.inj h).2
        rw [List.getLast?_cons, hrest]
        rfl

theorem escapeQuotes_inj {cs ds : List Char} (h : escapeQuotes cs = escapeQuotes ds) :
    cs = ds := by
  -- A quote behind nothing would stand without its backslash.
  have hquote : ∀ es fs, '\'' :: escapeQuotes es ≠ escapeQuotes fs := fun es fs he =>
    absurd (getLast?_of_escapeQuotes (u := []) he.symm) (by simp)
  induction cs generalizing ds with
  | nil =>
    cases ds with
    | nil => rfl
    | cons d ds =>
      by_cases hd : d = '\''
      · subst hd
        exact absurd h (by simp [escapeQuotes])
      · rw [escapeQuotes_cons hd] at h
        exact absurd h (by simp [escapeQuotes])
  | cons c cs ih =>
    cases ds with
    | nil =>
      by_cases hc : c = '\''
      · subst hc
        exact absurd h (by simp [escapeQuotes])
      · rw [escapeQuotes_cons hc] at h
        exact absurd h (by simp [escapeQuotes])
    | cons d ds =>
      by_cases hc : c = '\'' <;> by_cases hd : d = '\''
      · subst hc hd
        rw [escapeQuotes_quote, escapeQuotes_quote] at h
        rw [ih (List.cons.inj (List.cons.inj h).2).2]
      · subst hc
        rw [escapeQuotes_quote, escapeQuotes_cons hd] at h
        exact absurd (List.cons.inj h).2 (hquote cs ds)
      · subst hd
        rw [escapeQuotes_quote, escapeQuotes_cons hc] at h
        exact absurd (List.cons.inj h).2.symm (hquote ds cs)
      · rw [escapeQuotes_cons hc, escapeQuotes_cons hd] at h
        obtain ⟨rfl, htail⟩ := List.cons.inj h
        rw [ih htail]

theorem quoteChars_inj {cs ds : List Char} (h : quoteChars cs = quoteChars ds) : cs = ds :=
  escapeQuotes_inj (List.append_cancel_right (List.cons.inj h).2)

/-- Different texts are quoted differently, whatever their characters. -/
theorem quote_inj {s t : String} : quote s = quote t ↔ s = t := by
  refine ⟨fun h => ?_, congrArg quote⟩
  have hchars := congrArg String.toList h
  rw [toList_quote, toList_quote] at hchars
  exact String.toList_inj.mp (quoteChars_inj hchars)

theorem getLast?_quoteChars (cs : List Char) : (quoteChars cs).getLast? = some '\'' := by
  simp [quoteChars, List.getLast?_cons, List.getLast?_append]

/-- What a quoted text gives up before another one ends in a backslash. -/
theorem not_gap_of_quoteChars {cs ds u : List Char} {c : Char}
    (h : quoteChars cs = u ++ quoteChars ds) (hc : u.getLast? = some c) : ¬ isGap c = true := by
  cases u with
  | nil => exact absurd hc (by simp)
  | cons d u =>
    have htail : escapeQuotes cs ++ ['\''] = u ++ '\'' :: escapeQuotes ds ++ ['\''] := by
      simpa [quoteChars] using (List.cons.inj h).2
    have hlast := getLast?_of_escapeQuotes (List.append_cancel_right htail)
    cases u with
    | nil => exact absurd hlast (by simp)
    | cons e u =>
      obtain rfl : c = '\\' := Option.some.inj (hc.symm.trans hlast)
      decide

theorem decided_quoteChars (cs : List Char) : Decided (fun _ => True) quoteChars cs := by
  intro ds _ x y hx hy h
  obtain ⟨hxy, hquoted⟩ := append_inj_of_getLast? hx hy (fun _ _ => not_gap_of_quoteChars)
    (fun _ _ => not_gap_of_quoteChars) h
  exact ⟨hxy, quoteChars_inj hquoted⟩

/-! ## Keys -/

theorem not_gap_of_isIdentifier {cs : List Char} (h : isIdentifier cs = true) :
    ∀ c ∈ cs, ¬ isGap c = true := by
  cases cs with
  | nil => simp
  | cons d cs =>
    simp only [isIdentifier, Bool.and_eq_true, List.all_eq_true] at h
    intro c hc hgap
    simp only [isGap, Bool.or_eq_true, beq_iff_eq] at hgap
    rcases List.mem_cons.mp hc with rfl | hc
    · rcases hgap with rfl | rfl <;> exact absurd h.1 (by decide)
    · rcases hgap with rfl | rfl <;> exact absurd (h.2 _ hc) (by decide)

/-- A bare key may end in a line break, and holds no gap before its end. -/
theorem not_gap_of_isBareKey {cs ds u : List Char} {c : Char} (hb : isBareKey cs = true)
    (h : cs = u ++ ds) (hds : ds ≠ []) (hc : u.getLast? = some c) : ¬ isGap c = true := by
  have hu : c ∈ u := List.mem_of_getLast? hc
  simp only [isBareKey, Bool.or_eq_true, Bool.and_eq_true] at hb
  rcases hb with hb | ⟨-, hb⟩
  · exact not_gap_of_isIdentifier hb c (h ▸ List.mem_append_left ds hu)
  · rw [h, List.dropLast_append_of_ne_nil hds] at hb
    exact not_gap_of_isIdentifier hb c (List.mem_append_left _ hu)

theorem ne_nil_of_isBareKey {cs : List Char} (h : isBareKey cs = true) : cs ≠ [] := by
  rintro rfl
  exact absurd h (by decide)

/-- A bare key and a quoted one do not end alike. -/
theorem bare_ne_quoted {cs ds x y : List Char} (hb : isBareKey cs = true) :
    x ++ cs ≠ y ++ quoteChars ds := by
  intro h
  have hlast := getLast?_eq_of_append_eq (ne_nil_of_isBareKey hb) (by simp [quoteChars]) h
  rw [getLast?_quoteChars] at hlast
  exact quote_notMem_of_isBareKey hb (List.mem_of_getLast? hlast)

theorem decided_keyChars (cs : List Char) : Decided (fun _ => True) keyChars cs := by
  intro ds hds x y hx hy h
  unfold keyChars at h
  split at h <;> split at h
  · rename_i hb hb'
    exact append_inj_of_getLast? hx hy
      (fun _ _ he => not_gap_of_isBareKey hb he (ne_nil_of_isBareKey hb'))
      (fun _ _ he => not_gap_of_isBareKey hb' he (ne_nil_of_isBareKey hb)) h
  · rename_i hb _
    exact absurd h (bare_ne_quoted hb)
  · rename_i _ hb
    exact absurd h.symm (bare_ne_quoted hb)
  · exact decided_quoteChars cs ds hds x y hx hy h

/-! ## Brackets -/

/-- Parts of the kind `S` end in a character that is no gap and no opening bracket. -/
def EndsBefore (S : α → Prop) (f : α → List Char) (opening : Char) : Prop :=
  ∀ a, S a → ∃ c, (f a).getLast? = some c ∧ c ≠ opening ∧ ¬ isGap c = true

variable {opening closing : Char} {gap gap' : List Char}

theorem append_snoc_parts (x : List Char) (as : List α) (a : α) :
    x ++ opening :: ((as ++ [a]).map f).flatMap (gap ++ ·) =
      (x ++ opening :: (as.map f).flatMap (gap ++ ·) ++ gap) ++ f a := by
  simp

theorem getLast?_snoc_parts (hS : EndsBefore S f opening) {a : α} (ha : S a) (gap x : List Char)
    (as : List α) :
    ∃ c, (x ++ opening :: ((as ++ [a]).map f).flatMap (gap ++ ·)).getLast? = some c ∧
      c ≠ opening ∧ ¬ isGap c = true := by
  obtain ⟨c, hc, hne⟩ := hS a ha
  refine ⟨c, ?_, hne⟩
  rw [append_snoc_parts, List.getLast?_append, hc]
  rfl

/-- Parts that are decided are read back one by one, from the last to the opening bracket. -/
theorem append_parts_inj (hS : EndsBefore S f opening) (hne : gap ≠ [])
    (hgap : ∀ c ∈ gap, isGap c = true) {as : List α} (has : ∀ a ∈ as, S a)
    (hd : ∀ a ∈ as, Decided S f a) :
    ∀ {bs : List α} {x y : List Char}, (∀ b ∈ bs, S b) →
      x ++ opening :: (as.map f).flatMap (gap ++ ·) =
        y ++ opening :: (bs.map f).flatMap (gap ++ ·) → x = y ∧ as = bs := by
  have hopening : ∀ z : List Char, (z ++ opening :: ([] : List Char)).getLast? = some opening :=
    fun z => List.getLast?_concat
  induction as using List.reverseRecOn with
  | nil =>
    intro bs x y hbs h
    rcases List.eq_nil_or_concat' bs with rfl | ⟨bs, b, rfl⟩
    · exact ⟨List.append_cancel_right h, rfl⟩
    · obtain ⟨c, hc, hco, -⟩ := getLast?_snoc_parts hS (hbs b (by simp)) gap y bs
      rw [← h, List.map_nil, List.flatMap_nil, hopening] at hc
      exact absurd (Option.some.inj hc).symm hco
  | append_singleton as a ih =>
    intro bs x y hbs h
    rcases List.eq_nil_or_concat' bs with rfl | ⟨bs, b, rfl⟩
    · obtain ⟨c, hc, hco, -⟩ := getLast?_snoc_parts hS (has a (by simp)) gap x as
      rw [h, List.map_nil, List.flatMap_nil, hopening] at hc
      exact absurd (Option.some.inj hc).symm hco
    · rw [append_snoc_parts, append_snoc_parts] at h
      obtain ⟨hinit, rfl⟩ := hd a (by simp) b (hbs b (by simp)) _ _
        (apart_append hne hgap _) (apart_append hne hgap _) h
      obtain ⟨rfl, rfl⟩ := ih (fun a ha => has a (by simp [ha]))
        (fun a ha => hd a (by simp [ha])) (fun b hb => hbs b (by simp [hb]))
        (List.append_cancel_right hinit)
      exact ⟨rfl, rfl⟩

/-- What stands before the last gap does not end in one. -/
theorem not_gap_of_parts (hS : EndsBefore S f opening) (ho : ¬ isGap opening = true)
    {as : List α} (has : ∀ a ∈ as, S a) (x : List Char) (c : Char)
    (hc : (x ++ opening :: (as.map f).flatMap (gap ++ ·)).getLast? = some c) :
    ¬ isGap c = true := by
  rcases List.eq_nil_or_concat' as with rfl | ⟨as, a, rfl⟩
  · rw [List.map_nil, List.flatMap_nil, List.getLast?_concat] at hc
    exact Option.some.inj hc ▸ ho
  · obtain ⟨d, hd, -, hgap⟩ := getLast?_snoc_parts hS (has a (by simp)) gap x as
    exact Option.some.inj (hd.symm.trans hc) ▸ hgap

/-- **Between brackets the parts are read back**, and with them the gap that the layout put before
each. -/
theorem append_enclosed_inj (hS : EndsBefore S f opening) (ho : ¬ isGap opening = true)
    {as bs : List α} {x y : List Char} (has : ∀ a ∈ as, S a) (hbs : ∀ b ∈ bs, S b)
    (hd : ∀ a ∈ as, Decided S f a) (hgap : ∀ c ∈ gap, isGap c = true)
    (hgap' : ∀ c ∈ gap', isGap c = true) (hempty : gap = [] → as = [])
    (hempty' : gap' = [] → bs = [])
    (h : x ++ enclosed opening closing gap (as.map f) =
      y ++ enclosed opening closing gap' (bs.map f)) : x = y ∧ as = bs := by
  have hends : (x ++ opening :: (as.map f).flatMap (gap ++ ·)) ++ gap =
      (y ++ opening :: (bs.map f).flatMap (gap' ++ ·)) ++ gap' := by
    refine List.append_cancel_right (?_ : _ ++ [closing] = _ ++ [closing])
    simpa [enclosed] using h
  have hmem : ∀ {g g' u : List Char} {c : Char}, (∀ c ∈ g, isGap c = true) → g = u ++ g' →
      u.getLast? = some c → ¬ ¬ isGap c = true := fun hg he hc hnot =>
    hnot (hg _ (he ▸ List.mem_append_left _ (List.mem_of_getLast? hc)))
  obtain ⟨hparts, rfl⟩ := append_inj_of_getLast? (not_gap_of_parts hS ho has x)
    (not_gap_of_parts hS ho hbs y) (fun _ _ => hmem hgap) (fun _ _ => hmem hgap') hends
  by_cases hne : gap = []
  · obtain rfl := hempty hne
    obtain rfl := hempty' hne
    exact ⟨List.append_cancel_right hparts, rfl⟩
  · exact append_parts_inj hS hne hgap has hd hbs hparts

end Deciding

end HealthAlert.Bicep
