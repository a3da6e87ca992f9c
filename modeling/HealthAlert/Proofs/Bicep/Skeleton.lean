import HealthAlert.Proofs.Bicep.Layout
import HealthAlert.Proofs.Bicep.Quoting

/-!
# The literals of a written tree, and what surrounds them

`Alike cs cs' xs` compares two texts: both leave no literal open, they are the same outside their
literals, and `xs` are the contents of the literals of the first. It is put together part by part
(`Alike.append`), from parts without a quote (`Alike.plain`) and quoted texts (`Alike.quoted`).

`Literal.masked` empties every quoted text of a tree. A tree is `Readable` when each of its scalars
is a quoted text or holds no quote, and no text or key of it holds a backslash.

* **`alike_text`**: two readable trees that are equal once masked are written alike, in any
  layout, and the literals in the text of the first are those of the tree in order.
-/

namespace HealthAlert.Bicep

/-- Both texts leave no literal open, they are the same outside their literals, and `xs` are the
contents of the literals of the first. -/
def Alike (cs cs' : List Char) (xs : List String) : Prop :=
  ∃ ts ts', Reads cs ts ∧ Reads cs' ts' ∧ contents ts = xs ∧ emptied ts = emptied ts'

namespace Alike

variable {cs cs' ds ds' : List Char} {xs ys : List String}

theorem append (h : Alike cs cs' xs) (h' : Alike ds ds' ys) :
    Alike (cs ++ ds) (cs' ++ ds') (xs ++ ys) := by
  obtain ⟨ts, ts', hr, hr', rfl, he⟩ := h
  obtain ⟨us, us', hs, hs', rfl, hf⟩ := h'
  refine ⟨ts ++ us, ts' ++ us', hr.append hs, hr'.append hs', contents_append ts us, ?_⟩
  rw [emptied_append, emptied_append, he, hf]

theorem plain (cs : List Char) (h : '\'' ∉ cs) : Alike cs cs [] :=
  ⟨_, _, Reads.plain h, Reads.plain h, contents_plain cs, rfl⟩

theorem quoted (h : '\\' ∉ cs) (h' : '\\' ∉ cs') :
    Alike (quoteChars cs) (quoteChars cs') [String.ofList cs] :=
  ⟨_, _, reads_quoteChars h, reads_quoteChars h', rfl, rfl⟩

/-- Characters without a quote in front change nothing. -/
theorem plain_append (ds : List Char) (h : '\'' ∉ ds) (h' : Alike cs cs' xs) :
    Alike (ds ++ cs) (ds ++ cs') xs :=
  (plain ds h).append h'

theorem concat {s s' t t' : String} (h : Alike s.toList s'.toList xs)
    (h' : Alike t.toList t'.toList ys) : Alike (s ++ t).toList (s' ++ t').toList (xs ++ ys) := by
  rw [String.toList_append, String.toList_append]
  exact h.append h'

theorem ofQuote {s s' : String} (h : '\\' ∉ s.toList) (h' : '\\' ∉ s'.toList) :
    Alike (quote s).toList (quote s').toList [s] := by
  have := quoted h h'
  rw [String.ofList_toList] at this
  rw [toList_quote, toList_quote]
  exact this

/-- A text without quotes behind changes nothing. -/
theorem label {s s' : String} (h : Alike s.toList s'.toList xs) (t : String)
    (ht : '\'' ∉ t.toList) : Alike (s ++ t).toList (s' ++ t).toList xs := by
  have := h.concat (plain t.toList ht)
  rwa [List.append_nil] at this

/-- A line with a quoted value adds the value. -/
theorem line {s s' : String} (h : Alike s.toList s'.toList xs) (t : String)
    (ht : '\'' ∉ t.toList) {v v' : String} (hv : '\\' ∉ v.toList) (hv' : '\\' ∉ v'.toList) :
    Alike (s ++ t ++ quote v ++ "\n").toList (s' ++ t ++ quote v' ++ "\n").toList (xs ++ [v]) :=
  ((h.label t ht).concat (ofQuote hv hv')).label "\n" (by decide)

/-- Two texts that are like a third are like each other. -/
theorem of_common (h : Alike cs ds xs) (h' : Alike cs' ds ys) : Alike cs cs' xs := by
  obtain ⟨ts, us, hr, hs, hx, he⟩ := h
  obtain ⟨ts', us', hr', hs', -, he'⟩ := h'
  obtain rfl : us = us' := congrArg Prod.fst (hs.symm.trans hs')
  exact ⟨ts, ts', hr, hr', hx, he.trans he'.symm⟩

theorem literals? {s s' : String} (h : Alike s.toList s'.toList xs) :
    Bicep.literals? s = some xs := by
  obtain ⟨ts, -, hr, -, rfl, -⟩ := h
  unfold Bicep.literals?
  rw [tokens?_eq_some_iff.mpr hr]
  rfl

theorem skeleton? {s s' : String} (h : Alike s.toList s'.toList xs) :
    Bicep.skeleton? s = Bicep.skeleton? s' := by
  obtain ⟨ts, ts', hr, hr', -, he⟩ := h
  unfold Bicep.skeleton?
  rw [tokens?_eq_some_iff.mpr hr, tokens?_eq_some_iff.mpr hr', Option.map_some, Option.map_some, he]

end Alike

/-! ## Keys -/

/-- The content of a key's literal, if the key is not bare. -/
def keyTexts (key : String) : List String :=
  if isBareKey key.toList then [] else [key]

theorem quote_notMem_of_isIdentifier {cs : List Char} (h : isIdentifier cs = true) :
    '\'' ∉ cs := by
  cases cs with
  | nil => simp
  | cons c cs =>
    simp only [isIdentifier, Bool.and_eq_true, List.all_eq_true] at h
    intro hm
    rcases List.mem_cons.mp hm with rfl | hm
    · exact absurd h.1 (by decide)
    · exact absurd (h.2 _ hm) (by decide)

theorem quote_notMem_of_isBareKey {cs : List Char} (h : isBareKey cs = true) : '\'' ∉ cs := by
  simp only [isBareKey, Bool.or_eq_true, Bool.and_eq_true, beq_iff_eq] at h
  rcases h with h | ⟨hlast, h⟩
  · exact quote_notMem_of_isIdentifier h
  · intro hm
    obtain ⟨init, rfl⟩ := List.getLast?_eq_some_iff.mp hlast
    rw [List.dropLast_concat] at h
    rcases List.mem_append.mp hm with hm | hm
    · exact quote_notMem_of_isIdentifier h hm
    · exact absurd hm (by decide)

theorem alike_key {key : String} (h : '\\' ∉ key.toList) :
    Alike (keyChars key.toList) (keyChars key.toList) (keyTexts key) := by
  unfold keyChars keyTexts
  split
  · exact Alike.plain _ (quote_notMem_of_isBareKey (by assumption))
  · have := Alike.quoted h h
    rwa [String.ofList_toList] at this

/-! ## Scalars -/

namespace Scalar

/-- The scalar is a quoted text without backslashes, or it holds no quote. -/
def Readable (s : Scalar) : Prop :=
  ('\'' ∉ s.content.toList ∧ '\'' ∉ s.soleContent.toList) ∨
    ∃ text : String, '\\' ∉ text.toList ∧ s = .text (quote text)

/-- The scalar with the empty text in place of a quoted one. -/
def masked (s : Scalar) : Scalar :=
  if s.content.toList.head? = some '\'' then .text (quote "") else s

/-- The contents of the literals in a scalar. -/
def texts (s : Scalar) : List String :=
  contents (Scan.outside.run s.content.toList).1

theorem masked_of_notMem {s : Scalar} (h : '\'' ∉ s.content.toList) : s.masked = s :=
  if_neg fun hq => h (List.mem_of_head? hq)

theorem texts_of_notMem {s : Scalar} (h : '\'' ∉ s.content.toList) : s.texts = [] := by
  unfold texts
  rw [Reads.plain h]
  exact contents_plain _

@[simp] theorem masked_quote (text : String) : masked (.text (quote text)) = .text (quote "") := by
  refine if_pos ?_
  rw [content, toList_quote]
  rfl

@[simp] theorem texts_quote {text : String} (h : '\\' ∉ text.toList) :
    texts (.text (quote text)) = [text] := by
  unfold texts
  rw [content, toList_quote, reads_quoteChars h]
  exact congrArg (fun s => [s]) (String.ofList_toList)

theorem readable_quote {text : String} (h : '\\' ∉ text.toList) : Readable (.text (quote text)) :=
  Or.inr ⟨text, h, rfl⟩

/-- A readable scalar is like the masked one, whether it is written by its content or as the only
entry of an object. -/
theorem Readable.alike {s : Scalar} (h : s.Readable) :
    Alike s.content.toList s.masked.content.toList s.texts ∧
      Alike s.soleContent.toList s.masked.soleContent.toList s.texts := by
  rcases h with ⟨hc, hs⟩ | ⟨text, ht, rfl⟩
  · rw [masked_of_notMem hc, texts_of_notMem hc]
    exact ⟨Alike.plain _ hc, Alike.plain _ hs⟩
  · rw [masked_quote, texts_quote ht]
    exact ⟨Alike.ofQuote ht (by decide), Alike.ofQuote ht (by decide)⟩

end Scalar

/-! ## Trees -/

namespace Literal

mutual

/-- The tree with the empty text in place of every quoted one. -/
def masked : Literal → Literal
  | .scalar s => .scalar s.masked
  | .array items => .array (maskedItems items)
  | .object entries => .object (maskedEntries entries)

/-- The elements, masked. -/
def maskedItems : List Literal → List Literal
  | [] => []
  | item :: items => masked item :: maskedItems items

/-- The entries with their values masked. -/
def maskedEntries : List (String × Literal) → List (String × Literal)
  | [] => []
  | (key, item) :: entries => (key, masked item) :: maskedEntries entries

end

mutual

/-- The contents of the literals in a tree, in order. -/
def texts : Literal → List String
  | .scalar s => s.texts
  | .array items => textsOfItems items
  | .object entries => textsOfEntries entries

/-- The contents of the literals in the elements. -/
def textsOfItems : List Literal → List String
  | [] => []
  | item :: items => texts item ++ textsOfItems items

/-- The contents of the literals in the entries, those of a key before those of its value. -/
def textsOfEntries : List (String × Literal) → List String
  | [] => []
  | (key, item) :: entries => keyTexts key ++ texts item ++ textsOfEntries entries

end

mutual

/-- Every scalar of the tree is readable, and no key holds a backslash. -/
def Readable : Literal → Prop
  | .scalar s => s.Readable
  | .array items => ReadableItems items
  | .object entries => ReadableEntries entries

/-- The elements are readable. -/
def ReadableItems : List Literal → Prop
  | [] => True
  | item :: items => Readable item ∧ ReadableItems items

/-- The entries are readable. -/
def ReadableEntries : List (String × Literal) → Prop
  | [] => True
  | (key, item) :: entries => '\\' ∉ key.toList ∧ Readable item ∧ ReadableEntries entries

end

theorem maskedItems_eq_map (items : List Literal) : maskedItems items = items.map masked := by
  induction items with
  | nil => rfl
  | cons item items ih => rw [maskedItems, ih, List.map_cons]

theorem textsOfItems_eq_flatMap (items : List Literal) :
    textsOfItems items = items.flatMap texts := by
  induction items with
  | nil => rfl
  | cons item items ih => rw [textsOfItems, ih, List.flatMap_cons]

theorem readableItems_iff {items : List Literal} :
    ReadableItems items ↔ ∀ item ∈ items, item.Readable := by
  induction items with
  | nil => simp [ReadableItems]
  | cons item items ih => simp [ReadableItems, ih]

/-! Masking keeps the layout. -/

theorem scalar?_masked (l : Literal) : l.masked.scalar? = l.scalar?.map Scalar.masked := by
  cases l <;> simp [masked, scalar?]

theorem inlineItems?_maskedItems (threshold : Int) (items : List Literal) :
    inlineItems? threshold (maskedItems items) =
      (inlineItems? threshold items).map (List.map Scalar.masked) := by
  have hmapM : (items.map masked).mapM scalar? =
      (items.mapM scalar?).map (List.map Scalar.masked) := by
    induction items with
    | nil => rfl
    | cons item items ih =>
      rw [List.map_cons, List.mapM_cons, List.mapM_cons, ih, scalar?_masked]
      cases item.scalar? <;> cases items.mapM scalar? <;> rfl
  unfold inlineItems?
  rw [maskedItems_eq_map, List.length_map, hmapM]
  split <;> rfl

theorem sole?_maskedEntries (entries : List (String × Literal)) :
    sole? (maskedEntries entries) = (sole? entries).map fun e => (e.1, e.2.masked) := by
  match entries with
  | [] => rfl
  | [(_, .scalar _)] => rfl
  | [(_, .array _)] => rfl
  | [(_, .object _)] => rfl
  | (_, l) :: _ :: _ => cases l <;> rfl

theorem alike_inline {scalars : List Scalar} (h : ∀ s ∈ scalars, s.Readable) :
    Alike (scalars.flatMap fun s => ' ' :: s.content.toList)
      ((scalars.map Scalar.masked).flatMap fun s => ' ' :: s.content.toList)
      (scalars.flatMap Scalar.texts) := by
  induction scalars with
  | nil => exact Alike.plain [] (by simp)
  | cons s scalars ih =>
    rw [List.forall_mem_cons] at h
    rw [List.map_cons, List.flatMap_cons, List.flatMap_cons, List.flatMap_cons]
    exact (h.1.alike.1.plain_append [' '] (by decide)).append (ih h.2)

variable (threshold : Int)

mutual

/-- A readable tree is written like the masked one. -/
theorem alike_write_masked {indent : List Char} (hi : '\'' ∉ indent) :
    ∀ l : Literal, l.Readable →
      Alike (l.write threshold indent) (l.masked.write threshold indent) l.texts
  | .scalar s, h => by
    unfold masked write texts
    exact h.alike.1
  | .array [], _ => Alike.plain ['[', ']'] (by decide)
  | .array (item :: items), h => by
    have hmasked := inlineItems?_maskedItems threshold (item :: items)
    have hlines := alike_writeItems_masked hi (item :: items) h
    rw [masked, write_array (by simp), write_array (by simp [maskedItems]), hmasked, texts]
    cases hs : inlineItems? threshold (item :: items) with
    | some scalars =>
      have heq := eq_of_inlineItems? hs
      have hr : ∀ s ∈ scalars, s.Readable := fun s hm =>
        readableItems_iff.mp h (.scalar s) (heq ▸ List.mem_map_of_mem hm)
      have htexts : textsOfItems (item :: items) = scalars.flatMap Scalar.texts := by
        rw [heq, textsOfItems_eq_flatMap, List.flatMap_map]
        rfl
      rw [htexts]
      have := (alike_inline hr).append (Alike.plain [' ', ']'] (by decide))
      rw [List.append_nil] at this
      exact this.plain_append ['['] (by decide)
    | none =>
      have hclose : '\'' ∉ '\n' :: (indent ++ [']']) := by simp [hi]
      have := hlines.append (Alike.plain _ hclose)
      rw [List.append_nil] at this
      exact this.plain_append ['['] (by decide)
  | .object [], _ => Alike.plain ['\x7b', '\x7d'] (by decide)
  | .object (entry :: entries), h => by
    have hmasked := sole?_maskedEntries (entry :: entries)
    have hlines := alike_writeEntries_masked hi (entry :: entries) h
    rw [masked, write_object (by simp), write_object (by simp [maskedEntries]), hmasked, texts]
    cases hs : sole? (entry :: entries) with
    | some e =>
      obtain ⟨key, s⟩ := e
      rw [eq_of_sole? hs] at h ⊢
      obtain ⟨hkey, hscalar, -⟩ := h
      have hend := hscalar.alike.2.append (Alike.plain [' ', '\x7d'] (by decide))
      have hvalue := hend.plain_append [':', ' '] (by decide)
      have := ((alike_key hkey).append hvalue).plain_append ['\x7b', ' '] (by decide)
      rw [List.append_nil] at this
      unfold textsOfEntries textsOfEntries texts
      rw [List.append_nil]
      exact this
    | none =>
      have hclose : '\'' ∉ '\n' :: (indent ++ ['\x7d']) := by simp [hi]
      have := hlines.append (Alike.plain _ hclose)
      rw [List.append_nil] at this
      exact this.plain_append ['\x7b'] (by decide)

theorem alike_writeItems_masked {indent : List Char} (hi : '\'' ∉ indent) :
    ∀ items : List Literal, ReadableItems items →
      Alike (writeItems threshold indent items) (writeItems threshold indent (maskedItems items))
        (textsOfItems items)
  | [], _ => Alike.plain [] List.not_mem_nil
  | item :: items, h => by
    have hstep : '\'' ∉ indent ++ indentStep := by simp [hi, indentStep]
    have hfirst := (alike_write_masked hstep item h.1).plain_append ('\n' :: indent) (by simp [hi])
    exact hfirst.append (alike_writeItems_masked hi items h.2)

theorem alike_writeEntries_masked {indent : List Char} (hi : '\'' ∉ indent) :
    ∀ entries : List (String × Literal), ReadableEntries entries →
      Alike (writeEntries threshold indent entries)
        (writeEntries threshold indent (maskedEntries entries)) (textsOfEntries entries)
  | [], _ => Alike.plain [] List.not_mem_nil
  | (key, item) :: entries, h => by
    have hstep : '\'' ∉ indent ++ indentStep := by simp [hi, indentStep]
    have hvalue := (alike_write_masked hstep item h.2.1).plain_append [':', ' '] (by decide)
    have hfirst := ((alike_key h.1).append hvalue).plain_append ('\n' :: indent) (by simp [hi])
    exact hfirst.append (alike_writeEntries_masked hi entries h.2.2)

end

/-- **Readable trees that are equal once masked are written alike.** -/
theorem alike_text (threshold : Int) {indent : String} (hi : '\'' ∉ indent.toList)
    {l l' : Literal} (h : l.Readable) (h' : l'.Readable) (hm : l.masked = l'.masked) :
    Alike (l.text indent threshold).toList (l'.text indent threshold).toList l.texts := by
  have hl := alike_write_masked threshold hi l h
  rw [hm] at hl
  unfold text
  rw [String.toList_ofList, String.toList_ofList]
  exact hl.of_common (alike_write_masked threshold hi l' h')

end Literal

end HealthAlert.Bicep
