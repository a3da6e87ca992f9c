import HealthAlert.Proofs.Bicep.Indenting
import HealthAlert.Proofs.Bicep.OnePass
import Mathlib.Data.List.Flatten
import Mathlib.Tactic.Ring

/-!
# The number of lines of a text

`lineBreaks` counts the line breaks that the layout of a value asks for: none where a list or a
record stands on one line, and otherwise one before each part and one before the closing bracket.
Behind every one of them stands the indent, so an indent that holds line breaks itself multiplies
them.

* `count_write`: the line breaks in the text of an unbroken value, by the two layouts of
  `write_array_eq_enclosed` and `write_object_eq_enclosed`.
* `lineBreaks_anti`, `unspaced_write_sublist`: a greater threshold only leaves line breaks out.
* **`render_lines`**: both for the text of a value.
* `newlines_of_brokenIndent`: an indent that is a line break.
-/

namespace HealthAlert.Bicep

open Literal

/-! ## Line breaks of a layout -/

/-- The list stands on one line: it is empty, or it has at most `threshold` elements, all of them
scalars. -/
def isInline (threshold : Int) (vs : List Value) : Bool :=
  vs.isEmpty || (decide ((vs.length : Int) ≤ threshold) && vs.all isScalar)

/-- The record stands on one line: it is empty, or its only entry is a scalar. -/
def isSole : List (String × Value) → Bool
  | [] => true
  | [(_, v)] => isScalar v
  | _ => false

mutual

/-- How many line breaks the layout of a value has. -/
def lineBreaks (threshold : Int) : Value → Nat
  | .list vs =>
    if isInline threshold vs then 0 else vs.length + 1 + lineBreaksOfItems threshold vs
  | .tuple vs =>
    if isInline threshold vs then 0 else vs.length + 1 + lineBreaksOfItems threshold vs
  | .record es => if isSole es then 0 else es.length + 1 + lineBreaksOfFields threshold es
  | _ => 0

/-- The line breaks inside the elements. -/
def lineBreaksOfItems (threshold : Int) : List Value → Nat
  | [] => 0
  | v :: vs => lineBreaks threshold v + lineBreaksOfItems threshold vs

/-- The line breaks inside the values of the fields. -/
def lineBreaksOfFields (threshold : Int) : List (String × Value) → Nat
  | [] => 0
  | (_, v) :: es => lineBreaks threshold v + lineBreaksOfFields threshold es

end

variable {threshold threshold' : Int} {indent : List Char}

theorem isSome_mapM_ofValue? (vs : List Value) :
    (vs.mapM Scalar.ofValue?).isSome = vs.all isScalar := by
  induction vs with
  | nil => rfl
  | cons v vs ih =>
    rw [List.mapM_cons, List.all_cons, ← ih, isScalar]
    cases Scalar.ofValue? v <;> cases vs.mapM Scalar.ofValue? <;> rfl

theorem isInline_eq (threshold : Int) (vs : List Value) :
    isInline threshold vs = (vs.isEmpty || (inlineScalars? threshold vs).isSome) := by
  rw [isInline, inlineScalars?]
  split <;> simp [isSome_mapM_ofValue?, *]

theorem isSole_eq (es : List (String × Value)) :
    isSole es = (es.isEmpty || (soleScalar? es).isSome) := by
  match es with
  | [] => rfl
  | [(key, v)] => simp [isSole, soleScalar?, isScalar]
  | _ :: _ :: _ => rfl

theorem lineBreaks_of_isScalar {v : Value} (h : isScalar v = true) :
    lineBreaks threshold v = 0 := by
  cases v with
  | list _ => exact nomatch h
  | tuple _ => exact nomatch h
  | record _ => exact nomatch h
  | _ => rfl

theorem lineBreaksOfItems_of_isInline {vs : List Value} (h : isInline threshold vs = true)
    (threshold' : Int) : lineBreaksOfItems threshold' vs = 0 := by
  have hall : ∀ v ∈ vs, isScalar v = true := by
    rw [isInline, Bool.or_eq_true, Bool.and_eq_true] at h
    rcases h with hempty | ⟨-, hall⟩
    · rw [List.isEmpty_iff.mp hempty]
      exact fun v hv => absurd hv List.not_mem_nil
    · exact List.all_eq_true.mp hall
  clear h
  induction vs with
  | nil => rfl
  | cons v vs ih =>
    rw [List.forall_mem_cons] at hall
    rw [lineBreaksOfItems, lineBreaks_of_isScalar hall.1, ih hall.2]

/-! ## Line breaks of a text -/

/-- How many line breaks a text has. -/
def newlines (s : String) : Nat :=
  s.toList.count '\n'

theorem count_gapOf (indent : List Char) (isEmpty onOneLine : Bool) :
    (gapOf indent isEmpty onOneLine).count '\n' =
      if isEmpty || onOneLine then 0 else indent.count '\n' + 1 := by
  cases isEmpty <;> cases onOneLine <;> simp [gapOf]

theorem count_enclosed {opening closing : Char} (ho : opening ≠ '\n') (hc : closing ≠ '\n')
    (gap : List Char) (parts : List (List Char)) :
    (enclosed opening closing gap parts).count '\n' =
      (parts.length + 1) * gap.count '\n' + (parts.map (List.count '\n')).sum := by
  have hparts : (parts.flatMap (gap ++ ·)).count '\n' =
      parts.length * gap.count '\n' + (parts.map (List.count '\n')).sum := by
    induction parts with
    | nil => simp
    | cons part parts ih =>
      rw [List.flatMap_cons, List.count_append, List.count_append, ih, List.length_cons,
        List.map_cons, List.sum_cons]
      ring
  rw [enclosed, List.count_cons_of_ne ho, List.count_append, List.count_append, hparts,
    List.count_cons_of_ne hc, List.count_nil]
  ring

theorem count_append_indentStep (indent : List Char) :
    (indent ++ indentStep).count '\n' = indent.count '\n' := by
  rw [List.count_append]
  rfl

/-- A scalar stands on one line. -/
theorem count_write_scalar {v : Value} {s : Scalar} (hv : Unbroken v)
    (h : ofValue? v = .ok (.scalar s)) (indent : List Char) :
    (write threshold indent (.scalar s)).count '\n' =
      lineBreaks threshold v * (indent.count '\n' + 1) := by
  have hs : (Literal.scalar s).Unbroken := unbroken_of_ofValue? hv h
  have hscalar : isScalar v = true := by rw [isScalar, ← scalar?_of_ofValue? h]; rfl
  rw [lineBreaks_of_isScalar hscalar, Nat.zero_mul, write]
  exact List.count_eq_zero.mpr hs.content

/-- The line breaks of an array, from those inside its elements. -/
theorem count_write_array {vs : List Value} {items : List Literal} (h : ofItems? vs = .ok items)
    {indent : List Char}
    (hparts : (items.map fun item =>
        (write threshold (indent ++ indentStep) item).count '\n').sum =
      lineBreaksOfItems threshold vs * (indent.count '\n' + 1)) :
    (write threshold indent (.array items)).count '\n' =
      (if isInline threshold vs then 0 else vs.length + 1 + lineBreaksOfItems threshold vs) *
        (indent.count '\n' + 1) := by
  rw [write_array_eq_enclosed, count_enclosed (by decide) (by decide), itemGap, count_gapOf,
    isEmpty_of_ofItems? h, inlineItems?_of_ofItems? h, ← isInline_eq, List.length_map,
    length_of_ofItems? h, List.map_map]
  cases hinline : isInline threshold vs with
  | true =>
    rw [lineBreaksOfItems_of_isInline hinline] at hparts
    simpa [Function.comp_def] using hparts
  | false =>
    rw [Function.comp_def, hparts]
    simp only [Bool.false_eq_true, if_false]
    ring

/-- The line breaks of an object, from those inside its entries. -/
theorem count_write_object {es : List (String × Value)} {entries : List (String × Literal)}
    (hunbroken : UnbrokenEntries entries) (h : ofEntries? es = .ok entries) {indent : List Char}
    (hparts : (entries.map fun e =>
        (writeEntry threshold (indent ++ indentStep) e).count '\n').sum =
      lineBreaksOfFields threshold es * (indent.count '\n' + 1)) :
    (write threshold indent (.object entries)).count '\n' =
      (if isSole es then 0 else es.length + 1 + lineBreaksOfFields threshold es) *
        (indent.count '\n' + 1) := by
  cases hs : soleScalar? es with
  | some e =>
    obtain ⟨key, s⟩ := e
    rw [ofEntries?_of_soleScalar? hs, Except.ok.injEq] at h
    subst h
    have hcount := notMem_write_sole hunbroken.1 hunbroken.2.1 threshold indent
    have hsole : isSole es = true := by simp [isSole_eq, hs]
    rw [List.count_eq_zero.mpr hcount, hsole, if_pos rfl, Nat.zero_mul]
  | none =>
    have hnone : sole? entries = none := (sole?_of_ofEntries? h).trans hs
    have hsole : isSole es = es.isEmpty := by simp [isSole_eq, hs]
    rw [write_object_eq_enclosed fun key s heq => absurd (hnone.symm.trans heq) (by simp),
      count_enclosed (by decide) (by decide), entryGap, count_gapOf, hnone, hsole,
      isEmpty_of_ofEntries? h, List.length_map, length_of_ofEntries? h, List.map_map,
      Function.comp_def, hparts]
    cases es with
    | nil => simp [lineBreaksOfFields]
    | cons e es =>
      simp only [List.isEmpty_cons, Option.isSome_none, Bool.or_false, Bool.false_eq_true, if_false]
      ring

mutual

/-- **The line breaks in the text of an unbroken value.** -/
theorem count_write : ∀ {v : Value} {l : Literal} (indent : List Char), Unbroken v →
    ofValue? v = .ok l →
    (write threshold indent l).count '\n' = lineBreaks threshold v * (indent.count '\n' + 1)
  | .null, _, _, _, h => nomatch h
  | .foreign _, _, _, _, h => nomatch h
  | .bool _, _, indent, hv, h => by
    cases h; exact count_write_scalar hv rfl indent
  | .int _, _, indent, hv, h => by
    cases h; exact count_write_scalar hv rfl indent
  | .float _, _, indent, hv, h => by
    cases h; exact count_write_scalar hv rfl indent
  | .text _, _, indent, hv, h => by
    cases h; exact count_write_scalar hv rfl indent
  | .member _, _, indent, hv, h => by
    cases h; exact count_write_scalar hv rfl indent
  | .list vs, _, indent, hv, h => by
    obtain ⟨items, hitems, rfl⟩ := exists_of_map_eq_ok h
    rw [lineBreaks]
    refine count_write_array hitems ?_
    rw [count_writeItems (indent ++ indentStep) hv hitems, count_append_indentStep]
  | .tuple vs, _, indent, hv, h => by
    obtain ⟨items, hitems, rfl⟩ := exists_of_map_eq_ok h
    rw [lineBreaks]
    refine count_write_array hitems ?_
    rw [count_writeItems (indent ++ indentStep) hv hitems, count_append_indentStep]
  | .record es, _, indent, hv, h => by
    obtain ⟨entries, hentries, rfl⟩ := exists_of_map_eq_ok h
    rw [lineBreaks]
    refine count_write_object (unbrokenEntries_of_ofEntries? hv hentries) hentries ?_
    rw [count_writeEntries (indent ++ indentStep) hv hentries, count_append_indentStep]

theorem count_writeItems : ∀ {vs : List Value} {items : List Literal} (indent : List Char),
    AreUnbroken vs → ofItems? vs = .ok items →
    (items.map fun item => (write threshold indent item).count '\n').sum =
      lineBreaksOfItems threshold vs * (indent.count '\n' + 1)
  | [], _, _, _, h => by cases h; rw [lineBreaksOfItems, Nat.zero_mul]; rfl
  | v :: vs, _, indent, hv, h => by
    obtain ⟨l, ls, hl, hls, rfl⟩ := ofItems?_cons_eq_ok h
    rw [List.map_cons, List.sum_cons, count_write indent hv.1 hl,
      count_writeItems indent hv.2 hls, lineBreaksOfItems, Nat.add_mul]

theorem count_writeEntries :
    ∀ {es : List (String × Value)} {entries : List (String × Literal)} (indent : List Char),
    HoldUnbroken es → ofEntries? es = .ok entries →
    (entries.map fun e => (writeEntry threshold indent e).count '\n').sum =
      lineBreaksOfFields threshold es * (indent.count '\n' + 1)
  | [], _, _, _, h => by cases h; rw [lineBreaksOfFields, Nat.zero_mul]; rfl
  | (key, v) :: es, _, indent, hes, h => by
    obtain ⟨l, ls, hl, hls, rfl⟩ := ofEntries?_cons_eq_ok h
    have hkey : (keyChars key.toList).count '\n' = 0 :=
      List.count_eq_zero.mpr (notMem_keyChars hes.1)
    have hentry : (writeEntry threshold indent (key, l)).count '\n' =
        lineBreaks threshold v * (indent.count '\n' + 1) := by
      rw [writeEntry, List.count_append, hkey, Nat.zero_add, List.count_cons_of_ne (by decide),
        List.count_cons_of_ne (by decide), count_write indent hes.2.1 hl]
    rw [List.map_cons, List.sum_cons, hentry, count_writeEntries indent hes.2.2 hls,
      lineBreaksOfFields, Nat.add_mul]

end

/-! ## Greater thresholds -/

theorem isInline_of_le (ht : threshold ≤ threshold') {vs : List Value}
    (h : isInline threshold vs = true) : isInline threshold' vs = true := by
  simp only [isInline, Bool.or_eq_true, Bool.and_eq_true, decide_eq_true_eq] at h ⊢
  exact h.imp_right fun ⟨hlength, hall⟩ => ⟨hlength.trans ht, hall⟩

/-- A layout that is chosen at a greater threshold has no more line breaks than the parts allow. -/
theorem ite_isInline_le (ht : threshold ≤ threshold') (vs : List Value) {m n : Nat} (hmn : m ≤ n) :
    (if isInline threshold' vs then 0 else vs.length + 1 + m) ≤
      if isInline threshold vs then 0 else vs.length + 1 + n := by
  cases h : isInline threshold vs with
  | true =>
    rw [isInline_of_le ht h, if_pos rfl]
    exact Nat.zero_le _
  | false =>
    split
    · exact Nat.zero_le _
    · exact Nat.add_le_add_left hmn _

mutual

/-- **A greater threshold adds no line break**, to no value and so to no part of one. -/
theorem lineBreaks_anti (ht : threshold ≤ threshold') :
    ∀ v : Value, lineBreaks threshold' v ≤ lineBreaks threshold v
  | .null => Nat.le_refl _
  | .foreign _ => Nat.le_refl _
  | .bool _ => Nat.le_refl _
  | .int _ => Nat.le_refl _
  | .float _ => Nat.le_refl _
  | .text _ => Nat.le_refl _
  | .member _ => Nat.le_refl _
  | .list vs => by
    rw [lineBreaks, lineBreaks]
    exact ite_isInline_le ht vs (lineBreaksOfItems_anti ht vs)
  | .tuple vs => by
    rw [lineBreaks, lineBreaks]
    exact ite_isInline_le ht vs (lineBreaksOfItems_anti ht vs)
  | .record es => by
    rw [lineBreaks, lineBreaks]
    split
    · exact Nat.le_refl _
    · exact Nat.add_le_add_left (lineBreaksOfFields_anti ht es) _

theorem lineBreaksOfItems_anti (ht : threshold ≤ threshold') :
    ∀ vs : List Value, lineBreaksOfItems threshold' vs ≤ lineBreaksOfItems threshold vs
  | [] => Nat.le_refl _
  | v :: vs => Nat.add_le_add (lineBreaks_anti ht v) (lineBreaksOfItems_anti ht vs)

theorem lineBreaksOfFields_anti (ht : threshold ≤ threshold') :
    ∀ es : List (String × Value), lineBreaksOfFields threshold' es ≤ lineBreaksOfFields threshold es
  | [] => Nat.le_refl _
  | (_, v) :: es => Nat.add_le_add (lineBreaks_anti ht v) (lineBreaksOfFields_anti ht es)

end

/-! ## Texts at greater thresholds -/

/-- The characters other than spaces. -/
def unspaced (cs : List Char) : List Char :=
  cs.filter (· != ' ')

theorem unspaced_append (cs ds : List Char) :
    unspaced (cs ++ ds) = unspaced cs ++ unspaced ds :=
  List.filter_append _ _

/-- Of parts between brackets less is left when less is left of the gap and of each part. -/
theorem unspaced_enclosed_sublist {α : Type} {gap gap' : List Char}
    (hgap : (unspaced gap').Sublist (unspaced gap)) (opening closing : Char) {as : List α}
    {f f' : α → List Char} (hparts : ∀ a ∈ as, (unspaced (f' a)).Sublist (unspaced (f a))) :
    (unspaced (enclosed opening closing gap' (as.map f'))).Sublist
      (unspaced (enclosed opening closing gap (as.map f))) := by
  have hunspaced (gap : List Char) (f : α → List Char) :
      unspaced (enclosed opening closing gap (as.map f)) =
        unspaced [opening] ++ (as.flatMap (fun a => unspaced gap ++ unspaced (f a)) ++
          (unspaced gap ++ unspaced [closing])) := by
    have hflat : unspaced ((as.map f).flatMap (gap ++ ·)) =
        as.flatMap fun a => unspaced gap ++ unspaced (f a) := by
      rw [List.flatMap_map, unspaced, List.filter_flatMap]
      exact List.flatMap_congr fun a _ => unspaced_append gap (f a)
    rw [enclosed, ← List.singleton_append, unspaced_append, unspaced_append, unspaced_append, hflat]
  rw [hunspaced, hunspaced]
  have hflat := List.Sublist.flatMap_right as fun a ha => hgap.append (hparts a ha)
  exact (List.Sublist.refl _).append (hflat.append (hgap.append (List.Sublist.refl _)))

theorem unspaced_gapOf_sublist (indent : List Char) (isEmpty : Bool) {onOneLine onOneLine' : Bool}
    (h : onOneLine = true → onOneLine' = true) :
    (unspaced (gapOf indent isEmpty onOneLine')).Sublist
      (unspaced (gapOf indent isEmpty onOneLine)) := by
  cases isEmpty <;> cases onOneLine <;> cases onOneLine' <;> simp_all [gapOf, unspaced]

theorem isSome_inlineItems?_of_le (ht : threshold ≤ threshold') {items : List Literal}
    (h : (inlineItems? threshold items).isSome = true) :
    (inlineItems? threshold' items).isSome = true := by
  unfold inlineItems? at h ⊢
  split at h
  · rename_i hlength
    rwa [if_pos (hlength.trans ht)]
  · exact absurd h (by simp)

mutual

/-- **A greater threshold leaves characters of a text out and adds only spaces.** -/
theorem unspaced_write_sublist (ht : threshold ≤ threshold') (indent : List Char) :
    ∀ l : Literal,
      (unspaced (write threshold' indent l)).Sublist (unspaced (write threshold indent l))
  | .scalar s => by rw [write, write]
  | .array items => by
    rw [write_array_eq_enclosed, write_array_eq_enclosed]
    exact unspaced_enclosed_sublist
      (unspaced_gapOf_sublist indent _ (isSome_inlineItems?_of_le ht)) _ _
      (unspaced_writeItems_sublist ht (indent ++ indentStep) items)
  | .object entries => by
    cases hs : sole? entries with
    | some e =>
      obtain ⟨key, s⟩ := e
      rw [eq_of_sole? hs, write_sole threshold' threshold indent indent]
    | none =>
      have hsole : ∀ key s, sole? entries = some (key, s) → s.soleContent = s.content :=
        fun key s h => absurd (hs.symm.trans h) (by simp)
      rw [write_object_eq_enclosed hsole, write_object_eq_enclosed hsole]
      exact unspaced_enclosed_sublist (List.Sublist.refl _) _ _
        (unspaced_writeEntries_sublist ht (indent ++ indentStep) entries)

theorem unspaced_writeItems_sublist (ht : threshold ≤ threshold') (indent : List Char) :
    ∀ items : List Literal, ∀ item ∈ items,
      (unspaced (write threshold' indent item)).Sublist (unspaced (write threshold indent item))
  | [] => List.forall_mem_nil _
  | item :: items => List.forall_mem_cons.mpr
      ⟨unspaced_write_sublist ht indent item, unspaced_writeItems_sublist ht indent items⟩

theorem unspaced_writeEntries_sublist (ht : threshold ≤ threshold') (indent : List Char) :
    ∀ entries : List (String × Literal), ∀ e ∈ entries,
      (unspaced (writeEntry threshold' indent e)).Sublist (unspaced (writeEntry threshold indent e))
  | [] => List.forall_mem_nil _
  | (key, item) :: entries => by
    have hentry (t : Int) : unspaced (writeEntry t indent (key, item)) =
        unspaced (keyChars key.toList ++ [':', ' ']) ++ unspaced (write t indent item) := by
      rw [← unspaced_append, List.append_assoc]
      rfl
    refine List.forall_mem_cons.mpr ⟨?_, unspaced_writeEntries_sublist ht indent entries⟩
    rw [hentry, hentry]
    exact (List.Sublist.refl _).append (unspaced_write_sublist ht indent item)

end

/-! ## Values -/

theorem newlines_text {v : Value} {l : Literal} (hv : Unbroken v) (h : ofValue? v = .ok l)
    (indent : String) (threshold : Int) :
    newlines (l.text indent threshold) = lineBreaks threshold v * (newlines indent + 1) := by
  rw [newlines, newlines, Literal.text, String.toList_ofList, count_write indent.toList hv h]

/-- **The lines of a text**: an unbroken value that has a text has the line breaks of its layout,
each of them as often as the indent has line breaks and once more. A greater threshold adds none to
any value, and spaces apart it only leaves characters of the text out. -/
theorem render_lines {v : Value} (hv : Unbroken v) (hw : Writable v) (indent : String)
    {threshold threshold' : Int} (ht : threshold ≤ threshold') :
    ∃ s s', render indent threshold v = .ok s ∧ render indent threshold' v = .ok s' ∧
      newlines s = lineBreaks threshold v * (newlines indent + 1) ∧
      lineBreaks threshold' v ≤ lineBreaks threshold v ∧
      newlines s' ≤ newlines s ∧
      (unspaced s'.toList).Sublist (unspaced s.toList) := by
  obtain ⟨l, hl⟩ := (exists_literal_iff v).mpr hw
  have hrender (t : Int) : render indent t v = .ok (l.text indent t) := by rw [render, hl]; rfl
  refine ⟨_, _, hrender threshold, hrender threshold', newlines_text hv hl indent threshold,
    lineBreaks_anti ht v, ?_, ?_⟩
  · rw [newlines_text hv hl, newlines_text hv hl]
    exact Nat.mul_le_mul_right _ (lineBreaks_anti ht v)
  · rw [Literal.text, Literal.text, String.toList_ofList, String.toList_ofList]
    exact unspaced_write_sublist ht indent.toList l

/-- A condition over three alternatives, which a greater threshold puts on one line. -/
theorem render_lines_anyOf :
    Unbroken (.record [("anyOf", .list [.text "'a'", .int 1, .bool true])]) ∧
    Writable (.record [("anyOf", .list [.text "'a'", .int 1, .bool true])]) ∧ (2 : Int) ≤ 3 ∧
    ∃ s s',
      render "  " 2 (.record [("anyOf", .list [.text "'a'", .int 1, .bool true])]) = .ok s ∧
      render "  " 3 (.record [("anyOf", .list [.text "'a'", .int 1, .bool true])]) = .ok s' ∧
      newlines s = lineBreaks 2 (.record [("anyOf", .list [.text "'a'", .int 1, .bool true])]) *
        (newlines "  " + 1) ∧
      lineBreaks 3 (.record [("anyOf", .list [.text "'a'", .int 1, .bool true])]) ≤
        lineBreaks 2 (.record [("anyOf", .list [.text "'a'", .int 1, .bool true])]) ∧
      newlines s' ≤ newlines s ∧
      (unspaced s'.toList).Sublist (unspaced s.toList) := by
  have hv : Unbroken (.record [("anyOf", .list [.text "'a'", .int 1, .bool true])]) := by
    simp only [Unbroken, HoldUnbroken, AreUnbroken]
    decide
  have hw : Writable (.record [("anyOf", .list [.text "'a'", .int 1, .bool true])]) := by
    simp [Writable, HoldWritable, AreWritable]
  exact ⟨hv, hw, by decide, render_lines hv hw "  " (by decide)⟩

/-- An indent that is a line break makes two of every line break of the layout. -/
theorem newlines_of_brokenIndent :
    Unbroken (.list [.list []]) ∧
    ∃ s, render "\n" 2 (.list [.list []]) = .ok s ∧ newlines s ≠ lineBreaks 2 (.list [.list []]) :=
  ⟨⟨trivial, trivial⟩, "[\n\n[]\n\n]", rfl, by decide⟩

end HealthAlert.Bicep
