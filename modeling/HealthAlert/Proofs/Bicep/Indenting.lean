import HealthAlert.Proofs.Bicep.LineBreaks

/-!
# Moving a text to the right

The indent that a caller passes stands after every line break of a text, and an unbroken value has
no other line breaks. So a value that is written further to the right is the same text with a margin
after every line break (`indentBy`), and every line after the first starts with the indent; the last
of them is the indent and the closing bracket.

* `write_margin`: the law for trees, by the two layouts of `write_array_eq_enclosed` and
  `write_object_eq_enclosed`.
* `prefix_of_mem_lines`: the lines of a text with a margin.
* **`render_margin`**: the law for values, and the lines of a text.
-/

namespace HealthAlert.Bicep

/-! ## Margins -/

/-- The characters with a margin after every line break. -/
def indentChars (margin cs : List Char) : List Char :=
  cs.flatMap fun c => if c = '\n' then '\n' :: margin else [c]

/-- The text with a margin after every line break. -/
def indentBy (margin s : String) : String :=
  String.ofList (indentChars margin.toList s.toList)

variable {margin indent : List Char}

theorem indentChars_append (margin cs ds : List Char) :
    indentChars margin (cs ++ ds) = indentChars margin cs ++ indentChars margin ds :=
  List.flatMap_append

theorem indentChars_newline (margin cs : List Char) :
    indentChars margin ('\n' :: cs) = '\n' :: (margin ++ indentChars margin cs) := by
  simp [indentChars]

theorem indentChars_cons_of_ne {c : Char} (h : c ≠ '\n') (cs : List Char) :
    indentChars margin (c :: cs) = c :: indentChars margin cs := by
  simp [indentChars, h]

/-- A text of one line stays as it is. -/
theorem indentChars_of_notMem {cs : List Char} (h : '\n' ∉ cs) : indentChars margin cs = cs := by
  induction cs with
  | nil => rfl
  | cons c cs ih =>
    rw [List.mem_cons, not_or] at h
    rw [indentChars_cons_of_ne (Ne.symm h.1), ih h.2]

/-- Of parts between brackets the gap and each part get the margin. -/
theorem indentChars_enclosed {opening closing : Char} (ho : opening ≠ '\n') (hc : closing ≠ '\n')
    (gap : List Char) (parts : List (List Char)) :
    indentChars margin (enclosed opening closing gap parts) =
      enclosed opening closing (indentChars margin gap) (parts.map (indentChars margin)) := by
  have hparts : indentChars margin (parts.flatMap (gap ++ ·)) =
      (parts.map (indentChars margin)).flatMap (indentChars margin gap ++ ·) := by
    induction parts with
    | nil => rfl
    | cons part parts ih =>
      rw [List.flatMap_cons, List.map_cons, List.flatMap_cons, indentChars_append,
        indentChars_append, ih]
  have hclosing : indentChars margin [closing] = [closing] := indentChars_cons_of_ne hc []
  unfold enclosed
  rw [indentChars_cons_of_ne ho, indentChars_append, indentChars_append, hparts, hclosing]

/-! ## Trees -/

namespace Literal

variable {threshold : Int}

/-- The gap of parts at a margin: a new line has the margin before its indent. -/
theorem gapOf_margin (hi : '\n' ∉ indent) (isEmpty onOneLine : Bool) :
    gapOf (margin ++ indent) isEmpty onOneLine =
      indentChars margin (gapOf indent isEmpty onOneLine) := by
  unfold gapOf
  split
  · rfl
  · split
    · rfl
    · rw [indentChars_newline, indentChars_of_notMem hi]

theorem notMem_append_indentStep (hi : '\n' ∉ indent) : '\n' ∉ indent ++ indentStep := by
  rw [List.mem_append, not_or]
  exact ⟨hi, by decide⟩

theorem notMem_keyChars {cs : List Char} (h : '\n' ∉ cs) : '\n' ∉ keyChars cs := by
  have hescaped : '\n' ∉ escapeQuotes cs := by
    intro hmem
    obtain ⟨c, hc, hchar⟩ := List.mem_flatMap.mp hmem
    split at hchar
    · exact absurd hchar (by decide)
    · obtain rfl := List.mem_singleton.mp hchar
      exact h hc
  unfold keyChars
  split
  · exact h
  · simp [quoteChars, hescaped]

/-- An object that stands on one line has no line break to put a margin after. -/
theorem notMem_write_sole {key : String} {s : Scalar} (hk : '\n' ∉ key.toList) (hs : s.Unbroken)
    (threshold : Int) (indent : List Char) :
    '\n' ∉ write threshold indent (.object [(key, .scalar s)]) := by
  rw [write]
  simp [notMem_keyChars hk, hs.soleContent]

mutual

/-- **A tree that is written at a margin is the tree with the margin after every line break.** -/
theorem write_margin {indent : List Char} (hi : '\n' ∉ indent) :
    ∀ {l : Literal}, l.Unbroken →
      write threshold (margin ++ indent) l = indentChars margin (write threshold indent l)
  | .scalar s, hl => by
    rw [write, write, indentChars_of_notMem hl.content]
  | .array items, hl => by
    have hitems := writeItems_margin (notMem_append_indentStep hi) hl
    rw [write_array_eq_enclosed, write_array_eq_enclosed,
      indentChars_enclosed (by decide) (by decide), itemGap, itemGap, gapOf_margin hi,
      List.append_assoc, hitems]
  | .object entries, hl => by
    cases hs : sole? entries with
    | some e =>
      -- On one line a mode is written by another name, so the text is not that of parts with gaps.
      obtain ⟨key, s⟩ := e
      rw [eq_of_sole? hs] at hl ⊢
      obtain ⟨hkey, hscalar, -⟩ := hl
      rw [indentChars_of_notMem (notMem_write_sole hkey hscalar threshold indent),
        write_sole threshold threshold (margin ++ indent) indent]
    | none =>
      have hentries := writeEntries_margin (notMem_append_indentStep hi) hl
      have hsole : ∀ key s, sole? entries = some (key, s) → s.soleContent = s.content :=
        fun key s h => absurd (hs.symm.trans h) (by simp)
      rw [write_object_eq_enclosed hsole, write_object_eq_enclosed hsole,
        indentChars_enclosed (by decide) (by decide), entryGap, entryGap, gapOf_margin hi,
        List.append_assoc, hentries]

theorem writeItems_margin {indent : List Char} (hi : '\n' ∉ indent) :
    ∀ {items : List Literal}, UnbrokenItems items →
      items.map (write threshold (margin ++ indent)) =
        (items.map (write threshold indent)).map (indentChars margin)
  | [], _ => rfl
  | item :: items, h => by
    rw [List.map_cons, List.map_cons, List.map_cons, write_margin hi h.1,
      writeItems_margin hi h.2]

theorem writeEntries_margin {indent : List Char} (hi : '\n' ∉ indent) :
    ∀ {entries : List (String × Literal)}, UnbrokenEntries entries →
      entries.map (writeEntry threshold (margin ++ indent)) =
        (entries.map (writeEntry threshold indent)).map (indentChars margin)
  | [], _ => rfl
  | (key, item) :: entries, h => by
    have hentry : writeEntry threshold (margin ++ indent) (key, item) =
        indentChars margin (writeEntry threshold indent (key, item)) := by
      unfold writeEntry
      rw [indentChars_append, indentChars_of_notMem (notMem_keyChars h.1),
        indentChars_cons_of_ne (by decide), indentChars_cons_of_ne (by decide),
        write_margin hi h.2.1]
    rw [List.map_cons, List.map_cons, List.map_cons, hentry, writeEntries_margin hi h.2.2]

end

/-! ## The last line -/

/-- An array that stands on one line has no line break. -/
theorem notMem_inlineItems {items : List Literal} {scalars : List Scalar}
    (h : inlineItems? threshold items = some scalars) (hitems : UnbrokenItems items) :
    '\n' ∉ scalars.flatMap fun s => ' ' :: s.content.toList := by
  intro hmem
  obtain ⟨s, hs, hchar⟩ := List.mem_flatMap.mp hmem
  have hscalar : (Literal.scalar s).Unbroken :=
    unbrokenItems_iff.mp hitems _ (eq_of_inlineItems? h ▸ List.mem_map_of_mem hs)
  rcases List.mem_cons.mp hchar with hspace | hchar
  · exact absurd hspace (by decide)
  · exact hscalar.content hchar

/-- A tree of several lines ends with a line for the closing bracket. -/
theorem closing_of_newline_mem {indent : List Char} {l : Literal} (h : l.Unbroken)
    (hmem : '\n' ∈ write threshold indent l) :
    ∃ bracket front, (bracket = ']' ∨ bracket = '\x7d') ∧
      write threshold indent l = front ++ '\n' :: (indent ++ [bracket]) := by
  cases l with
  | scalar s =>
    rw [write] at hmem
    exact absurd hmem h.content
  | array items =>
    by_cases hne : items = []
    · subst hne
      exact absurd hmem (by simp [write])
    · rw [write_array hne] at hmem ⊢
      cases hs : inlineItems? threshold items with
      | some scalars =>
        have hscalars := notMem_inlineItems hs h
        rw [hs] at hmem
        simp [hscalars] at hmem
      | none => exact ⟨']', '[' :: writeItems threshold indent items, .inl rfl, rfl⟩
  | object entries =>
    cases hs : sole? entries with
    | some e =>
      obtain ⟨key, s⟩ := e
      rw [eq_of_sole? hs] at h hmem
      exact absurd hmem (notMem_write_sole h.1 h.2.1 threshold indent)
    | none =>
      by_cases hne : entries = []
      · subst hne
        exact absurd hmem (by simp [write])
      · rw [write_object hne, hs]
        exact ⟨'\x7d', '\x7b' :: writeEntries threshold indent entries, .inr rfl, rfl⟩

end Literal

/-! ## Lines -/

/-- The lines of a text. -/
def linesOf (s : String) : List (List Char) :=
  s.toList.splitOn '\n'

/-- What stands before the first line break goes into the first line. -/
theorem splitOn_append_of_notMem {cs : List Char} (h : '\n' ∉ cs) (ds : List Char) :
    (cs ++ ds).splitOn '\n' = (ds.splitOn '\n').modifyHead (cs ++ ·) := by
  induction cs with
  | nil => cases h' : ds.splitOn '\n' <;> simp [h']
  | cons c cs ih =>
    rw [List.mem_cons, not_or] at h
    have hc : (c == '\n') = false := by simpa using Ne.symm h.1
    rw [List.cons_append, List.splitOn_cons_eq_if_modifyHead, hc, ih h.2]
    cases ds.splitOn '\n' <;> rfl

/-- **Every line after the first starts with the margin.** -/
theorem prefix_of_mem_lines {margin : List Char} (hm : '\n' ∉ margin) :
    ∀ cs : List Char, ∀ line ∈ ((indentChars margin cs).splitOn '\n').tail, margin <+: line
  | [], line, h => absurd h (by simp [indentChars])
  | c :: cs, line, h => by
    by_cases hc : c = '\n'
    · subst hc
      rw [indentChars_newline, List.splitOn_cons_eq_if_modifyHead] at h
      simp only [beq_self_eq_true, if_true, List.tail_cons, splitOn_append_of_notMem hm] at h
      cases hlines : (indentChars margin cs).splitOn '\n' with
      | nil => exact absurd hlines (List.splitOn_ne_nil _ _)
      | cons first rest =>
        rw [hlines] at h
        rcases List.mem_cons.mp h with rfl | h
        · exact List.prefix_append _ _
        · exact prefix_of_mem_lines hm cs line (by rwa [hlines])
    · have hc' : (c == '\n') = false := by simpa using hc
      rw [indentChars_cons_of_ne hc, List.splitOn_cons_eq_if_modifyHead, hc'] at h
      refine prefix_of_mem_lines hm cs line ?_
      cases hlines : (indentChars margin cs).splitOn '\n' with
      | nil => exact absurd hlines (List.splitOn_ne_nil _ _)
      | cons first rest => simpa [hlines] using h

/-- What stands after the last line break is the last line. -/
theorem getLast?_lines {front last : List Char} (h : '\n' ∉ last) :
    ((front ++ '\n' :: last).splitOn '\n').getLast? = some last := by
  rw [List.splitOn_append_cons_self, List.splitOn_eq_singleton h]
  simp

/-! ## Values -/

variable {v : Value}

/-- The text of a value at an indent is its text at no indent, with the indent after every line
break. -/
theorem render_append (hv : Unbroken v) {indent : String} (hi : '\n' ∉ indent.toList)
    (margin : String) (threshold : Int) :
    render (margin ++ indent) threshold v =
      (render indent threshold v).map (indentBy margin) := by
  unfold render
  cases hl : Literal.ofValue? v with
  | error e => rfl
  | ok l =>
    have hwrite : l.write threshold (margin.toList ++ indent.toList) =
        indentChars margin.toList (l.write threshold indent.toList) :=
      Literal.write_margin hi (Literal.unbroken_of_ofValue? hv hl)
    simp only [Except.map, Literal.text, indentBy, String.toList_append, String.toList_ofList,
      hwrite]

/-- The first line stands where the caller puts it, and every other line starts with the indent;
the last of those is the indent and the closing bracket. -/
structure HangsAt (indent : String) (s : String) : Prop where
  prefix_of_mem : ∀ line ∈ (linesOf s).tail, indent.toList <+: line
  closing : (linesOf s).tail ≠ [] →
    ∃ bracket, (bracket = ']' ∨ bracket = '\x7d') ∧
      (linesOf s).getLast? = some (indent.toList ++ [bracket])

theorem hangsAt_of_render (hv : Unbroken v) {indent : String} (hi : '\n' ∉ indent.toList)
    {threshold : Int} {s : String} (h : render indent threshold v = .ok s) :
    HangsAt indent s := by
  obtain ⟨l, hl, rfl⟩ := exists_of_map_eq_ok h
  have hunbroken := Literal.unbroken_of_ofValue? hv hl
  have hlines : linesOf (l.text indent threshold) =
      (l.write threshold indent.toList).splitOn '\n' := by
    rw [linesOf, Literal.text, String.toList_ofList]
  constructor
  · have hwrite : l.write threshold (indent.toList ++ []) =
        indentChars indent.toList (l.write threshold []) :=
      Literal.write_margin List.not_mem_nil hunbroken
    rw [List.append_nil] at hwrite
    rw [hlines, hwrite]
    exact prefix_of_mem_lines hi _
  · intro hseveral
    have hmem : '\n' ∈ l.write threshold indent.toList := by
      by_contra hnot
      rw [hlines, List.splitOn_eq_singleton hnot] at hseveral
      exact hseveral rfl
    obtain ⟨bracket, front, hbracket, hwrite⟩ := Literal.closing_of_newline_mem hunbroken hmem
    have hlast : '\n' ∉ indent.toList ++ [bracket] := by
      rw [List.mem_append, not_or, List.mem_singleton]
      refine ⟨hi, ?_⟩
      rcases hbracket with rfl | rfl <;> decide
    refine ⟨bracket, hbracket, ?_⟩
    rw [hlines, hwrite, getLast?_lines hlast]

/-- **A value that is written further to the right is the same text with the margin after every line
break; and every line after the first, the closing bracket's included, starts with the indent.** -/
theorem render_margin (hv : Unbroken v) (margin : String) {indent : String}
    (hi : '\n' ∉ indent.toList) (threshold : Int) :
    render (margin ++ indent) threshold v = (render indent threshold v).map (indentBy margin) ∧
      ∀ s, render indent threshold v = .ok s → HangsAt indent s :=
  ⟨render_append hv hi margin threshold, fun _ h => hangsAt_of_render hv hi h⟩

/-- A condition over three alternatives, written further to the right. -/
theorem render_margin_anyOf :
    render ("  " ++ "    ") 2 (.record [("anyOf", .list [.text "'[a]'", .int 1, .bool true])]) =
        (render "    " 2 (.record [("anyOf", .list [.text "'[a]'", .int 1, .bool true])])).map
          (indentBy "  ") ∧
      ∀ s, render "    " 2 (.record [("anyOf", .list [.text "'[a]'", .int 1, .bool true])]) =
        .ok s → HangsAt "    " s := by
  refine render_margin ?_ "  " ?_ 2
  · simp only [Unbroken, HoldUnbroken, AreUnbroken]
    decide
  · decide

end HealthAlert.Bicep
