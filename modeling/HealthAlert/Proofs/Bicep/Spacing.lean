import HealthAlert.Proofs.Bicep.UniqueReading

/-!
# What the layout of a tree does not change

Indent and threshold decide where spaces and line breaks stand in the text of a tree, and nothing
else. `solid` is a text without any of them, also without those inside its literals.

* `exists_literal_iff`: a value has a text exactly when it is `Writable`, whatever the layout.
* **`solid_text`**: two layouts of a tree are equal once they are solid.
-/

namespace HealthAlert.Bicep

/-! ## Texts without gaps -/

/-- The characters without spaces and line breaks. -/
def solidChars (cs : List Char) : List Char :=
  cs.filter fun c => !isGap c

/-- The text without spaces and line breaks. -/
def solid (s : String) : String :=
  String.ofList (solidChars s.toList)

theorem solidChars_append (cs ds : List Char) :
    solidChars (cs ++ ds) = solidChars cs ++ solidChars ds :=
  List.filter_append _ _

theorem solidChars_of_gaps {cs : List Char} (h : ∀ c ∈ cs, isGap c = true) :
    solidChars cs = [] := by
  refine List.filter_eq_nil_iff.mpr fun c hc => ?_
  simp [h c hc]

/-- A text is solid part by part. -/
theorem solid_append_congr {s s' t t' : String} (h : solid s = solid s') (h' : solid t = solid t') :
    solid (s ++ t) = solid (s' ++ t') := by
  have hs := String.ofList_injective h
  have ht := String.ofList_injective h'
  unfold solid
  rw [String.toList_append, String.toList_append, solidChars_append, solidChars_append, hs, ht]

/-- Of parts between brackets the gaps drop out. -/
theorem solidChars_enclosed {gap : List Char} (h : ∀ c ∈ gap, isGap c = true)
    (opening closing : Char) (parts : List (List Char)) :
    solidChars (enclosed opening closing gap parts) =
      solidChars [opening] ++ parts.flatMap solidChars ++ solidChars [closing] := by
  have hparts : solidChars (parts.flatMap (gap ++ ·)) = parts.flatMap solidChars := by
    induction parts with
    | nil => rfl
    | cons part parts ih =>
      rw [List.flatMap_cons, List.flatMap_cons, solidChars_append, solidChars_append,
        solidChars_of_gaps h, List.nil_append, ih]
  have hcut : enclosed opening closing gap parts =
      [opening] ++ parts.flatMap (gap ++ ·) ++ gap ++ [closing] := by
    simp [enclosed]
  rw [hcut, solidChars_append, solidChars_append, solidChars_append, hparts,
    solidChars_of_gaps h, List.append_nil]

theorem solidChars_enclosed_congr {gap gap' : List Char} (h : ∀ c ∈ gap, isGap c = true)
    (h' : ∀ c ∈ gap', isGap c = true) (opening closing : Char) {parts parts' : List (List Char)}
    (hparts : parts.flatMap solidChars = parts'.flatMap solidChars) :
    solidChars (enclosed opening closing gap parts) =
      solidChars (enclosed opening closing gap' parts') := by
  rw [solidChars_enclosed h, solidChars_enclosed h', hparts]

/-! ## Trees -/

namespace Literal

variable {threshold threshold' : Int}

/-- An object that stands on one line does so in every layout. -/
theorem write_sole (threshold threshold' : Int) (indent indent' : List Char) (key : String)
    (s : Scalar) :
    write threshold indent (.object [(key, .scalar s)]) =
      write threshold' indent' (.object [(key, .scalar s)]) := by
  rw [write, write]

mutual

/-- **Two layouts of a tree differ in their gaps only.** -/
theorem solidChars_write {indent indent' : List Char} (hi : ∀ c ∈ indent, c = ' ')
    (hi' : ∀ c ∈ indent', c = ' ') :
    ∀ l : Literal, solidChars (write threshold indent l) = solidChars (write threshold' indent' l)
  | .scalar s => by rw [write, write]
  | .array items => by
    have hitems := solidChars_items (spaces_append_indentStep hi) (spaces_append_indentStep hi')
      items
    rw [write_array_eq_enclosed, write_array_eq_enclosed]
    exact solidChars_enclosed_congr (isGap_of_mem_gapOf hi) (isGap_of_mem_gapOf hi') _ _ hitems
  | .object entries => by
    cases hs : sole? entries with
    | some e =>
      obtain ⟨key, s⟩ := e
      rw [eq_of_sole? hs, write_sole threshold threshold' indent indent']
    | none =>
      have hentries := solidChars_entries (spaces_append_indentStep hi)
        (spaces_append_indentStep hi') entries
      have hsole : ∀ key s, sole? entries = some (key, s) → s.soleContent = s.content :=
        fun key s h => absurd (hs.symm.trans h) (by simp)
      rw [write_object_eq_enclosed hsole, write_object_eq_enclosed hsole]
      exact solidChars_enclosed_congr (isGap_of_mem_gapOf hi) (isGap_of_mem_gapOf hi') _ _ hentries

theorem solidChars_items {indent indent' : List Char} (hi : ∀ c ∈ indent, c = ' ')
    (hi' : ∀ c ∈ indent', c = ' ') :
    ∀ items : List Literal,
      (items.map (write threshold indent)).flatMap solidChars =
        (items.map (write threshold' indent')).flatMap solidChars
  | [] => rfl
  | item :: items => by
    rw [List.map_cons, List.map_cons, List.flatMap_cons, List.flatMap_cons,
      solidChars_write hi hi' item, solidChars_items hi hi' items]

theorem solidChars_entries {indent indent' : List Char} (hi : ∀ c ∈ indent, c = ' ')
    (hi' : ∀ c ∈ indent', c = ' ') :
    ∀ entries : List (String × Literal),
      (entries.map (writeEntry threshold indent)).flatMap solidChars =
        (entries.map (writeEntry threshold' indent')).flatMap solidChars
  | [] => rfl
  | (key, item) :: entries => by
    have hentry : ∀ (t : Int) (i : List Char), solidChars (writeEntry t i (key, item)) =
        solidChars (keyChars key.toList ++ [':', ' ']) ++ solidChars (write t i item) := by
      intro t i
      rw [← solidChars_append, List.append_assoc]
      rfl
    rw [List.map_cons, List.map_cons, List.flatMap_cons, List.flatMap_cons, hentry, hentry,
      solidChars_write hi hi' item, solidChars_entries hi hi' entries]

end

theorem solid_text {indent indent' : String} (hi : ∀ c ∈ indent.toList, c = ' ')
    (hi' : ∀ c ∈ indent'.toList, c = ' ') (threshold threshold' : Int) (l : Literal) :
    solid (l.text indent threshold) = solid (l.text indent' threshold') := by
  unfold solid text
  rw [String.toList_ofList, String.toList_ofList, solidChars_write hi hi' l]

end Literal

/-! ## Values that have a text -/

mutual

/-- The value is built from texts, modes, truth values, numbers, lists and records. -/
def Writable : Value → Prop
  | .null => False
  | .foreign _ => False
  | .list vs => AreWritable vs
  | .tuple vs => AreWritable vs
  | .record es => HoldWritable es
  | _ => True

/-- The elements are writable. -/
def AreWritable : List Value → Prop
  | [] => True
  | v :: vs => Writable v ∧ AreWritable vs

/-- The entries hold writable values. -/
def HoldWritable : List (String × Value) → Prop
  | [] => True
  | (_, v) :: es => Writable v ∧ HoldWritable es

end

theorem exists_of_map_eq_ok {ε α β : Type} {x : Except ε α} {f : α → β} {b : β}
    (h : x.map f = .ok b) : ∃ a, x = .ok a ∧ f a = b := by
  cases x with
  | error e => exact nomatch h
  | ok a => exact ⟨a, rfl, Except.ok.inj h⟩

theorem exists_map_eq_ok_iff {ε α β : Type} {x : Except ε α} {f : α → β} :
    (∃ b, x.map f = .ok b) ↔ ∃ a, x = .ok a := by
  cases x with
  | error e => simp [Except.map]
  | ok a => simp [Except.map]

namespace Literal

/-- A list is read element by element. -/
theorem ofItems?_cons_eq_ok {v : Value} {vs : List Value} {items : List Literal}
    (h : ofItems? (v :: vs) = .ok items) :
    ∃ l ls, ofValue? v = .ok l ∧ ofItems? vs = .ok ls ∧ items = l :: ls := by
  rw [ofItems?] at h
  cases hl : ofValue? v with
  | error e => rw [hl] at h; exact nomatch h
  | ok l =>
    rw [hl] at h
    obtain ⟨ls, hls, rfl⟩ := exists_of_map_eq_ok h
    exact ⟨l, ls, rfl, hls, rfl⟩

/-- A record is read entry by entry. -/
theorem ofEntries?_cons_eq_ok {key : String} {v : Value} {es : List (String × Value)}
    {entries : List (String × Literal)} (h : ofEntries? ((key, v) :: es) = .ok entries) :
    ∃ l ls, ofValue? v = .ok l ∧ ofEntries? es = .ok ls ∧ entries = (key, l) :: ls := by
  rw [ofEntries?] at h
  cases hl : ofValue? v with
  | error e => rw [hl] at h; exact nomatch h
  | ok l =>
    rw [hl] at h
    obtain ⟨ls, hls, rfl⟩ := exists_of_map_eq_ok h
    exact ⟨l, ls, rfl, hls, rfl⟩

end Literal

mutual

/-- **A value has a text exactly when it is writable.** -/
theorem exists_literal_iff : ∀ v : Value, (∃ l, Literal.ofValue? v = .ok l) ↔ Writable v
  | .null => by simp [Literal.ofValue?, Writable]
  | .bool b => by simp [Literal.ofValue?, Writable]
  | .int n => by simp [Literal.ofValue?, Writable]
  | .float x => by simp [Literal.ofValue?, Writable]
  | .text s => by simp [Literal.ofValue?, Writable]
  | .member m => by simp [Literal.ofValue?, Writable]
  | .foreign k => by simp [Literal.ofValue?, Writable]
  | .list vs => by
    rw [Literal.ofValue?, Writable, exists_map_eq_ok_iff]
    exact exists_literals_iff vs
  | .tuple vs => by
    rw [Literal.ofValue?, Writable, exists_map_eq_ok_iff]
    exact exists_literals_iff vs
  | .record es => by
    rw [Literal.ofValue?, Writable, exists_map_eq_ok_iff]
    exact exists_entries_iff es

theorem exists_literals_iff :
    ∀ vs : List Value, (∃ ls, Literal.ofItems? vs = .ok ls) ↔ AreWritable vs
  | [] => by simp [Literal.ofItems?, AreWritable]
  | v :: vs => by
    have hv := exists_literal_iff v
    have hvs := exists_literals_iff vs
    rw [Literal.ofItems?, AreWritable, ← hv, ← hvs]
    cases Literal.ofValue? v with
    | error e => simp
    | ok l => simp [exists_map_eq_ok_iff]

theorem exists_entries_iff :
    ∀ es : List (String × Value), (∃ ls, Literal.ofEntries? es = .ok ls) ↔ HoldWritable es
  | [] => by simp [Literal.ofEntries?, HoldWritable]
  | (key, v) :: es => by
    have hv := exists_literal_iff v
    have hes := exists_entries_iff es
    rw [Literal.ofEntries?, HoldWritable, ← hv, ← hes]
    cases Literal.ofValue? v with
    | error e => simp
    | ok l => simp [exists_map_eq_ok_iff]

end

/-- A writable value has a text in every layout, and without gaps it is always the same. -/
theorem exists_render_of_writable {indent indent' : String} (hi : ∀ c ∈ indent.toList, c = ' ')
    (hi' : ∀ c ∈ indent'.toList, c = ' ') (threshold threshold' : Int) {v : Value}
    (h : Writable v) :
    ∃ s s', render indent threshold v = .ok s ∧ render indent' threshold' v = .ok s' ∧
      solid s = solid s' := by
  obtain ⟨l, hl⟩ := (exists_literal_iff v).mpr h
  refine ⟨l.text indent threshold, l.text indent' threshold', ?_, ?_, ?_⟩
  · rw [render, hl]
    rfl
  · rw [render, hl]
    rfl
  · exact l.solid_text hi hi' threshold threshold'

end HealthAlert.Bicep
