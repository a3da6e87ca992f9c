import HealthAlert.Bicep.Emission

/-!
# The two layouts of arrays and objects

An array or object that is not empty stands on one line or takes a line for each part.
`inlineItems?` decides it for arrays and `sole?` for objects; `write_array` and `write_object` give
the text from that decision, so that no proof has to look at the patterns of `write`.

The two layouts differ only in the gap before each part: `write_array_eq_enclosed` and
`write_object_eq_enclosed` give the text as parts between brackets with that gap.
-/

namespace HealthAlert.Bicep

namespace Literal

variable {threshold : Int} {indent : List Char}

/-- The key and the scalar of an object that stands on one line. -/
def sole? : List (String × Literal) → Option (String × Scalar)
  | [(key, .scalar s)] => some (key, s)
  | _ => none

theorem eq_of_sole? {entries : List (String × Literal)} {key : String} {s : Scalar}
    (h : sole? entries = some (key, s)) : entries = [(key, .scalar s)] := by
  unfold sole? at h
  split at h
  · cases h
    rfl
  · exact absurd h (by simp)

theorem mapM_scalar? {items : List Literal} {scalars : List Scalar}
    (h : items.mapM scalar? = some scalars) : items = scalars.map .scalar := by
  induction items generalizing scalars with
  | nil =>
    cases h
    rfl
  | cons item items ih =>
    simp only [List.mapM_cons, Option.bind_eq_bind, Option.bind_eq_some_iff, Option.pure_def,
      Option.some.injEq] at h
    obtain ⟨s, hs, rest, hrest, rfl⟩ := h
    cases item with
    | scalar s' =>
      obtain rfl : s' = s := Option.some.inj hs
      rw [ih hrest, List.map_cons]
    | array _ => exact absurd hs (by simp [scalar?])
    | object _ => exact absurd hs (by simp [scalar?])

theorem eq_of_inlineItems? {items : List Literal} {scalars : List Scalar}
    (h : inlineItems? threshold items = some scalars) : items = scalars.map .scalar := by
  unfold inlineItems? at h
  split at h
  · exact mapM_scalar? h
  · exact absurd h (by simp)

/-- The text of an array that is not empty. -/
theorem write_array {items : List Literal} (h : items ≠ []) :
    write threshold indent (.array items) =
      match inlineItems? threshold items with
      | some scalars => '[' :: (scalars.flatMap (fun s => ' ' :: s.content.toList) ++ [' ', ']'])
      | none => '[' :: (writeItems threshold indent items ++ '\n' :: (indent ++ [']'])) := by
  cases items with
  | nil => exact absurd rfl h
  | cons item items =>
    unfold write
    rfl

/-- The text of an object that is not empty. -/
theorem write_object {entries : List (String × Literal)} (h : entries ≠ []) :
    write threshold indent (.object entries) =
      match sole? entries with
      | some (key, s) =>
        '\x7b' :: ' ' ::
          (keyChars key.toList ++ ':' :: ' ' :: (s.soleContent.toList ++ [' ', '\x7d']))
      | none =>
        '\x7b' :: (writeEntries threshold indent entries ++ '\n' :: (indent ++ ['\x7d'])) := by
  match entries with
  | [] => exact absurd rfl h
  | [(_, .scalar _)] => unfold write; rfl
  | [(_, .array _)] => unfold write; rfl
  | [(_, .object _)] => unfold write; rfl
  | (_, l) :: _ :: _ => cases l <;> (unfold write; rfl)

/-! ## One form for both layouts -/

/-- The characters of an entry. -/
def writeEntry (threshold : Int) (indent : List Char) (e : String × Literal) : List Char :=
  keyChars e.1.toList ++ ':' :: ' ' :: write threshold indent e.2

theorem writeItems_eq_flatMap (items : List Literal) :
    writeItems threshold indent items =
      (items.map (write threshold (indent ++ indentStep))).flatMap ('\n' :: indent ++ ·) := by
  induction items with
  | nil => rfl
  | cons item items ih => simp [writeItems, ih]

theorem writeEntries_eq_flatMap (entries : List (String × Literal)) :
    writeEntries threshold indent entries =
      (entries.map (writeEntry threshold (indent ++ indentStep))).flatMap
        ('\n' :: indent ++ ·) := by
  induction entries with
  | nil => rfl
  | cons e entries ih => simp [writeEntries, writeEntry, ih]

theorem isEmpty_of_gapOf_eq_nil {isEmpty onOneLine : Bool}
    (h : gapOf indent isEmpty onOneLine = []) : isEmpty = true := by
  unfold gapOf at h
  split at h
  · assumption
  · split at h <;> exact absurd h (by simp)

/-- The gap before each element of an array. -/
def itemGap (threshold : Int) (indent : List Char) (items : List Literal) : List Char :=
  gapOf indent items.isEmpty (inlineItems? threshold items).isSome

/-- The gap before each entry of an object. -/
def entryGap (indent : List Char) (entries : List (String × Literal)) : List Char :=
  gapOf indent entries.isEmpty (sole? entries).isSome

/-- The text of an array, whichever layout it has. -/
theorem write_array_eq_enclosed (items : List Literal) :
    write threshold indent (.array items) =
      enclosed '[' ']' (itemGap threshold indent items)
        (items.map (write threshold (indent ++ indentStep))) := by
  by_cases hne : items = []
  · subst hne
    rfl
  · have hempty : items.isEmpty = false := by simpa using hne
    rw [write_array hne]
    unfold enclosed itemGap gapOf
    rw [hempty]
    cases hs : inlineItems? threshold items with
    | some scalars =>
      have hwrite : write threshold (indent ++ indentStep) ∘ Literal.scalar =
          fun s => s.content.toList := rfl
      rw [eq_of_inlineItems? hs, List.map_map, hwrite, List.flatMap_map]
      rfl
    | none => simp [writeItems_eq_flatMap]

/-- The text of an object whose only scalar, if it stands on one line, is written as elsewhere. -/
theorem write_object_eq_enclosed {entries : List (String × Literal)}
    (h : ∀ key s, sole? entries = some (key, s) → s.soleContent = s.content) :
    write threshold indent (.object entries) =
      enclosed '\x7b' '\x7d' (entryGap indent entries)
        (entries.map (writeEntry threshold (indent ++ indentStep))) := by
  by_cases hne : entries = []
  · subst hne
    rfl
  · have hempty : entries.isEmpty = false := by simpa using hne
    rw [write_object hne]
    unfold enclosed entryGap gapOf
    rw [hempty]
    cases hs : sole? entries with
    | some e =>
      obtain ⟨key, s⟩ := e
      have hcontent := h key s hs
      rw [eq_of_sole? hs]
      simp [writeEntry, write, hcontent]
    | none => simp [writeEntries_eq_flatMap]

end Literal

end HealthAlert.Bicep
