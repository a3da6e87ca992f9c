import HealthAlert.Proofs.Bicep.Spacing

/-!
# Writing in one pass

The text of a value is that of its tree, so a value is read before any layout is chosen.
`writeValue` does both at once: it chooses the layout of every list and record by looking at the
values in it, writes their texts one after the other, and stops at the first value that has none.

* `inlineItems?_of_ofItems?`, `sole?_of_ofEntries?`: the layout that is chosen on values is the one
  that is chosen on their trees.
* **`writeValue_eq`**: writing in one pass gives the text of the tree, or the fault of its reading.
-/

namespace HealthAlert.Bicep

open Literal

/-! ## Layouts of values -/

variable {threshold : Int}

theorem scalar?_of_ofValue? {v : Value} {l : Literal} (h : ofValue? v = .ok l) :
    l.scalar? = Scalar.ofValue? v := by
  cases v with
  | null => cases h
  | foreign _ => cases h
  | list vs =>
    obtain ⟨items, -, rfl⟩ := exists_of_map_eq_ok h
    rfl
  | tuple vs =>
    obtain ⟨items, -, rfl⟩ := exists_of_map_eq_ok h
    rfl
  | record es =>
    obtain ⟨entries, -, rfl⟩ := exists_of_map_eq_ok h
    rfl
  | _ => cases h; rfl

theorem length_of_ofItems? {vs : List Value} {items : List Literal}
    (h : ofItems? vs = .ok items) : items.length = vs.length := by
  induction vs generalizing items with
  | nil => cases h; rfl
  | cons v vs ih =>
    obtain ⟨l, ls, -, hls, rfl⟩ := ofItems?_cons_eq_ok h
    rw [List.length_cons, List.length_cons, ih hls]

theorem length_of_ofEntries? {es : List (String × Value)} {entries : List (String × Literal)}
    (h : ofEntries? es = .ok entries) : entries.length = es.length := by
  induction es generalizing entries with
  | nil => cases h; rfl
  | cons e es ih =>
    obtain ⟨l, ls, -, hls, rfl⟩ := ofEntries?_cons_eq_ok h
    rw [List.length_cons, List.length_cons, ih hls]

theorem mapM_scalar?_of_ofItems? {vs : List Value} {items : List Literal}
    (h : ofItems? vs = .ok items) : items.mapM scalar? = vs.mapM Scalar.ofValue? := by
  induction vs generalizing items with
  | nil => cases h; rfl
  | cons v vs ih =>
    obtain ⟨l, ls, hl, hls, rfl⟩ := ofItems?_cons_eq_ok h
    rw [List.mapM_cons, List.mapM_cons, scalar?_of_ofValue? hl, ih hls]

/-- A list and its tree stand on one line under the same thresholds. -/
theorem inlineItems?_of_ofItems? {vs : List Value} {items : List Literal}
    (h : ofItems? vs = .ok items) : inlineItems? threshold items = inlineScalars? threshold vs := by
  rw [inlineItems?, inlineScalars?, length_of_ofItems? h, mapM_scalar?_of_ofItems? h]

/-- A record and its tree stand on one line together. -/
theorem sole?_of_ofEntries? {es : List (String × Value)} {entries : List (String × Literal)}
    (h : ofEntries? es = .ok entries) : sole? entries = soleScalar? es := by
  match es with
  | [] => cases h; rfl
  | [(key, v)] =>
    obtain ⟨l, ls, hl, hls, rfl⟩ := ofEntries?_cons_eq_ok h
    cases hls
    rw [soleScalar?, ← scalar?_of_ofValue? hl]
    cases l <;> rfl
  | (key, v) :: (key', v') :: es =>
    obtain ⟨l, ls, -, hls, rfl⟩ := ofEntries?_cons_eq_ok h
    obtain ⟨l', ls', -, -, rfl⟩ := ofEntries?_cons_eq_ok hls
    cases l <;> rfl

theorem isEmpty_of_ofItems? {vs : List Value} {items : List Literal}
    (h : ofItems? vs = .ok items) : items.isEmpty = vs.isEmpty := by
  cases vs with
  | nil => cases h; rfl
  | cons v vs =>
    obtain ⟨l, ls, -, -, rfl⟩ := ofItems?_cons_eq_ok h
    rfl

theorem isEmpty_of_ofEntries? {es : List (String × Value)} {entries : List (String × Literal)}
    (h : ofEntries? es = .ok entries) : entries.isEmpty = es.isEmpty := by
  cases es with
  | nil => cases h; rfl
  | cons e es =>
    obtain ⟨l, ls, -, -, rfl⟩ := ofEntries?_cons_eq_ok h
    rfl

/-! ## One pass -/

mutual

/-- The characters of a value whose lines start at `indent`, or the fault of the first value in it
that has none. -/
def writeValue (threshold : Int) (indent : List Char) : Value → Except RenderFault (List Char)
  | .list vs => (writeValues threshold (indent ++ indentStep) vs).map
      (enclosed '[' ']' (gapOf indent vs.isEmpty (inlineScalars? threshold vs).isSome))
  | .tuple vs => (writeValues threshold (indent ++ indentStep) vs).map
      (enclosed '[' ']' (gapOf indent vs.isEmpty (inlineScalars? threshold vs).isSome))
  | .record es =>
    match soleScalar? es with
    | some (key, s) => .ok (enclosed '\x7b' '\x7d' [' ']
        [keyChars key.toList ++ ':' :: ' ' :: s.soleContent.toList])
    | none => (writeFields threshold (indent ++ indentStep) es).map
        (enclosed '\x7b' '\x7d' (gapOf indent es.isEmpty false))
  | v =>
    match Scalar.ofValue? v with
    | some s => .ok s.content.toList
    | none => .error (.notALiteral v.typeName)

/-- The characters of each value. -/
def writeValues (threshold : Int) (indent : List Char) :
    List Value → Except RenderFault (List (List Char))
  | [] => .ok []
  | v :: vs =>
    match writeValue threshold indent v with
    | .error f => .error f
    | .ok part => (writeValues threshold indent vs).map (part :: ·)

/-- The characters of each field. -/
def writeFields (threshold : Int) (indent : List Char) :
    List (String × Value) → Except RenderFault (List (List Char))
  | [] => .ok []
  | (key, v) :: es =>
    match writeValue threshold indent v with
    | .error f => .error f
    | .ok part => (writeFields threshold indent es).map
        ((keyChars key.toList ++ ':' :: ' ' :: part) :: ·)

end

theorem writeValues_cons (indent : List Char) (v : Value) (vs : List Value) :
    writeValues threshold indent (v :: vs) = (writeValue threshold indent v).bind fun part =>
      (writeValues threshold indent vs).map (part :: ·) := by
  rw [writeValues]
  cases writeValue threshold indent v <;> rfl

theorem writeFields_cons (indent : List Char) (key : String) (v : Value)
    (es : List (String × Value)) :
    writeFields threshold indent ((key, v) :: es) =
      (writeValue threshold indent v).bind fun part =>
        (writeFields threshold indent es).map
          ((keyChars key.toList ++ ':' :: ' ' :: part) :: ·) := by
  rw [writeFields]
  cases writeValue threshold indent v <;> rfl

/-- A record whose only entry is a scalar stands on one line. -/
theorem writeValue_sole {v : Value} {s : Scalar} (h : Scalar.ofValue? v = some s)
    (indent : List Char) (key : String) :
    writeValue threshold indent (.record [(key, v)]) = .ok (enclosed '\x7b' '\x7d' [' ']
      [keyChars key.toList ++ ':' :: ' ' :: s.soleContent.toList]) := by
  have hsole : soleScalar? [(key, v)] = some (key, s) := by rw [soleScalar?, h]; rfl
  rw [writeValue, hsole]

/-- The parts of a list between its brackets are its tree's text. -/
theorem map_enclosed_ofItems? (indent : List Char) (vs : List Value) :
    ((ofItems? vs).map (·.map (write threshold (indent ++ indentStep)))).map
        (enclosed '[' ']' (gapOf indent vs.isEmpty (inlineScalars? threshold vs).isSome)) =
      ((ofItems? vs).map Literal.array).map (write threshold indent) := by
  cases h : ofItems? vs with
  | error f => rfl
  | ok items =>
    simp only [Except.map, write_array_eq_enclosed, itemGap, isEmpty_of_ofItems? h,
      inlineItems?_of_ofItems? h]

/-- The entries of a record that takes several lines, between its brackets, are its tree's text. -/
theorem map_enclosed_ofEntries? (indent : List Char) {es : List (String × Value)}
    (hsole : soleScalar? es = none) :
    ((ofEntries? es).map (·.map (writeEntry threshold (indent ++ indentStep)))).map
        (enclosed '\x7b' '\x7d' (gapOf indent es.isEmpty false)) =
      ((ofEntries? es).map Literal.object).map (write threshold indent) := by
  cases h : ofEntries? es with
  | error f => rfl
  | ok entries =>
    have hnone : sole? entries = none := (sole?_of_ofEntries? h).trans hsole
    have hcontent : ∀ key s, sole? entries = some (key, s) → s.soleContent = s.content :=
      fun key s hs => absurd (hnone.symm.trans hs) (by simp)
    simp only [Except.map, write_object_eq_enclosed hcontent, entryGap, hnone,
      isEmpty_of_ofEntries? h, Option.isSome_none]

theorem exists_of_soleScalar? {es : List (String × Value)} {key : String} {s : Scalar}
    (h : soleScalar? es = some (key, s)) :
    ∃ v, es = [(key, v)] ∧ Scalar.ofValue? v = some s := by
  match es with
  | [(key', v)] =>
    obtain ⟨s', hs, heq⟩ := Option.map_eq_some_iff.mp h
    obtain ⟨rfl, rfl⟩ := Prod.mk.inj heq
    exact ⟨v, rfl, hs⟩

/-- A record that stands on one line is read as the object of its one scalar. -/
theorem ofEntries?_of_soleScalar? {es : List (String × Value)} {key : String} {s : Scalar}
    (h : soleScalar? es = some (key, s)) : ofEntries? es = .ok [(key, .scalar s)] := by
  obtain ⟨v, rfl, hv⟩ := exists_of_soleScalar? h
  cases v <;> cases hv <;> rfl

mutual

/-- **Writing in one pass gives the text of the tree, or the fault of its reading.** -/
theorem writeValue_eq (threshold : Int) :
    ∀ (indent : List Char) (v : Value),
      writeValue threshold indent v = (ofValue? v).map (write threshold indent)
  | _, .null => rfl
  | _, .foreign _ => rfl
  | _, .bool _ => rfl
  | _, .int _ => rfl
  | _, .float _ => rfl
  | _, .text _ => rfl
  | _, .member _ => rfl
  | indent, .list vs => by
    rw [writeValue, ofValue?, writeValues_eq threshold (indent ++ indentStep) vs,
      map_enclosed_ofItems?]
  | indent, .tuple vs => by
    rw [writeValue, ofValue?, writeValues_eq threshold (indent ++ indentStep) vs,
      map_enclosed_ofItems?]
  | indent, .record es => by
    rw [writeValue, ofValue?]
    cases hs : soleScalar? es with
    | some e =>
      obtain ⟨key, s⟩ := e
      simp only [ofEntries?_of_soleScalar? hs, Except.map, write, enclosed, List.flatMap_cons,
        List.flatMap_nil, List.append_nil, List.append_assoc, List.cons_append, List.nil_append]
    | none =>
      simp only [writeFields_eq threshold (indent ++ indentStep) es]
      exact map_enclosed_ofEntries? indent hs

theorem writeValues_eq (threshold : Int) :
    ∀ (indent : List Char) (vs : List Value),
      writeValues threshold indent vs = (ofItems? vs).map (·.map (write threshold indent))
  | _, [] => rfl
  | indent, v :: vs => by
    rw [writeValues, ofItems?, writeValue_eq threshold indent v]
    cases ofValue? v with
    | error f => rfl
    | ok l =>
      simp only [Except.map, writeValues_eq threshold indent vs]
      cases ofItems? vs <;> rfl

theorem writeFields_eq (threshold : Int) :
    ∀ (indent : List Char) (es : List (String × Value)),
      writeFields threshold indent es = (ofEntries? es).map (·.map (writeEntry threshold indent))
  | _, [] => rfl
  | indent, (key, v) :: es => by
    rw [writeFields, ofEntries?, writeValue_eq threshold indent v]
    cases ofValue? v with
    | error f => rfl
    | ok l =>
      simp only [Except.map, writeFields_eq threshold indent es]
      cases ofEntries? es <;> rfl

end

theorem render_eq_writeValue (indent : String) (threshold : Int) (v : Value) :
    render indent threshold v = (writeValue threshold indent.toList v).map String.ofList := by
  rw [render, writeValue_eq]
  cases ofValue? v <;> rfl

end HealthAlert.Bicep
