import HealthAlert.Proofs.Bicep.Lines

/-!
# What a scalar is written as where it stands

A `Slot` is a list, tuple or record with one place left open, and slots inside one another lead from
a value to a place anywhere in it. Whatever scalar stands in that place, the text around it is the
same (`render_fill`): in front of it comes a gap, which is a space on one line and otherwise a line
break with the indent, and the key if the place is a field; behind it comes the same gap. In between
stands the canonical text of the scalar. There is one exception: a member of an enumeration that is
the only field of a record is written by its name.

* `exists_parts`: what stands in a slot is written as one part among others, which do not depend on
  it, unless it is a scalar in the only field of a record.
* `writeValue_fill`, `writeValue_fillAll`: a scalar in a slot, and in slots inside one another.
* **`render_fill`**: the same for texts, with the canonical text of the scalar.
* `render_soleMode`: a mode that is an only field (`fullName_ne_text_mode`).
-/

namespace HealthAlert.Bicep

open Literal

/-! ## Slots -/

/-- A list, tuple or record with one place left open. -/
inductive Slot where
  | item (inTuple : Bool) (before after : List Value)
  | field (before : List (String × Value)) (key : String) (after : List (String × Value))

namespace Slot

/-- The list, tuple or record with a value in its open place. -/
def fill (v : Value) : Slot → Value
  | .item false before after => .list (before ++ v :: after)
  | .item true before after => .tuple (before ++ v :: after)
  | .field before key after => .record (before ++ (key, v) :: after)

/-- Everything beside the open place has a text. -/
def Writable : Slot → Prop
  | .item _ before after => AreWritable before ∧ AreWritable after
  | .field before _ after => HoldWritable before ∧ HoldWritable after

/-- The open place is the only field of a record. -/
def isSole : Slot → Bool
  | .item _ _ _ => false
  | .field before _ after => before.isEmpty && after.isEmpty

/-- With a scalar in its open place, the whole stands on one line. -/
def isInline (threshold : Int) : Slot → Bool
  | .item _ before after =>
    decide ((before.length : Int) + 1 + after.length ≤ threshold) && (before ++ after).all isScalar
  | .field before _ after => before.isEmpty && after.isEmpty

/-- What stands on both sides of a scalar: a space on one line, and otherwise a new line. -/
def gap (threshold : Int) (indent : List Char) (slot : Slot) : List Char :=
  if slot.isInline threshold then [' '] else '\n' :: indent

/-- The key of a field and the colon behind it. -/
def label : Slot → List Char
  | .item _ _ _ => []
  | .field _ key _ => keyChars key.toList ++ [':', ' ']

/-- How the scalar in the open place is written. -/
def shown (slot : Slot) (s : Scalar) : String :=
  if slot.isSole then s.soleContent else s.content

/-- What opens the list, tuple or record. -/
def opening : Slot → Char
  | .item _ _ _ => '['
  | .field _ _ _ => '\x7b'

/-- What closes it. -/
def closing : Slot → Char
  | .item _ _ _ => ']'
  | .field _ _ _ => '\x7d'

end Slot

/-- A value inside slots, the outermost of them first. -/
def fillAll (outer : List Slot) (v : Value) : Value :=
  outer.foldr (fun slot v => slot.fill v) v

/-! ## The other parts -/

variable {threshold : Int} {indent : List Char} {v : Value} {s : Scalar}

theorem exists_writeValues (threshold : Int) (indent : List Char) {vs : List Value}
    (h : AreWritable vs) : ∃ parts, writeValues threshold indent vs = .ok parts := by
  obtain ⟨ls, hls⟩ := (exists_literals_iff vs).mpr h
  exact ⟨_, by rw [writeValues_eq, hls]; rfl⟩

theorem exists_writeFields (threshold : Int) (indent : List Char) {es : List (String × Value)}
    (h : HoldWritable es) : ∃ parts, writeFields threshold indent es = .ok parts := by
  obtain ⟨ls, hls⟩ := (exists_entries_iff es).mpr h
  exact ⟨_, by rw [writeFields_eq, hls]; rfl⟩

/-- The parts of a list, from those before one value, its own, and those after it. -/
theorem writeValues_insert {before after : List Value} {ps qs : List (List Char)} {p : List Char}
    (hbefore : writeValues threshold indent before = .ok ps)
    (hv : writeValue threshold indent v = .ok p)
    (hafter : writeValues threshold indent after = .ok qs) :
    writeValues threshold indent (before ++ v :: after) = .ok (ps ++ p :: qs) := by
  induction before generalizing ps with
  | nil =>
    cases hbefore
    rw [List.nil_append, writeValues, hv]
    simp only [hafter]
    rfl
  | cons x before ih =>
    rw [writeValues] at hbefore
    rw [List.cons_append, writeValues]
    cases hx : writeValue threshold indent x with
    | error f =>
      rw [hx] at hbefore
      exact nomatch hbefore
    | ok part =>
      rw [hx] at hbefore
      obtain ⟨parts, hparts, rfl⟩ := exists_of_map_eq_ok hbefore
      simp only [ih hparts]
      rfl

/-- The parts of a record, from those before one field, its own, and those after it. -/
theorem writeFields_insert {before after : List (String × Value)} {ps qs : List (List Char)}
    {p : List Char} {key : String} (hbefore : writeFields threshold indent before = .ok ps)
    (hv : writeValue threshold indent v = .ok p)
    (hafter : writeFields threshold indent after = .ok qs) :
    writeFields threshold indent (before ++ (key, v) :: after) =
      .ok (ps ++ (keyChars key.toList ++ ':' :: ' ' :: p) :: qs) := by
  induction before generalizing ps with
  | nil =>
    cases hbefore
    rw [List.nil_append, writeFields, hv]
    simp only [hafter]
    rfl
  | cons e before ih =>
    obtain ⟨k, x⟩ := e
    rw [writeFields] at hbefore
    rw [List.cons_append, writeFields]
    cases hx : writeValue threshold indent x with
    | error f =>
      rw [hx] at hbefore
      exact nomatch hbefore
    | ok part =>
      rw [hx] at hbefore
      obtain ⟨parts, hparts, rfl⟩ := exists_of_map_eq_ok hbefore
      simp only [ih hparts]
      rfl

/-! ## Layouts -/

theorem writeValue_scalar (h : Scalar.ofValue? v = some s) (threshold : Int) (indent : List Char) :
    writeValue threshold indent v = .ok s.content.toList := by
  cases v <;> cases h <;> rfl

/-- Which layout a list has does not depend on the scalar in one of its places. -/
theorem isSome_inlineScalars?_insert (threshold : Int) (inTuple : Bool) (before after : List Value)
    (v : Value) :
    (inlineScalars? threshold (before ++ v :: after)).isSome =
      (Slot.isInline threshold (.item inTuple before after) && isScalar v) := by
  have hlength : ((before ++ v :: after).length : Int) = before.length + 1 + after.length := by
    rw [List.length_append, List.length_cons]
    push_cast
    ring
  rw [inlineScalars?, hlength, Slot.isInline]
  by_cases hfits : (before.length : Int) + 1 + after.length ≤ threshold
  · rw [if_pos hfits, isSome_mapM_ofValue?, decide_eq_true hfits, Bool.true_and, List.all_append,
      List.all_append, List.all_cons, Bool.and_comm (isScalar v), Bool.and_assoc]
  · rw [if_neg hfits, decide_eq_false hfits]
    rfl

theorem soleScalar?_insert (before after : List (String × Value)) (key : String) (v : Value) :
    soleScalar? (before ++ (key, v) :: after) =
      if before.isEmpty && after.isEmpty then (Scalar.ofValue? v).map (key, ·) else none := by
  cases before with
  | nil => cases after <;> rfl
  | cons e before =>
    obtain ⟨k, x⟩ := e
    cases before <;> rfl

/-- A value in a slot is a part of the whole like any other, unless it is a scalar in the only field
of a record. The other parts do not depend on it. -/
theorem exists_parts (threshold : Int) (indent : List Char) {slot : Slot} (hw : slot.Writable) :
    ∃ ps qs, ∀ v p, (slot.isSole && isScalar v) = false →
      writeValue threshold (indent ++ indentStep) v = .ok p →
      writeValue threshold indent (slot.fill v) = .ok (enclosed slot.opening slot.closing
        (gapOf indent false (slot.isInline threshold && isScalar v))
        (ps ++ (slot.label ++ p) :: qs)) := by
  cases slot with
  | item inTuple before after =>
    obtain ⟨ps, hps⟩ := exists_writeValues threshold (indent ++ indentStep) hw.1
    obtain ⟨qs, hqs⟩ := exists_writeValues threshold (indent ++ indentStep) hw.2
    refine ⟨ps, qs, fun v p _ hp => ?_⟩
    have hempty : (before ++ v :: after).isEmpty = false := by cases before <;> rfl
    cases inTuple <;>
      rw [Slot.fill, writeValue, writeValues_insert hps hp hqs, hempty,
        isSome_inlineScalars?_insert] <;> rfl
  | field before key after =>
    obtain ⟨ps, hps⟩ := exists_writeFields threshold (indent ++ indentStep) hw.1
    obtain ⟨qs, hqs⟩ := exists_writeFields threshold (indent ++ indentStep) hw.2
    refine ⟨ps, qs, fun v p hlines hp => ?_⟩
    have hempty : (before ++ (key, v) :: after).isEmpty = false := by cases before <;> rfl
    have hsole : soleScalar? (before ++ (key, v) :: after) = none := by
      rw [soleScalar?_insert]
      split
      · rename_i hboth
        have hscalar : (Scalar.ofValue? v).isSome = false := by
          rw [Slot.isSole, hboth, Bool.true_and] at hlines
          exact hlines
        rw [Option.isSome_eq_false_iff, Option.isNone_iff_eq_none] at hscalar
        rw [hscalar]
        rfl
      · rfl
    rw [Slot.fill, writeValue, hsole]
    simp only [writeFields_insert hps hp hqs, hempty]
    rw [show (Slot.isInline threshold (.field before key after) && isScalar v) = false from hlines]
    simp [Slot.label, Slot.opening, Slot.closing, Except.map]

/-- **A scalar in a slot.** The layout and the other parts are the same for all scalars. -/
theorem writeValue_fill (threshold : Int) (indent : List Char) {slot : Slot} (hw : slot.Writable) :
    ∃ ps qs, ∀ v s, Scalar.ofValue? v = some s →
      writeValue threshold indent (slot.fill v) = .ok (enclosed slot.opening slot.closing
        (slot.gap threshold indent) (ps ++ (slot.label ++ (slot.shown s).toList) :: qs)) := by
  cases hsole : slot.isSole with
  | false =>
    obtain ⟨ps, qs, hparts⟩ := exists_parts threshold indent hw
    refine ⟨ps, qs, fun v s hs => ?_⟩
    have hscalar : isScalar v = true := by rw [isScalar, hs]; rfl
    rw [hparts v _ (by rw [hsole]; rfl) (writeValue_scalar hs _ _), hscalar, Bool.and_true,
      Slot.shown, hsole]
    rfl
  | true =>
    cases slot with
    | item _ _ _ => simp [Slot.isSole] at hsole
    | field before key after =>
      rw [Slot.isSole, Bool.and_eq_true, List.isEmpty_iff, List.isEmpty_iff] at hsole
      obtain ⟨rfl, rfl⟩ := hsole
      refine ⟨[], [], fun v s hs => ?_⟩
      rw [Slot.fill, List.nil_append, writeValue_sole hs]
      simp [Slot.label, Slot.opening, Slot.closing, Slot.gap, Slot.isInline, Slot.shown,
        Slot.isSole]

/-! ## Texts around a place -/

/-- In front of every part and behind it stands the gap. -/
theorem enclosed_insert (opening closing : Char) (gap : List Char) (ps qs : List (List Char)) :
    ∃ front back, ∀ p,
      enclosed opening closing gap (ps ++ p :: qs) = front ++ (gap ++ p ++ gap) ++ back := by
  cases qs with
  | nil => exact ⟨opening :: ps.flatMap (gap ++ ·), [closing], fun p => by simp [enclosed]⟩
  | cons q qs =>
    refine ⟨opening :: ps.flatMap (gap ++ ·), q ++ (qs.flatMap (gap ++ ·) ++ (gap ++ [closing])),
      fun p => ?_⟩
    simp [enclosed]

theorem isScalar_fill (slot : Slot) (v : Value) : isScalar (slot.fill v) = false := by
  cases slot with
  | item inTuple _ _ => cases inTuple <;> rfl
  | field _ _ _ => rfl

/-- The indent inside so many slots. -/
def indentInside (indent : List Char) (depth : Nat) : List Char :=
  indent ++ List.replicate (2 * depth) ' '

theorem indentInside_succ (indent : List Char) (depth : Nat) :
    indentInside (indent ++ indentStep) depth = indentInside indent (depth + 1) := by
  rw [indentInside, indentInside, List.append_assoc, Nat.mul_succ, Nat.add_comm,
    List.replicate_add]
  rfl

/-- **A scalar inside slots**, by induction on the slots around the one that holds it. -/
theorem writeValue_fillAll (threshold : Int) (indent : List Char) {outer : List Slot} {slot : Slot}
    (ho : ∀ o ∈ outer, o.Writable) (hw : slot.Writable) :
    ∃ front back, ∀ v s, Scalar.ofValue? v = some s →
      writeValue threshold indent (fillAll outer (slot.fill v)) =
        .ok (front ++ (slot.gap threshold (indentInside indent outer.length) ++
          (slot.label ++ (slot.shown s).toList) ++
            slot.gap threshold (indentInside indent outer.length)) ++ back) := by
  induction outer generalizing indent with
  | nil =>
    obtain ⟨ps, qs, hparts⟩ := writeValue_fill threshold indent hw
    obtain ⟨front, back, henclosed⟩ := enclosed_insert slot.opening slot.closing
      (slot.gap threshold indent) ps qs
    refine ⟨front, back, fun v s hs => ?_⟩
    have hindent : indentInside indent ([] : List Slot).length = indent := List.append_nil _
    rw [fillAll, List.foldr_nil, hparts v s hs, henclosed, hindent]
  | cons o outer ih =>
    rw [List.forall_mem_cons] at ho
    obtain ⟨front, back, hinner⟩ := ih (indent ++ indentStep) ho.2
    obtain ⟨ps, qs, hparts⟩ := exists_parts threshold indent ho.1
    obtain ⟨front', back', henclosed⟩ := enclosed_insert o.opening o.closing
      (gapOf indent false false) ps qs
    refine ⟨front' ++ gapOf indent false false ++ o.label ++ front,
      back ++ gapOf indent false false ++ back', fun v s hs => ?_⟩
    have hscalar : isScalar (fillAll outer (slot.fill v)) = false := by
      cases outer <;> exact isScalar_fill _ _
    have hfill : fillAll (o :: outer) (slot.fill v) = o.fill (fillAll outer (slot.fill v)) := rfl
    rw [hfill, hparts _ _ (by rw [hscalar, Bool.and_false]) (hinner v s hs), hscalar,
      Bool.and_false, henclosed, indentInside_succ]
    simp only [List.append_assoc, List.length_cons]

/-! ## Scalars -/

/-- Only a member whose name is not its text is written in another way than the canonical one. -/
theorem soleContent_eq_content_iff :
    s.soleContent = s.content ↔ ¬ ∃ m, s = .member m ∧ m.fullName ≠ m.text := by
  cases s with
  | member m => simp [Scalar.soleContent, Scalar.content]
  | _ => simp [Scalar.soleContent]

/-- Every mode is such a member. -/
theorem fullName_ne_text_mode (m : ActionMode) : m.member.fullName ≠ m.member.text := by
  cases m <;> decide

theorem renderScalar_eq_ok_iff {text : String} :
    renderScalar v = .ok text ↔ ∃ s, Scalar.ofValue? v = some s ∧ s.content = text := by
  unfold renderScalar
  cases Scalar.ofValue? v <;> simp

/-- **What a scalar is written as where it stands.** Whatever is put into a place anywhere in a
value, the text is the same but for what stands between the gaps in front of the place and behind
it: the key of the place, if it is a field, and the scalar. The scalar is written by its canonical
text, but for a member of an enumeration that is the only field of a record, which is written by its
name. -/
theorem render_fill (outer : List Slot) (slot : Slot) (ho : ∀ o ∈ outer, o.Writable)
    (hw : slot.Writable) (indent : String) (threshold : Int) :
    ∃ front back : List Char, ∀ (v : Value) (text : String), renderScalar v = .ok text →
      ∃ shown : String,
        render indent threshold (fillAll outer (slot.fill v)) =
          .ok (String.ofList (front ++
            (slot.gap threshold (indentInside indent.toList outer.length) ++
              (slot.label ++ shown.toList) ++
                slot.gap threshold (indentInside indent.toList outer.length)) ++ back)) ∧
        (shown = text ↔
          ¬ (slot.isSole = true ∧ ∃ m, v = .member m ∧ m.fullName ≠ m.text)) ∧
        ∀ m, slot.isSole = true → v = .member m → shown = m.fullName := by
  obtain ⟨front, back, hwrite⟩ := writeValue_fillAll threshold indent.toList ho hw
  refine ⟨front, back, fun v text htext => ?_⟩
  obtain ⟨s, hs, rfl⟩ := renderScalar_eq_ok_iff.mp htext
  have hmember (m : TextMember) : v = .member m ↔ s = .member m := by
    cases v <;> cases hs <;> simp
  refine ⟨slot.shown s, by rw [render_eq_writeValue, hwrite v s hs]; rfl, ?_, fun m hsole hv => ?_⟩
  · unfold Slot.shown
    split
    · rename_i hsole
      rw [soleContent_eq_content_iff, hsole]
      simp [hmember]
    · rename_i hsole
      simp [hsole]
  · obtain rfl := (hmember m).mp hv
    rw [Slot.shown, hsole]
    rfl

/-- The only alternative of a condition, in a list of two conditions. -/
theorem render_fill_alternative :
    (∀ o ∈ [Slot.item false [.record [("field", .text "'category'")]] []], o.Writable) ∧
    (Slot.field [] "equals" []).Writable ∧
    ∃ front back : List Char, ∀ (v : Value) (text : String), renderScalar v = .ok text →
      ∃ shown : String,
        render "  " 2 (fillAll [.item false [.record [("field", .text "'category'")]] []]
            (Slot.fill v (.field [] "equals" []))) =
          .ok (String.ofList (front ++
            (Slot.gap 2 (indentInside "  ".toList 1) (.field [] "equals" []) ++
              (Slot.label (.field [] "equals" []) ++ shown.toList) ++
                Slot.gap 2 (indentInside "  ".toList 1) (.field [] "equals" [])) ++ back)) ∧
        (shown = text ↔ ¬ (Slot.isSole (.field [] "equals" []) = true ∧
          ∃ m, v = .member m ∧ m.fullName ≠ m.text)) ∧
        ∀ m, Slot.isSole (.field [] "equals" []) = true → v = .member m → shown = m.fullName := by
  have ho : ∀ o ∈ [Slot.item false [.record [("field", .text "'category'")]] []], o.Writable := by
    simp [Slot.Writable, AreWritable, Writable, HoldWritable]
  have hw : (Slot.field [] "equals" []).Writable := ⟨trivial, trivial⟩
  exact ⟨ho, hw, render_fill _ _ ho hw "  " 2⟩

/-- A mode is written by its name as the only field of a record, and by its label as one of
two fields, as an element on one line and as an element on a line of its own. -/
theorem render_soleMode :
    renderScalar (.mode .quick) = .ok "quick" ∧
    render "  " 2 (Slot.fill (.mode .quick) (.field [] "mode" [])) =
      .ok "\x7b mode: ActionMode.QUICK \x7d" ∧
    render "  " 2 (Slot.fill (.mode .quick) (.field [] "mode" [("on", .bool true)])) =
      .ok "\x7b\n  mode: quick\n  on: true\n  \x7d" ∧
    render "  " 2 (Slot.fill (.mode .quick) (.item false [] [])) = .ok "[ quick ]" ∧
    render "  " 0 (Slot.fill (.mode .quick) (.item false [] [])) = .ok "[\n  quick\n  ]" :=
  ⟨rfl, rfl, rfl, rfl, rfl⟩

end HealthAlert.Bicep
