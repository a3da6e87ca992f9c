import HealthAlert.Proofs.Form.Trimming
import HealthAlert.Proofs.Request.Accepted
import HealthAlert.Proofs.Request.Keys

/-!
# What the readers of the fields accept

Each field has a kind, and `Kind.Admits` says which values a kind admits. For values that a JSON
text can denote the reader of a field accepts exactly what its kind admits, apart from the rules
of the domain, which the check of a form states as well.

* `trimmedText_eq_accepted_iff`, `nullableText_eq_accepted_iff`, `actionMode_eq_accepted_iff`, …:
  the readers, kind by kind.
* `exists_checkedText_iff`, `exists_selection_iff`: values with a rule of the domain are accepted
  exactly when their kind admits them and the check of a form finds no problem with them.
* **`exists_tags_iff`**: the tags that are accepted.
-/

namespace HealthAlert.Request

open Validation (text nullableText)

/-! ## Kinds of fields -/

/-- What the values of a field are. -/
inductive Kind where
  | text
  | nullableText
  | selection
  | mode
  | tags
  deriving DecidableEq, Repr

/-- The kind of the field. -/
def Field.kind : Field → Kind
  | .services => .selection
  | .eventTypes => .selection
  | .regions => .selection
  | .severities => .selection
  | .actionMode => .mode
  | .existingActionGroupId => .nullableText
  | .tags => .tags
  | _ => .text

/-- The value is a text of at most `limit` characters. -/
def BoundedText (limit : Nat) (v : Value) : Prop :=
  ∃ s : String, v = .text s ∧ s.length ≤ limit

/-- The value is a record of tags, from keys to values. -/
def TagMapping (v : Value) : Prop :=
  ∃ es, v = .record es ∧ ∀ e ∈ es, e.1.length ≤ 512 ∧ BoundedText 256 e.2

/-- The value is a list of records, in which the members `key` and `value` are short texts where
they are given. -/
def TagList (v : Value) : Prop :=
  ∃ rows, v = .list rows ∧ ∀ row ∈ rows, ∃ es, row = .record es ∧
    (∀ key, Keyed.get? es "key" = some key → BoundedText 512 key) ∧
    (∀ value, Keyed.get? es "value" = some value → BoundedText 256 value)

/-- The kind admits the value. -/
def Kind.Admits : Kind → Value → Prop
  | .text, v => ∃ s, v = .text s
  | .nullableText, v => v = .null ∨ ∃ s, v = .text s
  | .selection, v => ∃ ss : List String, v = .list (ss.map .text)
  | .mode, v => v = .text "existing" ∨ v = .text "quick"
  | .tags, v => TagMapping v ∨ TagList v

/-- The field is absent, or its kind admits its value. -/
def Field.Typed (f : Field) (es : List (String × Value)) : Prop :=
  ∀ key v, f.names.find? es = some (key, v) → f.kind.Admits v

/-- Every field that is given has a value that its kind admits. -/
def WellTyped (es : List (String × Value)) : Prop :=
  ∀ f : Field, f.Typed es

/-! ## Readers of single values -/

variable {v : Value}

theorem text?_eq_some_iff (hv : v.IsJson) {s : String} : v.text? = some s ↔ v = .text s := by
  cases v with
  | text t => simp [Value.text?]
  | member _ => exact hv.elim
  | _ => simp [Value.text?]

/-- What is a text is read as that text. -/
theorem text_of_text? {s : String} (h : v.text? = some s) : text v = .accepted s := by
  cases v with
  | text t =>
    obtain rfl := Option.some.inj h
    rfl
  | member m =>
    obtain rfl := Option.some.inj h
    rfl
  | _ => exact absurd h (by simp [Value.text?])

theorem text_eq_accepted_iff (hv : v.IsJson) {s : String} :
    text v = .accepted s ↔ v = .text s := by
  cases v with
  | text t => simp [text, Validation.spelling?, Value.text?]
  | member _ => exact hv.elim
  | foreign _ => exact hv.elim
  | _ => simp [text, Validation.spelling?, Value.text?, Checked.refuse]

theorem trimmedText_eq_accepted_iff (hv : v.IsJson) {s : String} :
    trimmedText v = .accepted s ↔ ∃ t, v = .text t ∧ s = Text.trim t := by
  unfold trimmedText trimmedValue
  cases ht : v.text? with
  | some t =>
    obtain rfl := (text?_eq_some_iff hv).mp ht
    have hjson : Value.IsJson (.text (Text.trim t)) := trivial
    rw [text_eq_accepted_iff hjson]
    simp [eq_comm]
  | none =>
    rw [text_eq_accepted_iff hv]
    constructor
    · rintro rfl
      exact absurd ht (by simp [Value.text?])
    · rintro ⟨t, rfl, -⟩
      exact absurd ht (by simp [Value.text?])

theorem exists_trimmedText_iff (hv : v.IsJson) :
    (∃ s, trimmedText v = .accepted s) ↔ Kind.text.Admits v := by
  simp only [trimmedText_eq_accepted_iff hv]
  constructor
  · rintro ⟨_, t, rfl, rfl⟩
    exact ⟨t, rfl⟩
  · rintro ⟨t, rfl⟩
    exact ⟨_, t, rfl, rfl⟩

/-- A text with a rule is accepted when it is a text that the check of a form lets pass: the check
sees the entry that a text is, and trimming does not change that. -/
theorem exists_checkedText_iff (hv : v.IsJson) {check : Value → Option Form.Problem}
    (hcheck : ∀ {v w : Value}, Form.Entry.of v = Form.Entry.of w → check v = check w) :
    (∃ s, checkedText check v = .accepted s) ↔ Kind.text.Admits v ∧ check v = none := by
  unfold checkedText
  simp only [Checked.guarded_eq_accepted_iff, trimmedText_eq_accepted_iff hv,
    Option.map_eq_none_iff]
  constructor
  · rintro ⟨_, ⟨t, rfl, rfl⟩, hpass⟩
    exact ⟨⟨t, rfl⟩, (hcheck (Form.Entry.of_trim t)).symm.trans hpass⟩
  · rintro ⟨⟨t, rfl⟩, hpass⟩
    exact ⟨_, ⟨t, rfl, rfl⟩, (hcheck (Form.Entry.of_trim t)).trans hpass⟩

theorem nullableText_eq_accepted_iff (hv : v.IsJson) {o : Option String} :
    nullableText v = .accepted o ↔ (v = .null ∧ o = none) ∨ ∃ t, v = .text t ∧ o = some t := by
  by_cases hnull : v = .null
  · subst hnull
    simp [nullableText, eq_comm]
  · have hread : nullableText v = some <$> text v := by
      cases v with
      | null => exact absurd rfl hnull
      | _ => rfl
    rw [hread, Checked.map_eq_accepted_iff]
    simp [text_eq_accepted_iff hv, hnull, eq_comm]

theorem exists_nullableText_iff (hv : v.IsJson) :
    (∃ o, nullableText v = .accepted o) ↔ Kind.nullableText.Admits v := by
  simp only [nullableText_eq_accepted_iff hv]
  constructor
  · rintro ⟨_, ⟨rfl, -⟩ | ⟨t, rfl, -⟩⟩
    · exact Or.inl rfl
    · exact Or.inr ⟨t, rfl⟩
  · rintro (rfl | ⟨t, rfl⟩)
    · exact ⟨none, Or.inl ⟨rfl, rfl⟩⟩
    · exact ⟨some t, Or.inr ⟨t, rfl, rfl⟩⟩

theorem ofLabel?_eq_some_iff {label : String} {m : ActionMode} :
    ActionMode.ofLabel? label = some m ↔ label = m.label := by
  constructor
  · intro h
    unfold ActionMode.ofLabel? at h
    split at h
    · obtain rfl := Option.some.inj h
      assumption
    · split at h
      · obtain rfl := Option.some.inj h
        assumption
      · exact absurd h (by simp)
  · rintro rfl
    exact ActionMode.ofLabel?_label m

theorem actionMode_eq_accepted_iff (hv : v.IsJson) {m : ActionMode} :
    Request.actionMode v = .accepted m ↔ v = .text m.label := by
  have hbind : v.text?.bind ActionMode.ofLabel? = some m ↔ v = .text m.label := by
    rw [Option.bind_eq_some_iff]
    simp only [text?_eq_some_iff hv, ofLabel?_eq_some_iff]
    simp
  rw [← hbind]
  unfold Request.actionMode
  split <;> simp [Checked.refuse, *]

theorem exists_actionMode_iff (hv : v.IsJson) :
    (∃ m, Request.actionMode v = .accepted m) ↔ Kind.mode.Admits v := by
  simp only [actionMode_eq_accepted_iff hv]
  constructor
  · rintro ⟨m, rfl⟩
    cases m with
    | existing => exact Or.inl rfl
    | quick => exact Or.inr rfl
  · rintro (rfl | rfl)
    · exact ⟨.existing, rfl⟩
    · exact ⟨.quick, rfl⟩

theorem boundedText_eq_accepted_iff (hv : v.IsJson) {limit : Nat} {s : String} :
    boundedText limit v = .accepted s ↔ v = .text s ∧ s.length ≤ limit := by
  unfold boundedText
  rw [← text_eq_accepted_iff hv]
  cases text v with
  | refused issues => simp
  | accepted t =>
    by_cases hlength : t.length ≤ limit
    · simp only [if_pos hlength, Checked.accepted.injEq]
      exact ⟨fun h => ⟨h, h ▸ hlength⟩, fun h => h.1⟩
    · simp only [if_neg hlength, Checked.accepted.injEq]
      constructor
      · intro h
        exact absurd h (by simp [Checked.refuse])
      · rintro ⟨rfl, hle⟩
        exact absurd hle hlength

theorem exists_boundedText_iff (hv : v.IsJson) {limit : Nat} :
    (∃ s, boundedText limit v = .accepted s) ↔ BoundedText limit v := by
  simp only [boundedText_eq_accepted_iff hv]
  rfl

/-! ## Lists -/

/-- A list of checked elements is accepted when every element is. -/
theorem exists_all_iff {α : Type} {check : Value → Checked α} (vs : List Value) (first : Nat) :
    (∃ as, Checked.all check first vs = .accepted as) ↔ ∀ v ∈ vs, ∃ a, check v = .accepted a := by
  induction vs generalizing first with
  | nil => simp [Checked.all]
  | cons v vs ih =>
    simp only [Checked.all_cons_eq_accepted_iff, List.forall_mem_cons]
    constructor
    · rintro ⟨_, a, rest, ha, hrest, rfl⟩
      exact ⟨⟨a, ha⟩, (ih (first + 1)).mp ⟨rest, hrest⟩⟩
    · rintro ⟨⟨a, ha⟩, hvs⟩
      obtain ⟨rest, hrest⟩ := (ih (first + 1)).mpr hvs
      exact ⟨a :: rest, a, rest, ha, hrest, rfl⟩

theorem all_text_eq_accepted_iff {vs : List Value} (hvs : ∀ v ∈ vs, v.IsJson) (first : Nat)
    {ss : List String} : Checked.all text first vs = .accepted ss ↔ vs = ss.map .text := by
  induction vs generalizing first ss with
  | nil => cases ss <;> simp [Checked.all]
  | cons v vs ih =>
    rw [List.forall_mem_cons] at hvs
    simp only [Checked.all_cons_eq_accepted_iff, text_eq_accepted_iff hvs.1, ih hvs.2]
    constructor
    · rintro ⟨s, rest, rfl, rfl, rfl⟩
      rfl
    · intro h
      cases ss with
      | nil => exact absurd h (by simp)
      | cons s rest =>
        obtain ⟨rfl, rfl⟩ := List.cons.inj h
        exact ⟨s, rest, rfl, rfl, rfl⟩

/-- Only a list is read as one. -/
theorem elements?_eq_some_iff (hv : v.IsJson) {items : List Value} :
    elements? v = some items ↔ v = .list items := by
  cases v with
  | list xs => simp [elements?, Value.items?]
  | tuple _ => exact hv.elim
  | foreign _ => exact hv.elim
  | _ => simp [elements?, Value.items?]

theorem listOf_text_eq_accepted_iff (hv : v.IsJson) {ss : List String} :
    listOf text v = .accepted ss ↔ v = .list (ss.map .text) := by
  rw [listOf_eq_accepted_iff]
  simp only [elements?_eq_some_iff hv]
  constructor
  · rintro ⟨items, rfl, hall⟩
    rw [(all_text_eq_accepted_iff (Value.areJson_iff.mp hv) 0).mp hall]
  · rintro rfl
    exact ⟨_, rfl, (all_text_eq_accepted_iff (Value.areJson_iff.mp hv) 0).mpr rfl⟩

/-- A selection is accepted when it is a list of texts that the check of a form lets pass. -/
theorem exists_selection_iff (hv : v.IsJson) {what : String} :
    (∃ ss, selection what v = .accepted ss) ↔
      Kind.selection.Admits v ∧ Form.checkSelection what v = none := by
  unfold selection
  simp only [Checked.guarded_eq_accepted_iff, Checked.map_eq_accepted_iff,
    listOf_text_eq_accepted_iff hv, Option.map_eq_none_iff]
  constructor
  · rintro ⟨_, ⟨ss, rfl, rfl⟩, hpass⟩
    exact ⟨⟨ss, rfl⟩, Form.checkSelection_filter.mp hpass⟩
  · rintro ⟨⟨ss, rfl⟩, hpass⟩
    exact ⟨_, ⟨ss, rfl, rfl⟩, Form.checkSelection_filter.mpr hpass⟩

/-! ## Fields -/

section Fields

variable {es : List (String × Value)}

theorem exists_required_iff {α : Type} {f : FieldName} {check : Value → Checked α} :
    (∃ a, required es f check = .accepted a) ↔
      ∃ key v, f.find? es = some (key, v) ∧ ∃ a, check v = .accepted a := by
  simp only [required_eq_accepted_iff]
  constructor
  · rintro ⟨a, key, v, hfind, ha⟩
    exact ⟨key, v, hfind, a, ha⟩
  · rintro ⟨key, v, hfind, a, ha⟩
    exact ⟨a, key, v, hfind, ha⟩

theorem exists_optional_iff {α : Type} {f : FieldName} {default : α} {check : Value → Checked α} :
    (∃ a, optional es f default check = .accepted a) ↔
      ∀ key v, f.find? es = some (key, v) → ∃ a, check v = .accepted a := by
  simp only [optional_eq_accepted_iff]
  constructor
  · rintro ⟨a, ⟨hnone, -⟩ | ⟨key, v, hfound, ha⟩⟩ key' v' hfound'
    · exact absurd (hnone.symm.trans hfound') (by simp)
    · obtain ⟨rfl, rfl⟩ := Prod.mk.inj (Option.some.inj (hfound.symm.trans hfound'))
      exact ⟨a, ha⟩
  · intro h
    cases hfound : f.find? es with
    | none => exact ⟨default, Or.inl ⟨rfl, rfl⟩⟩
    | some e =>
      obtain ⟨a, ha⟩ := h e.1 e.2 hfound
      exact ⟨a, Or.inr ⟨e.1, e.2, rfl, ha⟩⟩

/-! ## Tags -/

theorem exists_member_iff {name : String} {limit : Nat} (hes : ∀ e ∈ es, e.2.IsJson) :
    (∃ s, optional es ⟨name, name⟩ "" (boundedText limit) = .accepted s) ↔
      ∀ v, Keyed.get? es name = some v → BoundedText limit v := by
  rw [exists_optional_iff]
  have hfind : FieldName.find? ⟨name, name⟩ es = (Keyed.get? es name).map fun v => (name, v) := by
    unfold FieldName.find?
    cases Keyed.get? es name <;> rfl
  rw [hfind]
  constructor
  · intro h v hv
    have hjson := hes _ (Keyed.mem_of_get? hv)
    exact (exists_boundedText_iff hjson).mp (h name v (by rw [hv]; rfl))
  · intro h key v hkey
    obtain ⟨w, hw, heq⟩ := Option.map_eq_some_iff.mp hkey
    obtain ⟨rfl, rfl⟩ := Prod.mk.inj heq
    exact (exists_boundedText_iff (hes _ (Keyed.mem_of_get? hw))).mpr (h w hw)

theorem exists_tagRow_iff {rule : RecordRule} (hes : ∀ e ∈ es, e.2.IsJson) :
    (∃ row, tagRow rule [] (.record es) = .accepted row) ↔
      (∀ key, Keyed.get? es "key" = some key → BoundedText 512 key) ∧
        ∀ value, Keyed.get? es "value" = some value → BoundedText 256 value := by
  rw [← exists_member_iff hes, ← exists_member_iff hes]
  unfold tagRow
  simp only [encodable_nil, Checked.seq_eq_accepted_iff, Checked.map_eq_accepted_iff]
  constructor
  · rintro ⟨_, _, value, ⟨key, hkey, rfl⟩, hvalue, rfl⟩
    exact ⟨⟨key, hkey⟩, ⟨value, hvalue⟩⟩
  · rintro ⟨⟨key, hkey⟩, ⟨value, hvalue⟩⟩
    exact ⟨_, _, value, ⟨key, hkey, rfl⟩, hvalue, rfl⟩

/-- A value is a row of tags when it is a record with short texts. -/
theorem exists_rowOf_iff {rule : RecordRule} (hv : v.IsJson) :
    (∃ row, tagRow rule [] v = .accepted row) ↔ ∃ es, v = .record es ∧
      (∀ key, Keyed.get? es "key" = some key → BoundedText 512 key) ∧
        ∀ value, Keyed.get? es "value" = some value → BoundedText 256 value := by
  constructor
  · rintro ⟨row, hrow⟩
    cases v with
    | record es =>
      exact ⟨es, rfl, (exists_tagRow_iff (Value.holdJson_iff.mp hv.2)).mp ⟨row, hrow⟩⟩
    | _ => exact absurd hrow (by simp [tagRow, Checked.refuse])
  · rintro ⟨es, rfl, hrow⟩
    exact (exists_tagRow_iff (Value.holdJson_iff.mp hv.2)).mpr hrow

/-- The rows of a record of tags are accepted when its keys and values are short texts. -/
theorem exists_tagRow_of_entry_iff {rule : RecordRule} {e : String × Value} (he : e.2.IsJson) :
    (∃ row, tagRow rule [] (.record [("key", .text e.1), ("value", e.2)]) = .accepted row) ↔
      e.1.length ≤ 512 ∧ BoundedText 256 e.2 := by
  have hjson : ∀ m ∈ [("key", Value.text e.1), ("value", e.2)], m.2.IsJson :=
    List.forall_mem_cons.mpr ⟨trivial, List.forall_mem_cons.mpr ⟨he, by simp⟩⟩
  have hkey : Keyed.get? [("key", Value.text e.1), ("value", e.2)] "key" = some (.text e.1) := rfl
  have hvalue : Keyed.get? [("key", Value.text e.1), ("value", e.2)] "value" = some e.2 := rfl
  rw [exists_tagRow_iff hjson, hkey, hvalue]
  simp [BoundedText]

/-- **The tags of a request are accepted when their kind admits them.** -/
theorem exists_tags_iff {rule : RecordRule} (hv : v.IsJson) :
    (∃ tags, listOf (tagRow rule []) (tagRows v) = .accepted tags) ↔ Kind.tags.Admits v := by
  have hrows : ∀ rows, (∃ tags, listOf (tagRow rule []) (.list rows) = .accepted tags) ↔
      ∀ row ∈ rows, ∃ tag, tagRow rule [] row = .accepted tag := fun rows => exists_all_iff rows 0
  unfold Kind.Admits TagMapping TagList
  cases v with
  | record es =>
    have hes := Value.holdJson_iff.mp hv.2
    rw [tagRows, hrows, List.forall_mem_map]
    constructor
    · intro h
      exact Or.inl ⟨es, rfl, fun e he => (exists_tagRow_of_entry_iff (hes e he)).mp (h e he)⟩
    · rintro (⟨_, heq, h⟩ | ⟨_, heq, -⟩)
      · obtain rfl := Value.record.inj heq
        exact fun e he => (exists_tagRow_of_entry_iff (hes e he)).mpr (h e he)
      · cases heq
  | list rows =>
    have hvs := Value.areJson_iff.mp hv
    have hself : tagRows (.list rows) = .list rows := rfl
    rw [hself, hrows]
    constructor
    · intro h
      exact Or.inr ⟨rows, rfl, fun row hrow => (exists_rowOf_iff (hvs row hrow)).mp (h row hrow)⟩
    · rintro (⟨_, heq, -⟩ | ⟨_, heq, h⟩)
      · cases heq
      · obtain rfl := Value.list.inj heq
        exact fun row hrow => (exists_rowOf_iff (hvs row hrow)).mpr (h row hrow)
  | tuple _ => exact hv.elim
  | foreign _ => exact hv.elim
  | _ => simp [tagRows, listOf, elements?, Value.items?, Checked.refuse]

end Fields

end HealthAlert.Request
