import HealthAlert.Proofs.Alert.Dimensions
import HealthAlert.Proofs.Alert.Document
import HealthAlert.Proofs.Alert.Tags
import HealthAlert.Proofs.Bicep.Skeleton

/-!
# The literals of a template, and what surrounds them

The texts of an alert stand in its template as quoted literals, each in its place, and nothing of
them stands anywhere else. `AlertInput.spelled` lists the literals of a template in order, and
`AlertInput.SameForm` says what the rest of the text depends on: the mode, the number of
selections in each dimension, and the keys of the tags.

* `alike_quickActionGroup`, `alike_alertText`, `alike_tagsText`: the parts of a template.
* **`render_literals_and_skeleton`**: without backslashes the literals of a template are those that
  are listed, and alerts of the same form have templates with the same skeleton.
-/

namespace HealthAlert

open Bicep (Alike Literal Scalar)

/-! ## Texts without backslashes -/

theorem mem_intercalate {sep : String} {l : List String} {c : Char}
    (h : c ∈ (String.intercalate sep l).toList) : c ∈ sep.toList ∨ ∃ s ∈ l, c ∈ s.toList := by
  induction l with
  | nil => exact absurd h (by simp)
  | cons s l ih =>
    cases l with
    | nil =>
      rw [String.intercalate_singleton] at h
      exact Or.inr ⟨s, List.mem_singleton_self s, h⟩
    | cons t l =>
      rw [String.intercalate_cons_cons, String.toList_append, String.toList_append] at h
      rcases List.mem_append.mp h with h | h
      · rcases List.mem_append.mp h with h | h
        · exact Or.inr ⟨s, List.mem_cons_self, h⟩
        · exact Or.inl h
      · rcases ih h with h | ⟨x, hx, hc⟩
        · exact Or.inl h
        · exact Or.inr ⟨x, List.mem_cons_of_mem _ hx, hc⟩

/-- The literals of the tags of a template: each key that is no identifier, and each value. -/
def Template.tagsSpelled (rows : List (Value × Value)) : List String :=
  (tagTexts rows).flatMap fun e => if Bicep.isIdentifier e.1.toList then [e.2] else [e.1, e.2]

namespace AlertInput

/-- All texts of an alert, its tags as they are shown. -/
def texts (input : AlertInput) : List String :=
  [input.subscriptionId, input.alertName] ++
    (input.services ++ input.eventTypes ++ input.regions ++ input.severities) ++
    [input.actionGroupName, input.actionGroupResourceGroup] ++
    input.existingActionGroupId.toList ++
    [input.quickActionGroupName, input.quickEmail, input.quickShortName] ++
    input.tags.flatMap fun row => [row.1.display, row.2.display]

/-- No text of the alert holds a backslash. -/
def FreeOfBackslashes (input : AlertInput) : Prop :=
  ∀ s ∈ input.texts, '\\' ∉ s.toList

/-- The literals in the declaration of the action group. -/
def groupSpelled (options : TemplateOptions) (input : AlertInput) : List String :=
  match input.actionMode with
  | .quick =>
    [Resource.quickActionGroup.type ++ "@" ++ options.actionGroupApiVersion,
      input.quickActionGroupName, "global",
      Template.groupShortName input.quickShortName input.quickActionGroupName,
      "default", input.quickEmail]
  | .existing => []

/-- The comparisons in the condition of an alert, each as its path and its value. -/
def comparisons (input : AlertInput) : List (String × String) :=
  ("category", "ServiceHealth") ::
    (input.services.map (ConditionField.serviceName.path, ·) ++
      input.eventTypes.map (ConditionField.incidentType.path, ·) ++
      input.regions.map (ConditionField.regionName.path, ·))

/-- The ID of the action group, where the template refers to it by its ID. -/
def idSpelled (input : AlertInput) : List String :=
  match input.actionMode with
  | .quick => []
  | .existing => [input.groupId]

/-- The literals of a template, in order. -/
def spelled (options : TemplateOptions) (input : AlertInput) : List String :=
  input.groupSpelled options ++
    [Resource.alert.type ++ "@" ++ options.alertApiVersion, input.alertName, "global"] ++
    Template.tagsSpelled input.tags ++
    ["/subscriptions/" ++ input.subscriptionId] ++
    (input.comparisons.flatMap fun e => [e.1, e.2]) ++
    input.idSpelled ++
    [Template.description input.services input.eventTypes input.regions]

/-- The alerts agree in all that shows outside the literals of their templates. -/
structure SameForm (a b : AlertInput) : Prop where
  mode : a.actionMode = b.actionMode
  services : a.services.length = b.services.length
  eventTypes : a.eventTypes.length = b.eventTypes.length
  regions : a.regions.length = b.regions.length
  tagKeys : Keyed.keys (Template.tags a.tags) = Keyed.keys (Template.tags b.tags)

theorem SameForm.refl (a : AlertInput) : SameForm a a := ⟨rfl, rfl, rfl, rfl, rfl⟩

end AlertInput

/-! ## Conditions -/

namespace Condition

theorem notMem_path (field : ConditionField) : '\\' ∉ field.path.toList := by
  cases field <;> decide

section Comparison

variable {field : ConditionField} {value : String}

theorem readable_equals (h : '\\' ∉ value.toList) : (equals field value).toLiteral.Readable :=
  ⟨by decide, Scalar.readable_quote (notMem_path field), by decide, Scalar.readable_quote h,
    trivial⟩

theorem texts_equals (h : '\\' ∉ value.toList) :
    (equals field value).toLiteral.texts = [field.path, value] := by
  have hf := Scalar.texts_quote (notMem_path field)
  have hv := Scalar.texts_quote h
  show Bicep.keyTexts "field" ++ Scalar.texts (.text (Bicep.quote field.path)) ++
    (Bicep.keyTexts "equals" ++ Scalar.texts (.text (Bicep.quote value)) ++ []) = _
  rw [hf, hv]
  rfl

/-- What remains of a comparison. -/
def maskedComparison : Literal :=
  .object [("field", .scalar (.text (Bicep.quote ""))),
    ("equals", .scalar (.text (Bicep.quote "")))]

theorem masked_equals : (equals field value).toLiteral.masked = maskedComparison := by
  show Literal.object [("field", .scalar (Scalar.masked (.text (Bicep.quote field.path)))),
    ("equals", .scalar (Scalar.masked (.text (Bicep.quote value))))] = _
  rw [Scalar.masked_quote, Scalar.masked_quote]
  rfl

end Comparison

theorem readable_clauses {field : ConditionField} {values : List String}
    (h : ∀ v ∈ values, '\\' ∉ v.toList) :
    ∀ c ∈ clauses field values, c.toLiteral.Readable := by
  intro c hc
  match values with
  | [] => exact absurd hc (by simp [clauses, ofSelection])
  | [v] =>
    obtain rfl : c = equals field v := by simpa [clauses, ofSelection] using hc
    exact readable_equals (h v List.mem_cons_self)
  | v :: w :: rest =>
    obtain rfl : c = .anyOf ((v :: w :: rest).map (equals field)) := by
      simpa [clauses, ofSelection] using hc
    refine ⟨by decide, Literal.readableItems_iff.mpr fun l hl => ?_, trivial⟩
    rw [toLiterals_eq_map, List.map_map] at hl
    obtain ⟨u, hu, rfl⟩ := List.mem_map.mp hl
    exact readable_equals (h u hu)

theorem texts_comparisons {field : ConditionField} {values : List String}
    (h : ∀ v ∈ values, '\\' ∉ v.toList) :
    Literal.textsOfItems (toLiterals (values.map (equals field))) =
      values.flatMap fun v => [field.path, v] := by
  induction values with
  | nil => rfl
  | cons v values ih =>
    rw [List.forall_mem_cons] at h
    rw [List.map_cons, toLiterals, Literal.textsOfItems, texts_equals h.1, ih h.2]
    rfl

theorem texts_clauses {field : ConditionField} {values : List String}
    (h : ∀ v ∈ values, '\\' ∉ v.toList) :
    Literal.textsOfItems (toLiterals (clauses field values)) =
      values.flatMap fun v => [field.path, v] := by
  match values with
  | [] => rfl
  | [v] =>
    rw [clauses_singleton]
    exact texts_comparisons h
  | v :: w :: rest =>
    show Bicep.keyTexts "anyOf" ++
      Literal.textsOfItems (toLiterals ((v :: w :: rest).map (equals field))) ++ [] ++ [] = _
    rw [texts_comparisons h, List.append_nil, List.append_nil]
    rfl

/-- What remains of the conditions that a selection of so many values adds. -/
def maskedClauses : Nat → List Literal
  | 0 => []
  | 1 => [maskedComparison]
  | n => [.object [("anyOf", .array (List.replicate n maskedComparison))]]

theorem masked_comparisons (field : ConditionField) (values : List String) :
    Literal.maskedItems (toLiterals (values.map (equals field))) =
      List.replicate values.length maskedComparison := by
  induction values with
  | nil => rfl
  | cons v values ih =>
    rw [List.map_cons, toLiterals, Literal.maskedItems, masked_equals, ih]
    rfl

theorem masked_clauses (field : ConditionField) (values : List String) :
    Literal.maskedItems (toLiterals (clauses field values)) = maskedClauses values.length := by
  match values with
  | [] => rfl
  | [v] =>
    rw [clauses_singleton]
    exact masked_comparisons field [v]
  | v :: w :: rest =>
    have := masked_comparisons field (v :: w :: rest)
    show [Literal.object [("anyOf",
      .array (Literal.maskedItems (toLiterals ((v :: w :: rest).map (equals field)))))]] = _
    rw [this]
    rfl

end Condition

/-! ## Properties -/

namespace AlertInput

variable {a b : AlertInput}

/-- What stands in place of the reference to the action group. -/
def maskedReference (mode : ActionMode) : String :=
  match mode with
  | .quick => "quickAG.id"
  | .existing => Bicep.quote ""

theorem notMem_append {s t : String} (hs : '\\' ∉ s.toList) (ht : '\\' ∉ t.toList) :
    '\\' ∉ (s ++ t).toList := by
  rw [String.toList_append, List.mem_append, not_or]
  exact ⟨hs, ht⟩

theorem notMem_intercalate {sep : String} {l : List String} (hs : '\\' ∉ sep.toList)
    (hl : ∀ s ∈ l, '\\' ∉ s.toList) : '\\' ∉ (String.intercalate sep l).toList := by
  intro h
  rcases mem_intercalate h with h | ⟨s, hm, h⟩
  · exact hs h
  · exact hl s hm h

section Free

variable (h : a.FreeOfBackslashes)

include h

theorem free_services : ∀ s ∈ a.services, '\\' ∉ s.toList := fun s hm => h s (by simp [texts, hm])

theorem free_eventTypes : ∀ s ∈ a.eventTypes, '\\' ∉ s.toList := fun s hm =>
  h s (by simp [texts, hm])

theorem free_regions : ∀ s ∈ a.regions, '\\' ∉ s.toList := fun s hm => h s (by simp [texts, hm])

theorem free_scope : '\\' ∉ ("/subscriptions/" ++ a.subscriptionId).toList :=
  notMem_append (by decide) (h a.subscriptionId (by simp [texts]))

theorem free_groupId : '\\' ∉ a.groupId.toList := by
  unfold groupId
  split
  · have hs := h a.subscriptionId (by simp [texts])
    have hr := h a.actionGroupResourceGroup (by simp [texts])
    have hn := h a.actionGroupName (by simp [texts])
    exact notMem_append (notMem_append (notMem_append (notMem_append (notMem_append (by decide) hs)
      (by decide)) hr) (by decide)) hn
  · cases hid : a.existingActionGroupId with
    | none => decide
    | some id => exact h id (by simp [texts, hid])

theorem free_description :
    '\\' ∉ (Template.description a.services a.eventTypes a.regions).toList := by
  have hend : '\\' ∉ (if a.regions.isEmpty then "" else
      " in " ++ String.intercalate "," a.regions).toList := by
    split
    · decide
    · exact notMem_append (by decide) (notMem_intercalate (by decide) (free_regions h))
  unfold Template.description
  exact notMem_append (notMem_append (notMem_append (notMem_append (notMem_append (by decide)
    (notMem_intercalate (by decide) (free_services h))) (by decide))
    (notMem_intercalate (by decide) (free_eventTypes h))) (by decide)) hend

theorem readable_reference : Scalar.Readable (.text a.reference) := by
  unfold reference
  split
  · exact Or.inl (by decide)
  · exact Scalar.readable_quote (free_groupId h)

theorem texts_reference : Scalar.texts (.text a.reference) = a.idSpelled := by
  have hquick : Scalar.texts (.text "quickAG.id") = [] := Scalar.texts_of_notMem (by decide)
  have hexisting := Scalar.texts_quote (free_groupId h)
  unfold reference idSpelled
  cases a.actionMode with
  | quick => exact hquick
  | existing => exact hexisting

theorem readable_conditions : ∀ c ∈ a.conditions, c.toLiteral.Readable := by
  intro c hc
  unfold conditions at hc
  rw [Condition.build_eq] at hc
  simp only [List.mem_cons, List.mem_append] at hc
  rcases hc with rfl | (hc | hc) | hc
  · exact Condition.readable_equals (by decide)
  · exact Condition.readable_clauses (free_services h) c hc
  · exact Condition.readable_clauses (free_eventTypes h) c hc
  · exact Condition.readable_clauses (free_regions h) c hc

theorem texts_conditions :
    Literal.textsOfItems (Condition.toLiterals a.conditions) =
      a.comparisons.flatMap fun e => [e.1, e.2] := by
  have happend : ∀ cs ds : List Condition,
      Literal.textsOfItems (Condition.toLiterals (cs ++ ds)) =
        Literal.textsOfItems (Condition.toLiterals cs) ++
          Literal.textsOfItems (Condition.toLiterals ds) := by
    intro cs ds
    simp only [Literal.textsOfItems_eq_flatMap, Condition.toLiterals_eq_map, List.map_append,
      List.flatMap_append]
  have hcategory : '\\' ∉ serviceHealthCategory.toList := by decide
  unfold conditions comparisons
  rw [Condition.build_eq, Condition.toLiterals, Literal.textsOfItems,
    Condition.texts_equals hcategory, happend, happend, Condition.texts_clauses (free_services h),
    Condition.texts_clauses (free_eventTypes h), Condition.texts_clauses (free_regions h)]
  simp only [List.flatMap_cons, List.flatMap_append, List.flatMap_map]
  rfl

theorem readable_document : (a.documentLiteral a.reference).Readable := by
  have hconditions : Literal.ReadableItems (Condition.toLiterals a.conditions) := by
    rw [Condition.toLiterals_eq_map]
    refine Literal.readableItems_iff.mpr fun l hl => ?_
    obtain ⟨c, hc, rfl⟩ := List.mem_map.mp hl
    exact readable_conditions h c hc
  refine ⟨by decide, Or.inl (by decide), by decide, ⟨Scalar.readable_quote (free_scope h), trivial⟩,
    by decide, ⟨by decide, hconditions, trivial⟩, by decide, ?_, by decide,
    Scalar.readable_quote (free_description h), trivial⟩
  exact ⟨by decide, ⟨⟨by decide, readable_reference h, trivial⟩, trivial⟩, trivial⟩

theorem texts_document :
    (a.documentLiteral a.reference).texts =
      ["/subscriptions/" ++ a.subscriptionId] ++ (a.comparisons.flatMap fun e => [e.1, e.2]) ++
        a.idSpelled ++ [Template.description a.services a.eventTypes a.regions] := by
  have hbool : Scalar.texts (.bool true) = [] := Scalar.texts_of_notMem (by decide)
  have hkeys : ∀ key ∈ ["enabled", "scopes", "condition", "allOf", "actions", "actionGroups",
      "actionGroupId", "description"], Bicep.keyTexts key = [] := by decide
  simp only [List.forall_mem_cons, List.not_mem_nil, false_imp_iff, forall_const] at hkeys
  obtain ⟨k1, k2, k3, k4, k5, k6, k7, k8, -⟩ := hkeys
  unfold documentLiteral
  simp only [Literal.texts, Literal.textsOfItems, Literal.textsOfEntries, Condition.toLiteral,
    k1, k2, k3, k4, k5, k6, k7, k8, hbool, Scalar.texts_quote (free_scope h), texts_conditions h,
    texts_reference h, Scalar.texts_quote (free_description h), List.nil_append, List.append_nil,
    List.append_assoc]

end Free

/-- What remains of the properties of an alert. -/
def maskedDocument (mode : ActionMode) (services eventTypes regions : Nat) : Literal :=
  .object [
    ("enabled", .scalar (.bool true)),
    ("scopes", .array [.scalar (.text (Bicep.quote ""))]),
    ("condition", .object [("allOf", .array (Condition.maskedComparison ::
      (Condition.maskedClauses services ++ Condition.maskedClauses eventTypes ++
        Condition.maskedClauses regions)))]),
    ("actions", .object [("actionGroups",
      .array [.object [("actionGroupId", .scalar (.text (maskedReference mode)))]])]),
    ("description", .scalar (.text (Bicep.quote "")))]

theorem masked_reference :
    Scalar.masked (.text a.reference) = .text (maskedReference a.actionMode) := by
  have hquick : Scalar.masked (.text "quickAG.id") = .text "quickAG.id" :=
    Scalar.masked_of_notMem (by decide)
  unfold reference maskedReference
  cases a.actionMode with
  | quick => exact hquick
  | existing => exact Scalar.masked_quote a.groupId

theorem masked_document :
    (a.documentLiteral a.reference).masked =
      maskedDocument a.actionMode a.services.length a.eventTypes.length a.regions.length := by
  have hbool : Scalar.masked (.bool true) = .bool true := Scalar.masked_of_notMem (by decide)
  have happend : ∀ cs ds : List Condition,
      Literal.maskedItems (Condition.toLiterals (cs ++ ds)) =
        Literal.maskedItems (Condition.toLiterals cs) ++
          Literal.maskedItems (Condition.toLiterals ds) := by
    intro cs ds
    simp only [Literal.maskedItems_eq_map, Condition.toLiterals_eq_map, List.map_append]
  unfold documentLiteral maskedDocument conditions
  rw [Condition.build_eq]
  simp only [Literal.masked, Literal.maskedItems, Literal.maskedEntries, Condition.toLiteral,
    Condition.toLiterals, hbool, happend, Condition.masked_equals, Condition.masked_clauses,
    Scalar.masked_quote, masked_reference]

end AlertInput

/-! ## Tags -/

namespace Template

/-- The literal of entries with quoted values. -/
def quotedEntries (m : Keyed String) : List (String × Literal) :=
  m.map fun e => (e.1, .scalar (.text (Bicep.quote e.2)))

theorem tagsLiteral_eq (rows : List (Value × Value)) :
    tagsLiteral rows = .object (quotedEntries (tagTexts rows)) := by
  unfold tagsLiteral
  rw [tags_eq, quoteValues, List.map_map]
  rfl

/-- The key of a tag is bare exactly when it is an identifier. -/
theorem keyTexts_tagKeyOf (v : Value) :
    Bicep.keyTexts (Naming.tagKeyOf v) =
      if Bicep.isIdentifier (Naming.tagKeyOf v).toList then [] else [Naming.tagKeyOf v] := by
  have hbreak : (Naming.tagKeyOf v).toList.getLast? ≠ some '\n' := fun hl =>
    absurd (Naming.isTagKeyChar_of_mem_tagKeyOf (List.mem_of_getLast? hl)) (by decide)
  unfold Bicep.keyTexts Bicep.isBareKey
  simp [hbreak]

theorem texts_quotedEntries {m : Keyed String} (hm : ∀ e ∈ m, '\\' ∉ e.2.toList) :
    Literal.textsOfEntries (quotedEntries m) =
      m.flatMap fun e => Bicep.keyTexts e.1 ++ [e.2] := by
  induction m with
  | nil => rfl
  | cons e m ih =>
    rw [List.forall_mem_cons] at hm
    have hv := Scalar.texts_quote hm.1
    unfold quotedEntries at ih ⊢
    rw [List.map_cons, Literal.textsOfEntries, Literal.texts, hv, ih hm.2, List.flatMap_cons]

theorem readable_quotedEntries {m : Keyed String}
    (hm : ∀ e ∈ m, '\\' ∉ e.1.toList ∧ '\\' ∉ e.2.toList) :
    Literal.ReadableEntries (quotedEntries m) := by
  induction m with
  | nil => trivial
  | cons e m ih =>
    rw [List.forall_mem_cons] at hm
    exact ⟨hm.1.1, Scalar.readable_quote hm.1.2, ih hm.2⟩

theorem masked_quotedEntries (m : Keyed String) :
    Literal.maskedEntries (quotedEntries m) =
      (Keyed.keys m).map fun key => (key, .scalar (.text (Bicep.quote ""))) := by
  induction m with
  | nil => rfl
  | cons e m ih =>
    unfold quotedEntries Keyed.keys at ih ⊢
    rw [List.map_cons, List.map_cons, List.map_cons, Literal.maskedEntries, Literal.masked,
      Scalar.masked_quote, ih]

theorem keys_tags (rows : List (Value × Value)) :
    Keyed.keys (tags rows) = Keyed.keys (tagTexts rows) := by
  rw [tags_eq]
  unfold Keyed.keys quoteValues
  rw [List.map_map]
  rfl

/-- A tag of an alert without backslashes has none, in its key or its value. -/
theorem free_tag {a : AlertInput} (h : a.FreeOfBackslashes) {e : String × String}
    (he : e ∈ tagTexts a.tags) : '\\' ∉ e.1.toList ∧ '\\' ∉ e.2.toList := by
  obtain ⟨row, hrow, rfl⟩ := exists_row_of_mem_tagTexts he
  refine ⟨fun hk => absurd (Naming.isTagKeyChar_of_mem_tagKeyOf hk) (by decide), ?_⟩
  unfold valueText
  split
  · refine h _ (List.mem_append_right _ (List.mem_flatMap.mpr ⟨row, hrow, ?_⟩))
    exact List.mem_cons_of_mem _ List.mem_cons_self
  · exact List.not_mem_nil

/-! ## Parts of the text -/

variable {options : TemplateOptions} {a b : AlertInput}

/-- The indent and the versions of the resource types bring no quote and no backslash into a
template. -/
structure Plain (options : TemplateOptions) : Prop where
  indent : ∀ c ∈ options.indent.toList, c = ' '
  alertVersion : '\'' ∉ options.alertApiVersion.toList ∧ '\\' ∉ options.alertApiVersion.toList
  groupVersion : '\'' ∉ options.actionGroupApiVersion.toList ∧
    '\\' ∉ options.actionGroupApiVersion.toList

theorem Plain.quote_notMem_indent (h : Plain options) : '\'' ∉ options.indent.toList := fun hm =>
  absurd (h.indent _ hm) (by decide)

theorem alike_declaration (resource : Resource) {version : String}
    (h : '\'' ∉ version.toList ∧ '\\' ∉ version.toList) :
    Alike (declaration resource version).toList (declaration resource version).toList
      [resource.type ++ "@" ++ version] := by
  have hquote : '\'' ∉ (resource.type ++ "@" ++ version).toList := by
    simp only [String.toList_append, List.mem_append, not_or]
    exact ⟨⟨by cases resource <;> decide, by decide⟩, h.1⟩
  have hback : '\\' ∉ (resource.type ++ "@" ++ version).toList :=
    AlertInput.notMem_append
      (AlertInput.notMem_append (by cases resource <;> decide) (by decide)) h.2
  have hhead : '\'' ∉ ("resource " ++ resource.symbol ++ " ").toList := by
    cases resource <;> decide
  -- The type stands between bare quotes, which is how it is quoted when it holds none.
  have hparts : declaration resource version =
      "resource " ++ resource.symbol ++ " " ++ Bicep.quote (resource.type ++ "@" ++ version) ++
        " = \x7b\n" := by
    refine String.toList_inj.mp ?_
    unfold declaration
    simp only [String.toList_append, Bicep.toList_quote, Bicep.quoteChars] at hquote ⊢
    rw [Bicep.escapeQuotes_of_notMem hquote]
    simp [List.append_assoc]
  rw [hparts]
  exact ((Alike.plain _ hhead).concat (Alike.ofQuote hback hback)).label _ (by decide)

theorem alike_quickActionGroup {version name name' email email' short short' : String}
    (hv : '\'' ∉ version.toList ∧ '\\' ∉ version.toList) (hn : '\\' ∉ name.toList)
    (hn' : '\\' ∉ name'.toList) (he : '\\' ∉ email.toList) (he' : '\\' ∉ email'.toList) :
    Alike (quickActionGroup name email short version).toList
      (quickActionGroup name' email' short' version).toList
      [Resource.quickActionGroup.type ++ "@" ++ version, name, "global",
        groupShortName short name, "default", email] := by
  have hshort : ∀ short name, '\\' ∉ (groupShortName short name).toList := fun short name hm =>
    absurd (Naming.isLowerAlnum_of_mem_shortName hm) (by decide)
  have hname := (alike_declaration .quickActionGroup hv).line "  name: " (by decide) hn hn'
  have hlocation : '\\' ∉ location.toList := by decide
  have hhead := hname.line "  location: " (by decide) hlocation hlocation
  have hgroup := (hhead.label "  properties: \x7b\n" (by decide)).line "    groupShortName: "
    (by decide) (hshort short name) (hshort short' name')
  have hopen := ((hgroup.label "    enabled: true\n" (by decide)).label
    "    emailReceivers: [\n" (by decide)).label "      \x7b\n" (by decide)
  have hreceiver : '\\' ∉ receiverName.toList := by decide
  have hemail := (hopen.line "        name: " (by decide) hreceiver hreceiver).line
    "        emailAddress: " (by decide) he he'
  exact (((hemail.label "      \x7d\n" (by decide)).label "    ]\n" (by decide)).label
    "  \x7d\n" (by decide)).label "\x7d\n" (by decide)

theorem alike_quickPart (ho : Plain options) (ha : a.FreeOfBackslashes)
    (hb : b.FreeOfBackslashes) (hmode : a.actionMode = b.actionMode) :
    Alike (quickPart options a).toList (quickPart options b).toList (a.groupSpelled options) := by
  unfold quickPart AlertInput.groupSpelled
  rw [← hmode]
  cases a.actionMode with
  | quick =>
    exact alike_quickActionGroup ho.groupVersion (ha _ (by simp [AlertInput.texts]))
      (hb _ (by simp [AlertInput.texts])) (ha _ (by simp [AlertInput.texts]))
      (hb _ (by simp [AlertInput.texts]))
  | existing => exact Alike.plain [] List.not_mem_nil

theorem alike_tagsText (ho : Plain options) (ha : a.FreeOfBackslashes)
    (hb : b.FreeOfBackslashes)
    (hkeys : Keyed.keys (tags a.tags) = Keyed.keys (tags b.tags)) :
    Alike (tagsText options a.tags).toList (tagsText options b.tags).toList
      (tagsSpelled a.tags) := by
  have hspelled : tagsSpelled a.tags =
      (tagTexts a.tags).flatMap fun e => Bicep.keyTexts e.1 ++ [e.2] := by
    unfold tagsSpelled
    rw [List.flatMap_def, List.flatMap_def]
    refine congrArg List.flatten (List.map_congr_left fun e he => ?_)
    obtain ⟨row, -, rfl⟩ := exists_row_of_mem_tagTexts he
    rw [keyTexts_tagKeyOf]
    split <;> rfl
  have hempty : (tags a.tags).isEmpty = (tags b.tags).isEmpty := by
    have := congrArg List.isEmpty hkeys
    unfold Keyed.keys at this
    rwa [List.isEmpty_map, List.isEmpty_map] at this
  rw [hspelled]
  unfold tagsText
  rw [← hempty]
  split
  · rename_i hnone
    have hnil : tagTexts a.tags = [] := by
      rw [tags_eq, quoteValues, List.isEmpty_map, List.isEmpty_iff] at hnone
      exact hnone
    rw [hnil]
    exact Alike.plain [] List.not_mem_nil
  · have hmasked : (tagsLiteral a.tags).masked = (tagsLiteral b.tags).masked := by
      rw [keys_tags, keys_tags] at hkeys
      rw [tagsLiteral_eq, tagsLiteral_eq, Literal.masked, Literal.masked, masked_quotedEntries,
        masked_quotedEntries, hkeys]
    have hread : ∀ {x : AlertInput}, x.FreeOfBackslashes → (tagsLiteral x.tags).Readable :=
      fun hx => by
        rw [tagsLiteral_eq]
        exact readable_quotedEntries fun e he => free_tag hx he
    have htexts : (tagsLiteral a.tags).texts =
        (tagTexts a.tags).flatMap fun e => Bicep.keyTexts e.1 ++ [e.2] := by
      rw [tagsLiteral_eq, Literal.texts]
      exact texts_quotedEntries fun e he => (free_tag ha he).2
    have hwrite := Literal.alike_text options.compactThreshold ho.quote_notMem_indent (hread ha)
      (hread hb) hmasked
    rw [htexts] at hwrite
    rw [String.toList_append, String.toList_append]
    exact hwrite.plain_append _ (by decide)

theorem alike_alertText (ho : Plain options) (ha : a.FreeOfBackslashes)
    (hb : b.FreeOfBackslashes) (hf : a.SameForm b) :
    Alike (alertText options a a.reference).toList (alertText options b b.reference).toList
      ([Resource.alert.type ++ "@" ++ options.alertApiVersion, a.alertName, "global"] ++
        tagsSpelled a.tags ++ (a.documentLiteral a.reference).texts) := by
  have hmasked : (a.documentLiteral a.reference).masked =
      (b.documentLiteral b.reference).masked := by
    rw [AlertInput.masked_document, AlertInput.masked_document, hf.mode, hf.services,
      hf.eventTypes, hf.regions]
  have hwrite := Literal.alike_text options.compactThreshold ho.quote_notMem_indent
    (AlertInput.readable_document ha) (AlertInput.readable_document hb) hmasked
  have hname := (alike_declaration .alert ho.alertVersion).line "  name: " (by decide)
    (ha a.alertName (by simp [AlertInput.texts])) (hb b.alertName (by simp [AlertInput.texts]))
  have hlocation : '\\' ∉ location.toList := by decide
  have hhead := (hname.label "  location: " (by decide)).concat (Alike.ofQuote hlocation hlocation)
  have htags := hhead.concat (alike_tagsText ho ha hb hf.tagKeys)
  have hbody := ((htags.label "\n" (by decide)).label "  properties: " (by decide)).concat hwrite
  exact (hbody.label "\n" (by decide)).label "\x7d\n" (by decide)

/-- Templates of alerts of the same form are alike. -/
theorem alike_render (ho : Plain options) (ha : a.FreeOfBackslashes) (hb : b.FreeOfBackslashes)
    (hf : a.SameForm b) :
    Alike (withReference options a a.reference).text.toList
      (withReference options b b.reference).text.toList (a.spelled options) := by
  have := (alike_quickPart ho ha hb hf.mode).concat (alike_alertText ho ha hb hf)
  rw [AlertInput.texts_document ha] at this
  unfold AlertInput.spelled
  simp only [List.append_assoc] at this ⊢
  exact this

theorem text_of_render {t : Template} (h : render options a = .ok t) :
    t.text = (withReference options a a.reference).text := by
  obtain ⟨r, hr, rfl⟩ := render_eq_ok_iff.mp h
  rw [(AlertInput.actionGroupReference_eq_ok_iff.mp hr).2]

/-- **The literals of a template are exactly its texts, in order, and the rest of it depends on the
form of the alert alone.** -/
theorem render_literals_and_skeleton (options : TemplateOptions) (ho : Plain options)
    (a : AlertInput) (ha : a.FreeOfBackslashes) (t : Template)
    (ht : render options a = .ok t) :
    Bicep.literals? t.text = some (a.spelled options) ∧
      ∀ b : AlertInput, b.FreeOfBackslashes → a.SameForm b → ∀ u : Template,
        render options b = .ok u → Bicep.skeleton? t.text = Bicep.skeleton? u.text := by
  rw [text_of_render ht]
  refine ⟨(alike_render ho ha ha (.refl a)).literals?, fun b hb hf u hu => ?_⟩
  rw [text_of_render hu]
  exact (alike_render ho ha hb hf).skeleton?

/-- An alert whose texts hold quotes, braces and line breaks. -/
def awkwardInput : AlertInput where
  subscriptionId := "s'1"
  alertName := "it's\n\x7d\n'"
  services := ["A'", "\x7bB\x7d"]
  regions := ["' ]"]
  actionMode := .quick
  quickActionGroupName := "Ops '1'"
  quickEmail := "o'x@y.z"
  tags := [(.text "cost center", .text "'"), (.text " env ", .text "'\x7d'")]

/-- An alert of the same form. -/
def tameInput : AlertInput where
  subscriptionId := "1"
  alertName := "a"
  services := ["B", "C"]
  regions := ["D"]
  actionMode := .quick
  quickActionGroupName := "E"
  quickEmail := "F"
  tags := [(.text "cost-center", .text "1"), (.text "env", .text "2")]

theorem render_awkwardInput :
    ∃ t u, render {} awkwardInput = .ok t ∧ render {} tameInput = .ok u ∧
      Bicep.literals? t.text = some ["Microsoft.Insights/actionGroups@2019-06-01", "Ops '1'",
        "global", "ops1", "default", "o'x@y.z",
        "Microsoft.Insights/activityLogAlerts@2023-01-01-preview", "it's\n\x7d\n'", "global",
        "cost-center", "'", "'\x7d'", "/subscriptions/s'1", "category", "ServiceHealth",
        "properties.impactedServices[*].ServiceName", "A'",
        "properties.impactedServices[*].ServiceName", "\x7bB\x7d",
        "properties.impactedServices[*].ImpactedRegions[*].RegionName", "' ]",
        "Service Health alert for A', \x7bB\x7d () in ' ]"] ∧
      Bicep.skeleton? t.text = Bicep.skeleton? u.text := by
  have hindent : "    ".toList.all (· == ' ') = true := by decide
  have hplain : Plain {} :=
    ⟨fun c hc => eq_of_beq (List.all_eq_true.mp hindent c hc), by decide, by decide⟩
  have hfree : awkwardInput.FreeOfBackslashes := by
    unfold AlertInput.FreeOfBackslashes
    decide
  have htame : tameInput.FreeOfBackslashes := by
    unfold AlertInput.FreeOfBackslashes
    decide
  have hform : awkwardInput.SameForm tameInput := ⟨rfl, rfl, rfl, rfl, by decide⟩
  have ht : render {} awkwardInput = .ok (withReference {} awkwardInput "quickAG.id") :=
    render_eq_ok_iff.mpr ⟨_, rfl, rfl⟩
  have hu : render {} tameInput = .ok (withReference {} tameInput "quickAG.id") :=
    render_eq_ok_iff.mpr ⟨_, rfl, rfl⟩
  have h := render_literals_and_skeleton {} hplain awkwardInput hfree _ ht
  exact ⟨_, _, ht, hu, h.1, h.2 tameInput htame hform _ hu⟩

end Template

end HealthAlert
