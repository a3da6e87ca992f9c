import HealthAlert.Proofs.Alert.Document
import HealthAlert.Proofs.Bicep.Spacing

/-!
# Formatting options

Options that differ in indent and threshold only give templates of the same content: the same
resources, properties and conditions, in texts that are equal once they are solid.

* `solid_withReference`: the texts, part by part.
* **`layout_keeps_content`**: the same for single values and for whole templates, failures included.
-/

namespace HealthAlert.Template

open Bicep (solid)

/-- Both indents are made of spaces, and the options differ in indent and threshold at most. -/
structure DifferInLayout (o o' : TemplateOptions) : Prop where
  spaces : ∀ c ∈ o.indent.toList, c = ' '
  spaces' : ∀ c ∈ o'.indent.toList, c = ' '
  alertVersion : o.alertApiVersion = o'.alertApiVersion
  groupVersion : o.actionGroupApiVersion = o'.actionGroupApiVersion

/-- Both renderings fail for the same reason, or they give templates that are the same but for the
gaps in their texts. -/
def SameContent : Except TemplateFault Template → Except TemplateFault Template → Prop
  | .ok t, .ok u =>
    t.resources = u.resources ∧ t.properties = u.properties ∧
      t.conditionCount = u.conditionCount ∧ solid t.text = solid u.text
  | .error e, .error f => e = f
  | _, _ => False

variable {o o' : TemplateOptions}

theorem quickPart_eq (h : DifferInLayout o o') (input : AlertInput) :
    quickPart o input = quickPart o' input := by
  unfold quickPart
  rw [h.groupVersion]

theorem solid_tagsText (h : DifferInLayout o o') (rows : List (Value × Value)) :
    solid (tagsText o rows) = solid (tagsText o' rows) := by
  unfold tagsText
  split
  · rfl
  · exact Bicep.solid_append_congr rfl
      ((tagsLiteral rows).solid_text h.spaces h.spaces' o.compactThreshold o'.compactThreshold)

theorem solid_alertText (h : DifferInLayout o o') (input : AlertInput) (reference : String) :
    solid (alertText o input reference) = solid (alertText o' input reference) := by
  have htags := solid_tagsText h input.tags
  have hbody := (input.documentLiteral reference).solid_text h.spaces h.spaces'
    o.compactThreshold o'.compactThreshold
  -- Between the tags and the properties stand lines that no option changes.
  have hhead := Bicep.solid_append_congr (congrArg solid (congrArg (fun version =>
    declaration .alert version ++ "  name: " ++ Bicep.quote input.alertName ++ "\n" ++
      "  location: " ++ Bicep.quote location) h.alertVersion)) htags
  have hlines := Bicep.solid_append_congr
    (Bicep.solid_append_congr hhead (rfl : solid "\n" = _)) (rfl : solid "  properties: " = _)
  have hend := Bicep.solid_append_congr (Bicep.solid_append_congr hlines hbody)
    (rfl : solid "\n" = _)
  exact Bicep.solid_append_congr hend (rfl : solid "\x7d\n" = _)

theorem solid_withReference (h : DifferInLayout o o') (input : AlertInput) (reference : String) :
    solid (withReference o input reference).text = solid (withReference o' input reference).text :=
  Bicep.solid_append_congr (congrArg solid (quickPart_eq h input))
    (solid_alertText h input reference)

theorem sameContent_render (h : DifferInLayout o o') (input : AlertInput) :
    SameContent (render o input) (render o' input) := by
  rw [render_eq, render_eq]
  cases input.actionGroupReference with
  | error fault => rfl
  | ok reference => exact ⟨rfl, rfl, rfl, solid_withReference h input reference⟩

/-- **Formatting options change the layout only**, of a value and of a template. -/
theorem layout_keeps_content :
    (∀ v : Value, Bicep.Writable v → ∀ indent indent' : String, (∀ c ∈ indent.toList, c = ' ') →
      (∀ c ∈ indent'.toList, c = ' ') → ∀ threshold threshold' : Int,
        ∃ s s', Bicep.render indent threshold v = .ok s ∧
          Bicep.render indent' threshold' v = .ok s' ∧ solid s = solid s') ∧
      ∀ o o' : TemplateOptions, DifferInLayout o o' → ∀ input : AlertInput,
        SameContent (render o input) (render o' input) :=
  ⟨fun _ hv _ _ hi hi' t t' => Bicep.exists_render_of_writable hi hi' t t' hv,
    fun _ _ h input => sameContent_render h input⟩

/-- A value that mixes what may stand on one line with what may not. -/
def mixedValue : Value :=
  .record [("a b", .tuple [.text "'x y'", .mode .quick, .int (-1)]), ("c", .list []),
    ("d", .record [("e", .mode .existing)]), ("f", .list [.list [.bool true], .record []])]

/-- An alert with several services and a tag. -/
def taggedInput : AlertInput where
  subscriptionId := "1"
  alertName := "a b"
  services := ["A", "B", "C"]
  actionMode := .quick
  quickActionGroupName := "E F"
  quickEmail := "e@f.g"
  tags := [(.text "k", .text "v\n w")]

theorem layout_keeps_mixedValue :
    (∃ s s', Bicep.render "" 3 mixedValue = .ok s ∧ Bicep.render "    " (-1) mixedValue = .ok s' ∧
      solid s = solid s') ∧
      ∃ t u, render { indent := "", compactThreshold := 3 } taggedInput = .ok t ∧
        render { compactThreshold := -1 } taggedInput = .ok u ∧
        t.properties = u.properties ∧ solid t.text = solid u.text := by
  have hnone : ∀ c ∈ "".toList, c = ' ' := by simp
  have hfour : ∀ c ∈ "    ".toList, c = ' ' := by simp
  have hwritable : Bicep.Writable mixedValue := by
    simp [mixedValue, Bicep.Writable, Bicep.AreWritable, Bicep.HoldWritable]
  have hoptions : DifferInLayout { indent := "", compactThreshold := 3 }
      { compactThreshold := -1 } := ⟨hnone, hfour, rfl, rfl⟩
  have htemplates := layout_keeps_content.2 _ _ hoptions taggedInput
  have ht : render { indent := "", compactThreshold := 3 } taggedInput =
      .ok (withReference { indent := "", compactThreshold := 3 } taggedInput "quickAG.id") :=
    render_eq_ok_iff.mpr ⟨_, rfl, rfl⟩
  have hu : render { compactThreshold := -1 } taggedInput =
      .ok (withReference { compactThreshold := -1 } taggedInput "quickAG.id") :=
    render_eq_ok_iff.mpr ⟨_, rfl, rfl⟩
  rw [ht, hu] at htemplates
  exact ⟨layout_keeps_content.1 _ hwritable _ _ hnone hfour 3 (-1), _, _, ht, hu,
    htemplates.2.1, htemplates.2.2.2⟩

end HealthAlert.Template
