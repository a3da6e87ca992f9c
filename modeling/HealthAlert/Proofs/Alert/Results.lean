import HealthAlert.Alert.Rendering
import HealthAlert.Proofs.Alert.Document
import HealthAlert.Proofs.Text.Encoding

/-!
# How a rendering ends

A rendering composes the template and then takes its size in UTF-8. When the tags can be written it
ends as `Template.render` does, unless the text of the template has no UTF-8.

* `compose_eq_ok_iff`: the template that is composed.
* `compose_eq_render`: tags that can be written leave the faults of the template.
* **`run_result_eq_ok_iff`**: the template that comes out of a rendering with its record.
-/

namespace HealthAlert

/-- There are properties as soon as there is a reference to the action group. -/
theorem AlertInput.toBool_properties (input : AlertInput) :
    input.properties.toBool = input.actionGroupReference.toBool := by
  rw [properties_eq]
  cases input.actionGroupReference <;> rfl

namespace Rendering

/-- The tags can be written. -/
def HasWritableTags (input : AlertInput) : Prop :=
  ∀ row ∈ input.tags, isUnwritableRow row = false

variable {options : TemplateOptions} {input : AlertInput} {t : Template}

theorem any_isUnwritableRow_eq_false_iff :
    input.tags.any isUnwritableRow = false ↔ HasWritableTags input := by
  rw [List.any_eq_false, HasWritableTags]
  simp only [Bool.not_eq_true]

/-- Tags that can be written leave the faults of the template. -/
theorem compose_eq_render (h : HasWritableTags input) :
    compose options input = (Template.render options input).mapError .template := by
  rw [compose, any_isUnwritableRow_eq_false_iff.mpr h, Bool.and_false]
  rfl

theorem compose_eq_ok_iff :
    compose options input = .ok t ↔
      HasWritableTags input ∧ Template.render options input = .ok t := by
  rw [← any_isUnwritableRow_eq_false_iff, compose, AlertInput.toBool_properties, Template.render_eq]
  cases input.actionGroupReference with
  | error f => exact ⟨fun h => absurd h (by rintro ⟨⟩), fun ⟨_, h⟩ => absurd h (by rintro ⟨⟩)⟩
  | ok reference =>
    cases input.tags.any isUnwritableRow with
    | true => exact ⟨fun h => absurd h (by rintro ⟨⟩), fun ⟨h, _⟩ => absurd h (by simp)⟩
    | false => exact ⟨fun h => ⟨rfl, by cases h; rfl⟩, fun ⟨_, h⟩ => by cases h; rfl⟩

/-! ## The size of the text -/

theorem encoded_of_none {lone : Text.StandIns} (h : Text.encodingFault? lone t.text = none) :
    encoded lone t = .ok t := by
  rw [encoded, h]

theorem encoded_of_some {lone : Text.StandIns} {f : Text.EncodingFault}
    (h : Text.encodingFault? lone t.text = some f) : encoded lone t = .error (.unencodable f) := by
  rw [encoded, h]

theorem encoded_eq_ok_iff {lone : Text.StandIns} {t' : Template} :
    encoded lone t = .ok t' ↔ Text.encodingFault? lone t.text = none ∧ t = t' := by
  rw [encoded]
  cases Text.encodingFault? lone t.text <;> simp

/-- What a text holds stands in its quotation. -/
theorem mem_quote {s : String} {c : Char} (h : c ∈ s.toList) : c ∈ (Bicep.quote s).toList := by
  have hescaped : c ∈ Bicep.escapeQuotes s.toList := by
    refine List.mem_flatMap.mpr ⟨c, h, ?_⟩
    split <;> simp_all
  rw [Bicep.toList_quote, Bicep.quoteChars]
  exact List.mem_cons_of_mem _ (List.mem_append_left _ hescaped)

/-- The name of an alert stands in its template. -/
theorem occurIn_text {lone : Text.StandIns} (h : lone.occurIn input.alertName = true)
    (reference : String) :
    lone.occurIn (Template.withReference options input reference).text = true := by
  obtain ⟨c, hc, hcode⟩ := Text.occurIn_iff.mp h
  refine Text.occurIn_iff.mpr ⟨c, ?_, hcode⟩
  simp only [Template.withReference, Template.alertText, String.toList_append, List.mem_append]
  simp [mem_quote hc]

/-! ## The whole -/

variable {c : Circumstances} {m : Metrics}

theorem run_result_of_compose (h : compose options input = .ok t) :
    (run options c m input).result = encoded c.lone t := by
  rw [run, h]
  rfl

/-- A template in whose text a stand-in occurs ends the rendering. -/
theorem exists_unencodable (h : compose options input = .ok t)
    (hlone : c.lone.occurIn t.text = true) :
    ∃ f, (compose options input >>= encoded c.lone) = .error (.unencodable f) := by
  have hfault : Text.encodingFault? c.lone t.text ≠ none := fun hnone => by
    rw [Text.encodingFault?_eq_none_iff, hlone] at hnone
    exact Bool.false_ne_true hnone.symm
  obtain ⟨f, hf⟩ := Option.ne_none_iff_exists'.mp hfault
  refine ⟨f, ?_⟩
  rw [h]
  exact encoded_of_some hf

/-- **The template of a rendering** has writable tags and a text with UTF-8. -/
theorem run_result_eq_ok_iff :
    (run options c m input).result = .ok t ↔
      HasWritableTags input ∧ Template.render options input = .ok t ∧
        Text.encodingFault? c.lone t.text = none := by
  rw [← and_assoc, ← compose_eq_ok_iff]
  show (compose options input >>= encoded c.lone) = .ok t ↔ _
  cases compose options input with
  | error f => exact iff_of_false (by rintro ⟨⟩) (by simp)
  | ok t' =>
    show encoded c.lone t' = .ok t ↔ _
    rw [encoded_eq_ok_iff, Except.ok.injEq]
    exact ⟨fun h => ⟨h.2, h.2 ▸ h.1⟩, fun h => ⟨h.1 ▸ h.2, h.1⟩⟩

end Rendering

end HealthAlert
