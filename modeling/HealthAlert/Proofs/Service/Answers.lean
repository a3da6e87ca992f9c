import HealthAlert.Proofs.Alert.Naming
import HealthAlert.Proofs.Json.Printable
import HealthAlert.Proofs.Text.Encoding
import HealthAlert.Service.Endpoint

/-!
# Answers with a template

An answer with a template shows its text and adds names in ASCII, while only private characters
stand for lone surrogates. So the answer has UTF-8 as soon as the text has it, and after a rendering
that succeeded nothing keeps the template from the client.

* `private_ofRequest`: what stands for the lone surrogates of a payload.
* `gives_showText`, **`gives_showDescribed`**: both answers show a template whenever there is one.
-/

namespace HealthAlert

/-! ## Stand-ins -/

namespace Text

/-- Only private characters are stand-ins. -/
def StandIns.Private (lone : StandIns) : Prop :=
  ∀ entry ∈ lone, 0xE000 ≤ entry.1.toNat

variable {lone : StandIns}

theorem private_nil : StandIns.Private [] := List.forall_mem_nil _

/-- A character of ASCII stands for nothing else. -/
theorem StandIns.Private.code?_eq_none (h : lone.Private) {c : Char} (hc : c.toNat < 128) :
    lone.code? c = none := by
  unfold StandIns.code?
  rw [Option.map_eq_none_iff, List.find?_eq_none]
  intro entry hentry heq
  obtain rfl := eq_of_beq heq
  exact absurd (h entry hentry) (by omega)

end Text

namespace Json

theorem le_toNat_of_mem_privateCharacters {c : Char} (h : c ∈ privateCharacters) :
    0xE000 ≤ c.toNat := by
  obtain ⟨n, hn, rfl⟩ := List.mem_map.mp h
  obtain ⟨hle, hlt⟩ := List.mem_range'_1.mp hn
  have hvalid : n.isValidChar := Or.inr ⟨hle.trans' (by decide), by omega⟩
  have hcode : (Char.ofNat n).toNat = n := by
    rw [Char.ofNat, dif_pos hvalid]
    rfl
  exact hle.trans_eq hcode.symm

theorem private_standIns (points : List Nat) : (standIns points).Private := by
  unfold standIns
  split
  · exact Text.private_nil
  · intro entry hentry
    exact le_toNat_of_mem_privateCharacters (List.mem_filter.mp (List.of_mem_zip hentry).1).1

theorem private_of_openPoints {points : List Nat} {d : Document} (h : openPoints points = .ok d) :
    d.lone.Private := by
  unfold openPoints at h
  cases hread : readText (settle points) with
  | error e => simp [hread, Except.map] at h
  | ok v =>
    rw [hread] at h
    obtain rfl := Except.ok.inj h
    exact private_standIns points

theorem private_of_readBytes {bytes : List UInt8} {d : Document} (h : readBytes bytes = .value d) :
    d.lone.Private := by
  unfold readBytes at h
  dsimp only at h
  split at h
  · exact absurd h (by simp)
  · split at h
    · rename_i hd
      obtain rfl := Reading.value.inj h
      exact private_of_openPoints hd
    · exact absurd h (by simp)
    · exact absurd h (by simp)

end Json

namespace Service

open Http (Request Response)

theorem Payload.private_ofRequest {r : Request} {v : Value} {lone : Text.StandIns}
    (h : Payload.ofRequest r = .value v lone) : lone.Private := by
  unfold Payload.ofRequest at h
  split at h
  · exact absurd h (by simp)
  · split at h
    · unfold Payload.ofJson at h
      split at h
      · exact absurd h (by simp)
      · rename_i hd
        obtain ⟨-, rfl⟩ := Payload.value.inj h
        exact Json.private_of_readBytes hd
      · exact absurd h (by simp)
      · exact absurd h (by simp)
    · unfold Payload.ofText at h
      split at h
      · obtain ⟨-, rfl⟩ := Payload.value.inj h
        exact Text.private_nil
      · exact absurd h (by simp)

namespace Endpoint

/-! ## Answers -/

/-- The answer shows a template, and has UTF-8 when the text of the template has it. -/
structure Gives (answer : AlertInput → Template → Response) : Prop where
  status : ∀ input t, (answer input t).status = 200
  body : ∀ {lone : Text.StandIns}, lone.Private → ∀ input t,
    Text.encodingFault? lone t.text = none → Text.encodingFault? lone (answer input t).body = none

theorem gives_showText : Gives showText where
  status _ _ := rfl
  body _ _ _ h := h

/-- The characters of the short name are ASCII. -/
theorem lt_of_mem_shortName {input : AlertInput} {name : String}
    (h : input.shortName? = some name) : ∀ c ∈ name.toList, c.toNat < 128 := by
  unfold AlertInput.shortName? at h
  split at h
  · obtain rfl := Option.some.inj h
    exact fun c hc => (Text.lt_of_isLowerAlnum (Naming.isLowerAlnum_of_mem_shortName hc)).1
  · exact absurd h (by simp)

theorem lt_of_all {s : String} (h : (s.toList.all fun c => decide (c.toNat < 128)) = true) :
    ∀ c ∈ s.toList, c.toNat < 128 :=
  fun c hc => of_decide_eq_true (List.all_eq_true.mp h c hc)

theorem lt_of_mem_symbol (resource : Resource) : ∀ c ∈ resource.symbol.toList, c.toNat < 128 := by
  cases resource <;> exact lt_of_all (by decide)

/-- What a template is described by has the property that its text and ASCII have. -/
theorem spelt_templateValue {p : Char → Prop} (hp : ∀ c : Char, c.toNat < 128 → p c)
    (input : AlertInput) {t : Template} (h : ∀ c ∈ t.text.toList, p c) :
    (templateValue input t).Spelt p := by
  have hkey (k : String) (hk : (k.toList.all fun c => decide (c.toNat < 128)) = true) :
      ∀ c ∈ k.toList, p c := fun c hc => hp c (lt_of_all hk c hc)
  have hresources : Value.AllSpelt p (t.resources.map fun r => .text r.symbol) := by
    rw [Value.allSpelt_iff]
    intro x hx
    obtain ⟨resource, -, rfl⟩ := List.mem_map.mp hx
    exact fun c hc => hp c (lt_of_mem_symbol resource c hc)
  refine ⟨hkey _ (by decide), h, hkey _ (by decide), hresources, hkey _ (by decide), trivial,
    hkey _ (by decide), ?_, trivial⟩
  split
  · exact fun c hc => hp c (lt_of_mem_shortName ‹_› c hc)
  · trivial

theorem gives_showDescribed : Gives showDescribed where
  status _ _ := rfl
  body {lone} hprivate input t h := by
    rw [Text.encodingFault?, Text.encodingFaultFrom_eq_none_iff] at h ⊢
    have hascii (c : Char) (hc : c.toNat < 128) : lone.code? c = none :=
      hprivate.code?_eq_none hc
    have hprintable (c : Char) (hc : Ascii.IsPrintable c) : lone.code? c = none :=
      hascii c (by have := Ascii.isPrintable_iff.mp hc; omega)
    show ∀ c ∈ (Json.write Json.compact (templateValue input t)).toList, lone.code? c = none
    rw [Json.write, String.toList_ofList]
    exact Json.forall_mem_writeChars hprintable Json.plain_compact _
      (Or.inr (spelt_templateValue hascii input h))

end Endpoint

end Service

end HealthAlert
