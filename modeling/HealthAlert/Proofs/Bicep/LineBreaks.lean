import HealthAlert.Proofs.Bicep.Spacing
import HealthAlert.Proofs.Decimal.Characters

/-!
# Values without line breaks

A line break in the text of a tree comes from its layout, unless a text or a key of the tree holds
one. `Unbroken` says of a value that none does, and of a tree that no scalar and no key of it is
written with one: numbers and truth values never are.

* `unbroken_of_ofValue?`: the tree of an unbroken value is unbroken.
-/

namespace HealthAlert

namespace Bicep

/-! ## Values -/

mutual

/-- No text, no name of a member and no key in the value holds a line break. -/
def Unbroken : Value → Prop
  | .text s => '\n' ∉ s.toList
  | .member m => '\n' ∉ m.text.toList ∧ '\n' ∉ m.fullName.toList
  | .list vs => AreUnbroken vs
  | .tuple vs => AreUnbroken vs
  | .record es => HoldUnbroken es
  | _ => True

/-- The elements are unbroken. -/
def AreUnbroken : List Value → Prop
  | [] => True
  | v :: vs => Unbroken v ∧ AreUnbroken vs

/-- The keys hold no line break, and the entries unbroken values. -/
def HoldUnbroken : List (String × Value) → Prop
  | [] => True
  | (key, v) :: es => '\n' ∉ key.toList ∧ Unbroken v ∧ HoldUnbroken es

end

theorem unbroken_mode (m : ActionMode) : Unbroken (.mode m) := by
  rw [Unbroken]
  cases m <;> decide

/-! ## Trees -/

/-- The scalar is written without a line break, wherever it stands. -/
structure Scalar.Unbroken (s : Scalar) : Prop where
  content : '\n' ∉ s.content.toList
  soleContent : '\n' ∉ s.soleContent.toList

/-- Only a text can be written with a line break, or a member of an enumeration. -/
theorem Scalar.unbroken {s : Scalar} (htext : ∀ t, s = .text t → '\n' ∉ t.toList)
    (hmember : ∀ m, s = .member m → '\n' ∉ m.text.toList ∧ '\n' ∉ m.fullName.toList) :
    s.Unbroken := by
  have hint (n : Int) : '\n' ∉ (toString n).toList := fun hmem =>
    absurd (Decimal.isDigit_or_minus_of_mem_toString hmem) (by decide)
  cases s with
  | bool b => cases b <;> exact ⟨by decide, by decide⟩
  | int n => exact ⟨hint n, hint n⟩
  | float x =>
    have hcontent : '\n' ∉ (content (.float x)).toList := by
      rw [content]
      split
      · exact hint _
      · exact fun hmem => absurd (Double.isNumeralChar_of_mem_text hmem) (by decide)
    exact ⟨hcontent, hcontent⟩
  | text t => exact ⟨htext t rfl, htext t rfl⟩
  | member m => exact ⟨(hmember m rfl).1, (hmember m rfl).2⟩

namespace Literal

mutual

/-- No scalar and no key of the tree is written with a line break. -/
def Unbroken : Literal → Prop
  | .scalar s => s.Unbroken
  | .array items => UnbrokenItems items
  | .object entries => UnbrokenEntries entries

/-- The elements are unbroken. -/
def UnbrokenItems : List Literal → Prop
  | [] => True
  | item :: items => Unbroken item ∧ UnbrokenItems items

/-- The keys hold no line break, and the entries unbroken trees. -/
def UnbrokenEntries : List (String × Literal) → Prop
  | [] => True
  | (key, item) :: entries => '\n' ∉ key.toList ∧ Unbroken item ∧ UnbrokenEntries entries

end

theorem unbrokenItems_iff {items : List Literal} :
    UnbrokenItems items ↔ ∀ item ∈ items, item.Unbroken := by
  induction items with
  | nil => simp [UnbrokenItems]
  | cons item items ih => simp [UnbrokenItems, ih]

mutual

/-- **The tree of an unbroken value is unbroken.** -/
theorem unbroken_of_ofValue? : ∀ {v : Value} {l : Literal}, Bicep.Unbroken v →
    ofValue? v = .ok l → l.Unbroken
  | .null, _, _, h => nomatch h
  | .foreign _, _, _, h => nomatch h
  | .bool _, _, _, h => by
    cases h; exact Scalar.unbroken (fun _ h => nomatch h) (fun _ h => nomatch h)
  | .int _, _, _, h => by
    cases h; exact Scalar.unbroken (fun _ h => nomatch h) (fun _ h => nomatch h)
  | .float _, _, _, h => by
    cases h; exact Scalar.unbroken (fun _ h => nomatch h) (fun _ h => nomatch h)
  | .member m, _, hv, h => by
    cases h
    refine Scalar.unbroken (fun _ h => nomatch h) fun m' hm => ?_
    rw [← Scalar.member.inj hm]
    exact hv
  | .text s, _, hv, h => by
    cases h
    refine Scalar.unbroken (fun t ht => ?_) (fun _ h => nomatch h)
    rw [← Scalar.text.inj ht]
    exact hv
  | .list vs, _, hv, h => by
    rw [ofValue?] at h
    obtain ⟨items, hitems, rfl⟩ := exists_of_map_eq_ok h
    exact unbrokenItems_of_ofItems? hv hitems
  | .tuple vs, _, hv, h => by
    rw [ofValue?] at h
    obtain ⟨items, hitems, rfl⟩ := exists_of_map_eq_ok h
    exact unbrokenItems_of_ofItems? hv hitems
  | .record es, _, hv, h => by
    rw [ofValue?] at h
    obtain ⟨entries, hentries, rfl⟩ := exists_of_map_eq_ok h
    exact unbrokenEntries_of_ofEntries? hv hentries

theorem unbrokenItems_of_ofItems? : ∀ {vs : List Value} {items : List Literal},
    AreUnbroken vs → ofItems? vs = .ok items → UnbrokenItems items
  | [], _, _, h => by cases h; trivial
  | v :: vs, _, hvs, h => by
    obtain ⟨l, ls, hl, hls, rfl⟩ := ofItems?_cons_eq_ok h
    exact ⟨unbroken_of_ofValue? hvs.1 hl, unbrokenItems_of_ofItems? hvs.2 hls⟩

theorem unbrokenEntries_of_ofEntries? :
    ∀ {es : List (String × Value)} {entries : List (String × Literal)},
      HoldUnbroken es → ofEntries? es = .ok entries → UnbrokenEntries entries
  | [], _, _, h => by cases h; trivial
  | (key, v) :: es, _, hes, h => by
    obtain ⟨l, ls, hl, hls, rfl⟩ := ofEntries?_cons_eq_ok h
    exact ⟨hes.1, unbroken_of_ofValue? hes.2.1 hl, unbrokenEntries_of_ofEntries? hes.2.2 hls⟩

end

end Literal

end Bicep

end HealthAlert
