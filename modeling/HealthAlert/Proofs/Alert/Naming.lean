import HealthAlert.Proofs.Alert.Tags
import HealthAlert.Proofs.Form.Trimming
import HealthAlert.Proofs.Text.Ascii
import HealthAlert.Proofs.Value.LongIntegers

/-!
# Names that are made once

A short name and a tag key are made from any value that has a text, and each result has a form of
its own (`IsShortName`, `IsTagKey`) in which nothing is left to do: making the name again from a
text changes the text exactly when it does not have that form. One would expect that every value
has a text; but an integer with more digits than are written has none. Of the decomposition of
characters only one fact is used, `skeleton_of_isLowerAlnum`.

* `isShortName_shortName`, `shortName_eq_self`: the form of a short name, and that it stays.
* `isTagKey_tagKey`, `tagKey_eq_self`: the same for the key of a tag.
* `tagKeyOf_eq_empty_iff`: nothing is left of a blank key, and only of a blank one.
* **`shortNameOf?_judges`**, **`tagKeyOf?_judges`**: both together, for every value.
-/

namespace HealthAlert

/-! ## Characters -/

namespace Text

/-- Lowercase letters and digits are ASCII, and none of them is a capital. -/
theorem lt_of_isLowerAlnum {c : Char} (h : isLowerAlnum c = true) :
    c.toNat < 128 ∧ c.isUpper = false := by
  rw [isLowerAlnum, Bool.or_eq_true, Ascii.isLower_iff, Ascii.isDigit_iff] at h
  rw [Bool.eq_false_iff, Ne, Ascii.isUpper_iff]
  omega

/-- A lowercase letter or digit leaves itself. -/
theorem skeleton_of_isLowerAlnum {c : Char} (h : isLowerAlnum c = true) : skeleton c = [c] := by
  obtain ⟨hascii, hcapital⟩ := lt_of_isLowerAlnum h
  have hlower : c.toLower = c := dif_neg (of_decide_eq_false hcapital)
  unfold skeleton
  rw [if_pos hascii, hlower, List.filter_cons_of_pos h, List.filter_nil]

theorem flatMap_skeleton {cs : List Char} (h : ∀ c ∈ cs, isLowerAlnum c = true) :
    cs.flatMap skeleton = cs := by
  induction cs with
  | nil => rfl
  | cons c cs ih =>
    rw [List.forall_mem_cons] at h
    rw [List.flatMap_cons, skeleton_of_isLowerAlnum h.1, ih h.2, List.singleton_append]

end Text

namespace Naming

open Template (valueText)

theorem isLower_of_not_isDigit {c : Char} (h : Text.isLowerAlnum c = true)
    (hdigit : c.isDigit = false) : c.isLower = true := by
  simpa [Text.isLowerAlnum, hdigit] using h

/-- No character of a tag key is white space. -/
theorem not_isBlank_of_isTagKeyChar {c : Char} (h : isTagKeyChar c = true) :
    Text.isBlank c = false := by
  simp only [isTagKeyChar, Bool.or_eq_true, beq_iff_eq] at h
  rcases h with ((h | rfl) | rfl) | rfl
  · rw [Ascii.isAlphanum_iff, Ascii.isUpper_iff, Ascii.isLower_iff, Ascii.isDigit_iff] at h
    simp only [Text.isBlank, Bool.or_eq_false_iff, Bool.and_eq_false_imp, decide_eq_true_eq,
      decide_eq_false_iff_not, beq_eq_false_iff_ne]
    omega
  all_goals decide

/-! ## Short names -/

/-- One to twelve lowercase ASCII letters and digits, the first of them a letter. -/
structure IsShortName (s : String) : Prop where
  length : 1 ≤ s.length ∧ s.length ≤ 12
  first : ∀ c, s.toList.head? = some c → c.isLower = true
  chars : ∀ c ∈ s.toList, Text.isLowerAlnum c = true

/-- A short name begins with what is put before a digit, or with a letter of the name. -/
theorem exists_shortNameChars_eq (cs : List Char) : ∃ c rest,
    shortNameChars cs = (c :: rest).take maxShortName ∧ c.isLower = true := by
  unfold shortNameChars
  split
  · exact ⟨'a', ['g'], rfl, by decide⟩
  · rename_i c rest hkept
    have hmem : c ∈ (cs.flatMap Text.skeleton).filter Text.isLowerAlnum :=
      hkept ▸ List.mem_cons_self
    cases hdigit : c.isDigit with
    | true => exact ⟨'a', 'g' :: c :: rest, rfl, by decide⟩
    | false => exact ⟨c, rest, rfl, isLower_of_not_isDigit (List.mem_filter.mp hmem).2 hdigit⟩

theorem isShortName_shortName (name : String) : IsShortName (shortName name) := by
  obtain ⟨c, rest, heq, hlower⟩ := exists_shortNameChars_eq name.toList
  have hlist : (shortName name).toList = c :: rest.take 11 := by
    unfold shortName
    rw [String.toList_ofList, heq]
    rfl
  refine ⟨?_, fun d hd => ?_, fun d hd => isLowerAlnum_of_mem_shortName hd⟩
  · rw [← String.length_toList, hlist, List.length_cons, List.length_take]
    omega
  · rw [hlist, List.head?_cons] at hd
    exact Option.some.inj hd ▸ hlower

/-- A short name stays as it is when it is made again. -/
theorem shortName_eq_self {s : String} (h : IsShortName s) : shortName s = s := by
  have hkept : (s.toList.flatMap Text.skeleton).filter Text.isLowerAlnum = s.toList := by
    rw [Text.flatMap_skeleton h.chars, List.filter_eq_self.mpr h.chars]
  have hchars : shortNameChars s.toList = s.toList := by
    unfold shortNameChars
    rw [hkept]
    cases hs : s.toList with
    | nil => exact absurd h.length.1 (by rw [← String.length_toList, hs]; decide)
    | cons c rest =>
      have hlower : c.isLower = true := h.first c (by rw [hs]; rfl)
      have hlength : (c :: rest).length ≤ maxShortName := by
        rw [← hs, String.length_toList]
        exact h.length.2
      show ((if c.isDigit then fallback else []) ++ c :: rest).take maxShortName = c :: rest
      rw [Ascii.not_isDigit_of_isLower hlower]
      exact List.take_of_length_le hlength
  rw [shortName, hchars, String.ofList_toList]

/-! ## Tag keys -/

/-- ASCII letters, digits, underscores, dots and hyphens, of which the first is no digit. -/
structure IsTagKey (s : String) : Prop where
  chars : ∀ c ∈ s.toList, isTagKeyChar c = true
  first : ∀ c, s.toList.head? = some c → c.isDigit = false

theorem not_isDigit_of_head?_tagKeyChars {cs : List Char} {c : Char}
    (h : (tagKeyChars cs).head? = some c) : c.isDigit = false := by
  unfold tagKeyChars at h
  split at h
  · exact absurd h (by simp)
  · rename_i d rest hd
    cases hdigit : d.isDigit with
    | true =>
      rw [if_pos hdigit] at h
      exact Option.some.inj h ▸ (by decide)
    | false =>
      rw [hdigit] at h
      exact Option.some.inj h ▸ hdigit

theorem isTagKey_tagKey (key : String) : IsTagKey (tagKey key) := by
  unfold tagKey
  refine ⟨fun c hc => ?_, fun c hc => ?_⟩
  · rw [String.toList_ofList] at hc
    exact isTagKeyChar_of_mem_tagKeyChars hc
  · rw [String.toList_ofList] at hc
    exact not_isDigit_of_head?_tagKeyChars hc

/-- A tag key stays as it is when it is made again. -/
theorem tagKey_eq_self {s : String} (h : IsTagKey s) : tagKey s = s := by
  have htrim : Text.trimBlanks s.toList = s.toList :=
    Text.trimBlanks_eq_self fun c hc => not_isBlank_of_isTagKeyChar (h.chars c hc)
  have hkept : (s.toList.map fun c => if isTagKeyChar c then c else '-') = s.toList := by
    rw [List.map_congr_left fun c hc => if_pos (h.chars c hc), List.map_id']
  have hchars : tagKeyChars s.toList = s.toList := by
    unfold tagKeyChars
    rw [htrim, hkept]
    cases hs : s.toList with
    | nil => rfl
    | cons c rest => simp [h.first c (by rw [hs]; rfl)]
  rw [tagKey, hchars, String.ofList_toList]

theorem tagKeyChars_eq_nil_iff {cs : List Char} :
    tagKeyChars cs = [] ↔ Text.trimBlanks cs = [] := by
  unfold tagKeyChars
  cases Text.trimBlanks cs with
  | nil => simp
  | cons c rest =>
    rw [List.map_cons]
    generalize (if isTagKeyChar c then c else '-') = d
    cases hdigit : d.isDigit <;> simp [hdigit]

/-- Nothing is left of a key of white space, and only of such a key. -/
theorem tagKey_eq_empty_iff {key : String} : tagKey key = "" ↔ Text.isBlankText key = true := by
  rw [Text.isBlankText, List.all_eq_true, ← Text.trimBlanks_eq_nil_iff, ← tagKeyChars_eq_nil_iff,
    tagKey, ← String.toList_inj, String.toList_ofList]
  rfl

theorem tagKeyOf_eq (v : Value) : tagKeyOf v = tagKey (valueText v) := by
  unfold tagKeyOf valueText
  split <;> rfl

/-- The key counts as nothing, or it is white space. -/
def isBlankKey (v : Value) : Bool :=
  !v.truthy || Text.isBlankText v.display

theorem tagKeyOf_eq_empty_iff {v : Value} : tagKeyOf v = "" ↔ isBlankKey v = true := by
  unfold tagKeyOf isBlankKey
  cases v.truthy with
  | true => exact tagKey_eq_empty_iff
  | false => exact iff_of_true rfl rfl

theorem isBlankKey_eq (v : Value) : isBlankKey v = (tagKeyOf v == "") := by
  rw [Bool.eq_iff_iff, beq_iff_eq, tagKeyOf_eq_empty_iff]

/-! ## Names of every value -/

theorem shortNameOf?_text (s : String) : shortNameOf? (.text s) = some (shortName s) := by
  rw [shortNameOf?]
  cases h : s.isEmpty with
  | true =>
    obtain rfl : s = "" := String.isEmpty_iff.mp h
    rfl
  | false => rw [Value.truthy, h]; rfl

/-- A value that has no short name holds an integer that is too long. -/
theorem shortNameOf?_eq_none_iff {v : Value} : shortNameOf? v = none ↔ v.HoldsLongInteger := by
  rw [shortNameOf?]
  cases h : v.truthy with
  | true => rw [if_pos rfl, Option.map_eq_none_iff, Value.display?_eq_none_iff]
  | false =>
    exact iff_of_false (by simp) fun hlong =>
      absurd (Value.truthy_of_holdsLongInteger hlong) (by simp [h])

theorem exists_of_shortNameOf? {v : Value} {s : String} (h : shortNameOf? v = some s) :
    ∃ name, s = shortName name := by
  rw [shortNameOf?] at h
  split at h
  · obtain ⟨name, -, rfl⟩ := Option.map_eq_some_iff.mp h
    exact ⟨name, rfl⟩
  · exact ⟨"", (Option.some.inj h).symm⟩

/-- **A short name is made once.** Whatever value it is made from, it is one to twelve lowercase
ASCII letters and digits that begin with a letter; made again from itself it stays the same, and
so do all texts of this form and no others. Only a value that holds an integer which is too long
has no short name. -/
theorem shortNameOf?_judges (v : Value) :
    (shortNameOf? v = none ↔ v.HoldsLongInteger) ∧
      (∀ s, shortNameOf? v = some s → IsShortName s ∧ shortNameOf? (.text s) = some s) ∧
      ∀ s, shortNameOf? (.text s) = some s ↔ IsShortName s := by
  have hself (s : String) : shortNameOf? (.text s) = some s ↔ IsShortName s := by
    rw [shortNameOf?_text, Option.some.injEq]
    exact ⟨fun h => h ▸ isShortName_shortName s, shortName_eq_self⟩
  refine ⟨shortNameOf?_eq_none_iff, fun s h => ?_, hself⟩
  obtain ⟨name, rfl⟩ := exists_of_shortNameOf? h
  have hform : IsShortName (shortName name) := isShortName_shortName name
  exact ⟨hform, (hself _).mpr hform⟩

/-- A name of two words that begins with a digit. -/
theorem shortNameOf?_dated :
    shortNameOf? (.text "3 Café Teamwork") = some "ag3cafeteamw" ∧
      shortNameOf? (.text "ag3cafeteamw") = some "ag3cafeteamw" := by
  have hname : shortNameOf? (.text "3 Café Teamwork") = some "ag3cafeteamw" := by decide +kernel
  exact ⟨hname, ((shortNameOf?_judges (.text "3 Café Teamwork")).2.1 _ hname).2⟩

theorem shortNameOf?_leastLong : shortNameOf? (.int Value.leastLong) = none :=
  shortNameOf?_eq_none_iff.mpr ((Value.holdsLong_iff _).mp Value.holdsLong_leastLong)

theorem tagKeyOf?_eq (v : Value) :
    tagKeyOf? v = if v.holdsLong then none else some (tagKeyOf v) := by
  rw [tagKeyOf?, tagKeyOf]
  cases h : v.truthy with
  | true =>
    rw [if_pos rfl, if_pos rfl, Value.display?]
    cases v.holdsLong <;> rfl
  | false =>
    have hshort : v.holdsLong = false := Value.holdsLong_eq_false_iff.mpr fun hlong =>
      absurd (Value.truthy_of_holdsLongInteger hlong) (by simp [h])
    rw [hshort]
    rfl

theorem tagKeyOf?_eq_none_iff {v : Value} : tagKeyOf? v = none ↔ v.HoldsLongInteger := by
  rw [tagKeyOf?_eq, ← Value.holdsLong_iff]
  cases v.holdsLong <;> simp

theorem tagKeyOf?_text (s : String) : tagKeyOf? (.text s) = some (tagKey s) := by
  rw [tagKeyOf?_eq, tagKeyOf_eq, Template.valueText_text]
  rfl

/-- A member of an enumeration is read by its name. -/
theorem tagKeyOf?_member {m : TextMember} (h : m.text ≠ "") :
    tagKeyOf? (.member m) = some (tagKey m.fullName) := by
  have htruthy : (Value.member m).truthy = true := by simpa [Value.truthy] using h
  rw [tagKeyOf?, htruthy]
  rfl

/-- **A tag key is made once.** Whatever value it is made from, it holds ASCII letters, digits,
underscores, dots and hyphens only and does not begin with a digit; it is empty exactly when the
value counts as nothing or its text is all white space; made again from itself it stays the same,
and so do all texts of this form and no others, unless they are members of an enumeration: of these
the name is taken. Only a value that holds an integer which is too long has no tag key. -/
theorem tagKeyOf?_judges (v : Value) :
    (tagKeyOf? v = none ↔ v.HoldsLongInteger) ∧
      (∀ s, tagKeyOf? v = some s → IsTagKey s ∧
        (s = "" ↔ v.truthy = false ∨ Text.isBlankText v.display = true) ∧
        tagKeyOf? (.text s) = some s) ∧
      (∀ s, tagKeyOf? (.text s) = some s ↔ IsTagKey s) ∧
      ∀ m : TextMember, m.text ≠ "" → tagKeyOf? (.member m) = some (tagKey m.fullName) := by
  have hself (s : String) : tagKeyOf? (.text s) = some s ↔ IsTagKey s := by
    rw [tagKeyOf?_text, Option.some.injEq]
    exact ⟨fun h => h ▸ isTagKey_tagKey s, tagKey_eq_self⟩
  have hempty : tagKeyOf v = "" ↔ v.truthy = false ∨ Text.isBlankText v.display = true := by
    rw [tagKeyOf_eq_empty_iff, isBlankKey, Bool.or_eq_true, Bool.not_eq_true']
  refine ⟨tagKeyOf?_eq_none_iff, fun s h => ?_, hself, fun m => tagKeyOf?_member⟩
  rw [tagKeyOf?_eq] at h
  split at h
  · exact absurd h (by simp)
  · obtain rfl : tagKeyOf v = s := Option.some.inj h
    have hform : IsTagKey (tagKeyOf v) := tagKeyOf_eq v ▸ isTagKey_tagKey _
    exact ⟨hform, hempty, (hself _).mpr hform⟩

/-- A key that begins with a digit when the white space in front of it is gone. -/
theorem tagKeyOf?_dated :
    tagKeyOf? (.text " 1st key") = some "t-1st-key" ∧
      tagKeyOf? (.text "t-1st-key") = some "t-1st-key" := by
  have hkey : tagKeyOf? (.text " 1st key") = some "t-1st-key" := by decide
  exact ⟨hkey, ((tagKeyOf?_judges (.text " 1st key")).2.1 _ hkey).2.2⟩

/-- A text that is a member of an enumeration is changed, though it has the form of a tag key; and
an integer that is too long has no tag key at all. -/
theorem tagKeyOf?_quick :
    IsTagKey ActionMode.quick.label ∧
      tagKeyOf? (.mode .quick) = some "ActionMode.QUICK" ∧
      tagKeyOf? (.int Value.leastLong) = none := by
  refine ⟨⟨?_, ?_⟩, rfl, ?_⟩
  · simp [ActionMode.label, isTagKeyChar]
  · simp [ActionMode.label]
  · exact tagKeyOf?_eq_none_iff.mpr ((Value.holdsLong_iff _).mp Value.holdsLong_leastLong)

end Naming

end HealthAlert
