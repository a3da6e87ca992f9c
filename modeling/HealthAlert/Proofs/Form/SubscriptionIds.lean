import HealthAlert.Proofs.Alert.Naming
import HealthAlert.Proofs.Form.Trimming
import Mathlib.Data.List.Forall2

/-!
# Which texts are subscription IDs

The check of a subscription ID takes digits off the front, group by group, and asks for a hyphen
between two groups. `IsHexGroups` says of a whole text what it is made of, without an order of
looking at it.

* `isGrouped_iff`: the check finds the groups exactly when the text is made of them.
* `isSubscriptionId_iff`: five groups of the right sizes are 36 ASCII characters.
* **`checkSubscriptionId_eq_none_iff`**: exactly the subscription IDs pass, with or without white
  space around them.
-/

namespace HealthAlert

/-! ## Digits -/

namespace Text

theorem isHexDigit_iff {c : Char} :
    isHexDigit c = true ↔ (48 ≤ c.toNat ∧ c.toNat ≤ 57 ∨ 97 ≤ c.toNat ∧ c.toNat ≤ 102) ∨
      65 ≤ c.toNat ∧ c.toNat ≤ 70 := by
  have hle {a b : Char} : a ≤ b ↔ a.toNat ≤ b.toNat := by
    rw [Char.le_def, UInt32.le_iff_toNat_le]
    rfl
  simp only [isHexDigit, Bool.or_eq_true, Bool.and_eq_true, decide_eq_true_eq, Ascii.isDigit_iff,
    hle]
  exact Iff.rfl

theorem lt_of_isHexDigit {c : Char} (h : isHexDigit c = true) : c.toNat < 128 := by
  rw [isHexDigit_iff] at h
  omega

theorem ne_quote_of_isHexDigit {c : Char} (h : isHexDigit c = true) : c ≠ '\'' := by
  rintro rfl
  exact absurd h (by decide)

end Text

namespace Form

/-! ## Groups of digits -/

/-- So many hexadecimal digits, each in either case. -/
def IsHexGroup (size : Nat) (cs : List Char) : Prop :=
  cs.length = size ∧ ∀ c ∈ cs, Text.isHexDigit c = true

/-- Groups of hexadecimal digits of the given sizes, joined by hyphens. -/
def IsHexGroups (sizes : List Nat) (cs : List Char) : Prop :=
  ∃ groups, List.Forall₂ IsHexGroup sizes groups ∧ cs = ['-'].intercalate groups

theorem isHexGroups_single {size : Nat} {cs : List Char} :
    IsHexGroups [size] cs ↔ IsHexGroup size cs := by
  constructor
  · rintro ⟨groups, hgroups, rfl⟩
    cases hgroups with
    | cons hgroup hrest =>
      cases hrest
      rwa [List.intercalate_singleton]
  · intro h
    exact ⟨[cs], .cons h .nil, by rw [List.intercalate_singleton]⟩

theorem isHexGroups_cons {size : Nat} {sizes : List Nat} (hsizes : sizes ≠ []) {cs : List Char} :
    IsHexGroups (size :: sizes) cs ↔
      ∃ group rest, cs = group ++ '-' :: rest ∧ IsHexGroup size group ∧ IsHexGroups sizes rest := by
  obtain ⟨next, others, rfl⟩ := List.exists_cons_of_ne_nil hsizes
  constructor
  · rintro ⟨groups, hgroups, rfl⟩
    cases hgroups with
    | cons hgroup hrest =>
      cases hrest with
      | cons hnext hothers =>
        refine ⟨_, _, ?_, hgroup, _, .cons hnext hothers, rfl⟩
        rw [List.intercalate_cons_cons, List.append_assoc, List.singleton_append]
  · rintro ⟨group, rest, rfl, hgroup, groups, hgroups, rfl⟩
    cases hgroups with
    | cons hnext hothers =>
      refine ⟨_, .cons hgroup (.cons hnext hothers), ?_⟩
      rw [List.intercalate_cons_cons, List.append_assoc, List.singleton_append]

theorem isHexGroup_iff {size : Nat} {cs : List Char} :
    IsHexGroup size cs ↔ (cs.length == size && cs.all Text.isHexDigit) = true := by
  simp [IsHexGroup]

/-- **The check finds the groups exactly when the text is made of them.** -/
theorem isGrouped_iff {sizes : List Nat} {cs : List Char} :
    isGrouped sizes cs = true ↔ IsHexGroups sizes cs := by
  induction sizes generalizing cs with
  | nil =>
    constructor
    · intro h
      exact ⟨[], .nil, List.isEmpty_iff.mp h⟩
    · rintro ⟨groups, hgroups, rfl⟩
      cases hgroups
      rfl
  | cons size sizes ih =>
    cases sizes with
    | nil => rw [isHexGroups_single, isHexGroup_iff, isGrouped]
    | cons next others =>
      rw [isHexGroups_cons (List.cons_ne_nil _ _), isGrouped, Bool.and_eq_true, ← isHexGroup_iff]
      · constructor
        · rintro ⟨hgroup, hrest⟩
          split at hrest
          · rename_i rest hdrop
            refine ⟨cs.take size, rest, ?_, hgroup, ih.mp hrest⟩
            rw [← hdrop, List.take_append_drop]
          · exact absurd hrest (by simp)
        · rintro ⟨group, rest, rfl, hgroup, hrest⟩
          rw [List.take_left' hgroup.1, List.drop_left' hgroup.1]
          exact ⟨hgroup, ih.mpr hrest⟩
      · simp

/-! ## Subscription IDs -/

/-- A text of 36 ASCII characters: hexadecimal digits of either case in groups of 8, 4, 4, 4 and 12,
joined by hyphens. -/
structure IsSubscriptionId (cs : List Char) : Prop where
  length : cs.length = 36
  ascii : ∀ c ∈ cs, c.toNat < 128
  groups : IsHexGroups [8, 4, 4, 4, 12] cs

/-- What holds of the hyphen and of all digits holds of every character. -/
theorem IsHexGroups.forall_mem {p : Char → Prop} (hhyphen : p '-')
    (hdigit : ∀ c, Text.isHexDigit c = true → p c) {sizes : List Nat} {cs : List Char}
    (h : IsHexGroups sizes cs) : ∀ c ∈ cs, p c := by
  induction sizes generalizing cs with
  | nil =>
    obtain ⟨groups, hgroups, rfl⟩ := h
    cases hgroups
    exact List.forall_mem_nil p
  | cons size sizes ih =>
    by_cases hsizes : sizes = []
    · subst hsizes
      exact fun c hc => hdigit c ((isHexGroups_single.mp h).2 c hc)
    · obtain ⟨group, rest, rfl, hgroup, hrest⟩ := (isHexGroups_cons hsizes).mp h
      refine List.forall_mem_append.mpr ⟨fun c hc => hdigit c (hgroup.2 c hc), ?_⟩
      exact List.forall_mem_cons.mpr ⟨hhyphen, ih hrest⟩

/-- A text of groups is as long as they are together, with one hyphen before each but the first. -/
theorem IsHexGroups.length {size : Nat} {sizes : List Nat} {cs : List Char}
    (h : IsHexGroups (size :: sizes) cs) :
    cs.length = size + sizes.foldr (fun next rest => 1 + next + rest) 0 := by
  induction sizes generalizing size cs with
  | nil => exact (isHexGroups_single.mp h).1
  | cons next others ih =>
    obtain ⟨group, rest, rfl, hgroup, hrest⟩ := (isHexGroups_cons (List.cons_ne_nil _ _)).mp h
    rw [List.length_append, List.length_cons, hgroup.1, ih hrest, List.foldr_cons]
    omega

theorem isSubscriptionId_iff {cs : List Char} :
    IsSubscriptionId cs ↔ IsHexGroups subscriptionGroups cs := by
  constructor
  · exact fun h => h.groups
  · intro h
    exact ⟨h.length, h.forall_mem (by decide) fun _ => Text.lt_of_isHexDigit, h⟩

/-! ## The check -/

/-- Groups that are joined hold a hyphen, so that its absence need not be looked for. -/
theorem hyphen_mem_of_isSubscriptionId {cs : List Char} (h : IsSubscriptionId cs) : '-' ∈ cs := by
  obtain ⟨group, rest, rfl, -, -⟩ := (isHexGroups_cons (by simp)).mp h.groups
  exact List.mem_append_right _ List.mem_cons_self

/-- **Exactly the subscription IDs pass.** A value has no problem as a subscription ID when it is a
text that is one without the white space around it. -/
theorem checkSubscriptionId_eq_none_iff {v : Value} :
    checkSubscriptionId v = none ↔
      ∃ s, v.text? = some s ∧ IsSubscriptionId (Text.trimBlanks s.toList) := by
  have hne {cs : List Char} (h : IsSubscriptionId cs) : cs ≠ [] :=
    List.ne_nil_of_mem (hyphen_mem_of_isSubscriptionId h)
  have hfilled : checkSubscriptionId v = none ↔
      ∃ cs, Entry.of v = .filled cs ∧ IsSubscriptionId cs := by
    unfold checkSubscriptionId
    cases Entry.of v with
    | blank => simp
    | other => simp
    | filled cs =>
      by_cases hid : IsSubscriptionId cs
      · have hhyphen := hyphen_mem_of_isSubscriptionId hid
        have hgrouped := isGrouped_iff.mpr (isSubscriptionId_iff.mp hid)
        simp [hid, hhyphen, hgrouped]
      · have hgrouped : isGrouped subscriptionGroups cs ≠ true :=
          fun h => hid (isSubscriptionId_iff.mpr (isGrouped_iff.mp h))
        by_cases hhyphen : '-' ∈ cs <;> simp [hid, hhyphen, hgrouped]
  simp only [hfilled, Entry.of_eq_filled_iff]
  constructor
  · rintro ⟨cs, ⟨s, hs, rfl, -⟩, hid⟩
    exact ⟨s, hs, hid⟩
  · rintro ⟨s, hs, hid⟩
    exact ⟨_, ⟨s, hs, rfl, hne hid⟩, hid⟩

end Form

end HealthAlert
