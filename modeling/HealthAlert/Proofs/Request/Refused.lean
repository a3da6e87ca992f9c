import HealthAlert.Json.Writer
import HealthAlert.Proofs.Request.Accepted

/-!
# What the issues of a refused request show

Each issue shows the value that is refused. That is the payload, a part of it or a text made from
one, so that a number which cannot be shown is only found among the issues when it stands in the
payload (`shows_readWith`).

How a value that is no record is refused depends on who reads; what is accepted does not.

* `Checked.Shows`: what all issues of a result show, and how it goes through the operations.
* **`shows_readWith`**: the issues of a payload without infinite numbers show none.
* **`readWith_accepted_of_accepted`**: both rules for records accept the same requests.
-/

namespace HealthAlert

/-! ## Values that can be shown -/

namespace Value

/-- The value holds no number that is infinite or not a number. -/
def Finite (v : Value) : Prop :=
  Json.hasNonFinite v = false

@[simp] theorem finite_null : Value.null.Finite := rfl

@[simp] theorem finite_int (n : Int) : (Value.int n).Finite := rfl

@[simp] theorem finite_text (s : String) : (Value.text s).Finite := rfl

theorem anyNonFinite_eq_false_iff {xs : List Value} :
    Json.anyNonFinite xs = false ↔ ∀ x ∈ xs, x.Finite := by
  induction xs with
  | nil => simp [Json.anyNonFinite]
  | cons x xs ih =>
    rw [Json.anyNonFinite, Bool.or_eq_false_iff, ih, List.forall_mem_cons]
    rfl

theorem anyEntryNonFinite_eq_false_iff {es : List (String × Value)} :
    Json.anyEntryNonFinite es = false ↔ ∀ e ∈ es, e.2.Finite := by
  induction es with
  | nil => simp [Json.anyEntryNonFinite]
  | cons e es ih =>
    rw [Json.anyEntryNonFinite, Bool.or_eq_false_iff, ih, List.forall_mem_cons]
    rfl

theorem finite_list_iff {xs : List Value} : (Value.list xs).Finite ↔ ∀ x ∈ xs, x.Finite :=
  anyNonFinite_eq_false_iff

theorem finite_tuple_iff {xs : List Value} : (Value.tuple xs).Finite ↔ ∀ x ∈ xs, x.Finite :=
  anyNonFinite_eq_false_iff

theorem finite_record_iff {es : List (String × Value)} :
    (Value.record es).Finite ↔ ∀ e ∈ es, e.2.Finite :=
  anyEntryNonFinite_eq_false_iff

end Value

/-! ## Issues of results -/

namespace Checked

variable {α β : Type} {p : Value → Prop}

/-- All issues show values with a property. -/
def Shows (p : Value → Prop) : Checked α → Prop
  | .accepted _ => True
  | .refused issues => ∀ i ∈ issues, p i.value

theorem shows_refuse (r : Refusal) {v : Value} (h : p v) : (refuse r v : Checked α).Shows p := by
  simpa [refuse, Shows] using h

theorem Shows.map {x : Checked α} (h : x.Shows p) (f : α → β) : (f <$> x).Shows p := by
  cases x with
  | accepted a => trivial
  | refused issues => exact h

theorem Shows.seq {f : Checked (α → β)} {x : Checked α} (hf : f.Shows p) (hx : x.Shows p) :
    (f <*> x).Shows p := by
  cases f with
  | accepted g =>
    cases x with
    | accepted a => trivial
    | refused issues => exact hx
  | refused issues =>
    cases x with
    | accepted a => exact hf
    | refused more =>
      intro i hi
      exact (List.mem_append.mp hi).elim (hf i) (hx i)

theorem Shows.under {x : Checked α} (h : x.Shows p) (step : Place) : (under step x).Shows p := by
  cases x with
  | accepted a => trivial
  | refused issues =>
    intro i hi
    obtain ⟨inner, hinner, rfl⟩ := List.mem_map.mp hi
    exact h inner hinner

theorem Shows.guarded {x : Checked α} (h : x.Shows p) {v : Value} (hv : p v)
    (problem : α → Option String) : (guarded x v problem).Shows p := by
  cases x with
  | refused issues => exact h
  | accepted a =>
    unfold Checked.guarded
    dsimp only
    cases problem a with
    | none => trivial
    | some message => exact shows_refuse _ hv

theorem shows_all {check : Value → Checked α} {vs : List Value}
    (h : ∀ v ∈ vs, (check v).Shows p) (first : Nat) : (all check first vs).Shows p := by
  induction vs generalizing first with
  | nil => trivial
  | cons v vs ih =>
    rw [List.forall_mem_cons] at h
    exact ((h.1.under _).map _).seq (ih h.2 (first + 1))

/-- Readers that accept what others accept do so for lists, too. -/
theorem all_accepted_of_accepted {check check' : Value → Checked α}
    (h : ∀ v a, check v = .accepted a → check' v = .accepted a) {vs : List Value} {first : Nat}
    {as : List α} (ha : all check first vs = .accepted as) :
    all check' first vs = .accepted as := by
  induction vs generalizing first as with
  | nil => exact ha
  | cons v vs ih =>
    obtain ⟨a, rest, hv, hvs, rfl⟩ := all_cons_eq_accepted_iff.mp ha
    exact all_cons_eq_accepted_iff.mpr ⟨a, rest, h v a hv, ih hvs, rfl⟩

end Checked

namespace Request

open Validation (text nullableText)

/-! ## What the readers show -/

section Parts

variable {v : Value} {p : Value → Prop}

theorem shows_text (hv : p v) : (text v).Shows p := by
  unfold text
  split
  · trivial
  · trivial
  · exact Checked.shows_refuse _ hv

theorem shows_nullableText (hv : p v) : (nullableText v).Shows p := by
  unfold nullableText
  split
  · trivial
  · exact (shows_text hv).map _

theorem shows_actionMode (hv : p v) : (actionMode v).Shows p := by
  unfold actionMode
  split
  · trivial
  · exact Checked.shows_refuse _ hv

theorem shows_boundedText (limit : Nat) (hv : p v) : (boundedText limit v).Shows p := by
  have htext := shows_text hv
  unfold boundedText
  split
  · rename_i htext'
    exact htext' ▸ htext
  · split
    · trivial
    · exact Checked.shows_refuse _ hv

/-- A text is trimmed before it is judged, and everything else is shown as it is. -/
theorem shows_trimmedText (hv : v.Finite) : (trimmedText v).Shows Value.Finite := by
  refine shows_text ?_
  unfold trimmedValue
  split
  · exact Value.finite_text _
  · exact hv

theorem shows_checkedText (check : Value → Option Form.Problem) (hv : v.Finite) :
    (checkedText check v).Shows Value.Finite :=
  (shows_trimmedText hv).guarded hv _

/-! ### Lists -/

theorem finite_of_mem_elements? {items : List Value} (hv : v.Finite)
    (h : elements? v = some items) : ∀ x ∈ items, x.Finite := by
  unfold elements? at h
  split at h
  · simp [← Option.some.inj h]
  · simp [← Option.some.inj h]
  · simp [← Option.some.inj h]
  · unfold Value.items? at h
    split at h
    · rw [← Option.some.inj h]
      exact Value.finite_list_iff.mp hv
    · rw [← Option.some.inj h]
      exact Value.finite_tuple_iff.mp hv
    · exact absurd h (by simp)

theorem shows_listOf {α : Type} {check : Value → Checked α}
    (h : ∀ {x : Value}, x.Finite → (check x).Shows Value.Finite) (hv : v.Finite) :
    (listOf check v).Shows Value.Finite := by
  unfold listOf
  split
  · exact Checked.shows_all (fun x hx => h (finite_of_mem_elements? hv ‹_› x hx)) 0
  · exact Checked.shows_refuse _ hv

theorem shows_selection (what : String) (hv : v.Finite) :
    (selection what v).Shows Value.Finite :=
  ((shows_listOf shows_text hv).map _).guarded hv _

/-! ### Fields -/

variable {es : List (String × Value)} {f : FieldName}

variable {α : Type} {check : Value → Checked α}

theorem shows_optional (f : FieldName) (default : α) (hes : ∀ e ∈ es, e.2.Finite)
    (h : ∀ {x : Value}, x.Finite → (check x).Shows Value.Finite) :
    (optional es f default check).Shows Value.Finite := by
  unfold optional
  split
  · trivial
  · exact (h (hes _ (FieldName.mem_of_find? ‹_›))).under _

/-- For a missing field the record is shown in which it is missing. -/
theorem shows_required (f : FieldName) (hes : ∀ e ∈ es, e.2.Finite)
    (h : ∀ {x : Value}, x.Finite → (check x).Shows Value.Finite) :
    (required es f check).Shows Value.Finite := by
  unfold required
  split
  · exact (Checked.shows_refuse _ (Value.finite_record_iff.mpr hes)).under _
  · exact (h (hes _ (FieldName.mem_of_find? ‹_›))).under _

/-! ### Tags -/

theorem shows_encodable (lone : Text.StandIns) (hv : p v) (h : (check v).Shows p) :
    (encodable lone check v).Shows p := by
  unfold encodable
  split
  · split
    · exact Checked.shows_refuse _ hv
    · exact h
  · exact h

theorem shows_tagRow (rule : RecordRule) (lone : Text.StandIns) (hv : v.Finite) :
    (tagRow rule lone v).Shows Value.Finite := by
  have hbounded (limit : Nat) {x : Value} (hx : x.Finite) :
      (encodable lone (boundedText limit) x).Shows Value.Finite :=
    shows_encodable lone hx (shows_boundedText limit hx)
  unfold tagRow
  split
  · have hes := Value.finite_record_iff.mp hv
    exact ((shows_optional _ _ hes (hbounded _)).map _).seq (shows_optional _ _ hes (hbounded _))
  · exact Checked.shows_refuse _ hv

theorem finite_tagRows (hv : v.Finite) : (tagRows v).Finite := by
  unfold tagRows
  split
  · rw [Value.finite_list_iff]
    intro row hrow
    obtain ⟨e, he, rfl⟩ := List.mem_map.mp hrow
    rw [Value.finite_record_iff]
    simpa using Value.finite_record_iff.mp hv e he
  · exact hv

end Parts

/-! ## The request -/

section Whole

variable {rule rule' : RecordRule} {payload : Value} {lone : Text.StandIns}

theorem shows_readFields {es : List (String × Value)} (hes : ∀ e ∈ es, e.2.Finite) :
    (readFields rule es lone).Shows Value.Finite := by
  have htags {x : Value} (hx : x.Finite) :
      (listOf (tagRow rule lone) (tagRows x)).Shows Value.Finite :=
    shows_listOf (shows_tagRow rule lone) (finite_tagRows hx)
  unfold readFields
  refine Checked.Shows.seq ?_ (shows_optional _ _ hes htags)
  -- The texts of the action group, from the last to the first.
  iterate 3 refine Checked.Shows.seq ?_ (shows_optional _ _ hes shows_trimmedText)
  refine Checked.Shows.seq ?_ (shows_optional _ _ hes shows_nullableText)
  iterate 2 refine Checked.Shows.seq ?_ (shows_optional _ _ hes shows_trimmedText)
  refine Checked.Shows.seq ?_ (shows_optional _ _ hes shows_actionMode)
  iterate 4 refine Checked.Shows.seq ?_ (shows_optional _ _ hes (shows_selection _))
  refine Checked.Shows.seq ?_ (shows_required _ hes (shows_checkedText _))
  exact (shows_required _ hes (shows_checkedText _)).map _

/-- **The issues of a payload that can be shown can be shown.** -/
theorem shows_readWith (h : payload.Finite) : (readWith rule payload lone).Shows Value.Finite := by
  unfold readWith
  split
  · exact (shows_readFields (Value.finite_record_iff.mp h)).guarded h _
  · exact Checked.shows_refuse _ h

/-- A row is accepted by both rules alike: they differ where there is no record. -/
theorem tagRow_accepted_of_accepted (v : Value) (row : Value × Value)
    (h : tagRow rule lone v = .accepted row) : tagRow rule' lone v = .accepted row := by
  cases v with
  | record es => exact h
  | _ => exact absurd h (by simp [tagRow, Checked.refuse])

/-- **What one rule for records accepts, the other accepts as the same request.** -/
theorem readWith_accepted_of_accepted {input : AlertInput}
    (h : readWith rule payload lone = .accepted input) :
    readWith rule' payload lone = .accepted input := by
  obtain ⟨es, hes, hfields, hgroup⟩ := readWith_eq_accepted_iff.mp h
  have htags : optional es ⟨"tags", "tags"⟩ [] (fun v => listOf (tagRow rule' lone) (tagRows v)) =
      .accepted input.tags := by
    rcases optional_eq_accepted_iff.mp hfields.tags with hdefault | ⟨key, v, hfind, hlist⟩
    · exact optional_eq_accepted_iff.mpr (Or.inl hdefault)
    · refine optional_eq_accepted_iff.mpr (Or.inr ⟨key, v, hfind, ?_⟩)
      obtain ⟨items, helements, hall⟩ := listOf_eq_accepted_iff.mp hlist
      exact listOf_eq_accepted_iff.mpr ⟨items, helements,
        Checked.all_accepted_of_accepted tagRow_accepted_of_accepted hall⟩
  exact readWith_eq_accepted_iff.mpr ⟨es, hes, { hfields with tags := htags }, hgroup⟩

/-- What one rule refuses, the other refuses as well, if in its own words. -/
theorem exists_refused_of_refused {issues : List Issue}
    (h : readWith rule payload lone = .refused issues) :
    ∃ more, readWith rule' payload lone = .refused more := by
  cases hwith : readWith rule' payload lone with
  | refused more => exact ⟨more, rfl⟩
  | accepted input =>
    have haccepted : readWith rule payload lone = .accepted input :=
      readWith_accepted_of_accepted hwith
    exact absurd (h.symm.trans haccepted) (by simp)

end Whole

end Request

end HealthAlert
