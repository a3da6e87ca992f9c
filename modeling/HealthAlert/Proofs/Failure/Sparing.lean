import HealthAlert.Proofs.Failure.Redacting
import HealthAlert.Proofs.Value.Places

/-!
# What redaction leaves as it is

Redaction puts a placeholder in the place of texts that leak, and touches nothing else. `MayBecome`
says what may come of the value at a place: a record keeps its keys, a list its length, a text that
does not leak and every other value stay.

* `child?_redact_field`, `child?_redact_element`: what stands behind one step of a redacted value.
* `at?_redact`: what stands at a place, by induction on its steps; `at?_redact_of_fields`: at a
  place that no list is on the way to, everything is redacted.
* `redact_redact`: redacting again changes nothing, since the placeholder does not leak.
* **`sanitize_spares`**: all places of sanitized details against those of the details.
-/

namespace HealthAlert.Redaction

/-- What redaction may make of a value: only a text that leaks is replaced. What a record or a list
holds is judged where it stands. -/
def MayBecome : Value → Value → Prop
  | .text s, w => w = .text s ∨ (Leaky s ∧ w = .text "[REDACTED]")
  | .list vs, w => ∃ elements, w = .list elements ∧ elements.length = vs.length
  | .record es, w => ∃ fields, w = .record fields ∧ Keyed.keys fields = Keyed.keys es
  | v, w => w = v

theorem MayBecome.refl (v : Value) : MayBecome v v := by
  cases v with
  | text s => exact Or.inl rfl
  | list vs => exact ⟨vs, rfl, rfl⟩
  | record es => exact ⟨es, rfl, rfl⟩
  | _ => rfl

theorem redact_text_of_leaky {s : String} (h : Leaky s) :
    redact (.text s) = .text "[REDACTED]" := by
  rw [redact, redactText, if_pos (leaks_iff.mpr h)]
  rfl

theorem redact_text_of_not_leaky {s : String} (h : ¬ Leaky s) : redact (.text s) = .text s := by
  rw [redact, redactText, if_neg (mt leaks_iff.mp h)]

theorem mayBecome_redact (v : Value) : MayBecome v (redact v) := by
  cases v with
  | text s =>
    by_cases hleaky : Leaky s
    · exact Or.inr ⟨hleaky, redact_text_of_leaky hleaky⟩
    · exact Or.inl (redact_text_of_not_leaky hleaky)
  | list vs => exact ⟨_, redact_list vs, List.length_map _⟩
  | record es => exact ⟨_, redact_record es, Keyed.keys_map es fun _ => redact⟩
  | _ => rfl

/-! ## Places -/

/-- The value of a field is redacted. -/
theorem child?_redact_field (v : Value) (key : String) :
    (redact v).child? (.field key) = (v.child? (.field key)).map redact := by
  cases v with
  | list vs =>
    rw [redact_list]
    rfl
  | record es =>
    rw [redact_record]
    exact Keyed.get?_map es (fun _ => redact) key
  | _ => rfl

/-- An element of a list is redacted as an element. -/
theorem child?_redact_element (v : Value) (i : Nat) :
    (redact v).child? (.element i) = (v.child? (.element i)).map redactElement := by
  cases v with
  | list vs =>
    rw [redact_list]
    exact List.getElem?_map
  | record es =>
    rw [redact_record]
    rfl
  | _ => rfl

/-- **At every place stands what may come of the value there**, and no place is added or lost. -/
theorem at?_redact (v : Value) (p : Value.Place) :
    Option.Rel MayBecome (v.at? p) ((redact v).at? p) := by
  induction p generalizing v with
  | nil => exact .some (mayBecome_redact v)
  | cons step p ih =>
    -- What is no record stays as an element, with all that it holds.
    have hstays : ∀ x : Value, Option.Rel MayBecome (x.at? p) (x.at? p) := fun x => by
      cases x.at? p with
      | none => exact .none
      | some y => exact .some (.refl y)
    rw [Value.at?, Value.at?]
    cases step with
    | field key =>
      rw [child?_redact_field]
      cases v.child? (.field key) with
      | none => exact .none
      | some x => exact ih x
    | element i =>
      rw [child?_redact_element]
      cases v.child? (.element i) with
      | none => exact .none
      | some x =>
        cases x with
        | record es => exact ih (.record es)
        | _ => exact hstays _

/-- The place is reached through fields alone. -/
def ThroughFields (p : Value.Place) : Prop :=
  ∀ step ∈ p, ∃ key, step = .field key

theorem at?_redact_of_fields {p : Value.Place} (hp : ThroughFields p) (v : Value) :
    (redact v).at? p = (v.at? p).map redact := by
  induction p generalizing v with
  | nil => rfl
  | cons step p ih =>
    obtain ⟨⟨key, rfl⟩, hrest⟩ := List.forall_mem_cons.mp hp
    rw [Value.at?, Value.at?, child?_redact_field]
    cases v.child? (.field key) with
    | none => rfl
    | some x => exact ih hrest x

/-! ## Redacting again -/

theorem redactElement_redactElement {v : Value} (h : redact (redact v) = redact v) :
    redactElement (redactElement v) = redactElement v := by
  cases v with
  | record es =>
    rw [redactElement_record, redact_record, redactElement_record, ← redact_record, h]
  | _ => rfl

theorem redact_redact (v : Value) : redact (redact v) = redact v := by
  induction v using Value.inductionOn with
  | atom v hv =>
    cases v with
    | text s =>
      by_cases hleaky : Leaky s
      · rw [redact_text_of_leaky hleaky]
        exact redact_text_of_not_leaky not_leaky_placeholder
      · rw [redact_text_of_not_leaky hleaky, redact_text_of_not_leaky hleaky]
    | list vs => exact nomatch hv
    | record es => exact nomatch hv
    | _ => rfl
  | list vs ih =>
    rw [redact_list, redact_list, List.map_map]
    exact congrArg Value.list
      (List.map_congr_left fun v hv => redactElement_redactElement (ih v hv))
  | record es ih =>
    rw [redact_record, redact_record, List.map_map]
    exact congrArg Value.record
      (List.map_congr_left fun e he => congrArg (Prod.mk e.1) (ih e he))

/-! ## Sanitized details -/

/-- **Sanitizing alters no more than it must.** At every place of the sanitized details a record has
the keys and a list the length that it had, a text is as it was or leaked and is the placeholder,
and any other value is as it was; a leak that is reached through fields alone is replaced; and to
sanitize twice is to sanitize once. -/
theorem sanitize_spares (details : List (String × Value)) :
    (∀ p : Value.Place, Option.Rel MayBecome ((Value.record details).at? p)
      ((sanitize true (.record details)).at? p)) ∧
    (∀ (p : Value.Place) (s : String), ThroughFields p →
      (Value.record details).at? p = some (.text s) → Leaky s →
      (sanitize true (.record details)).at? p = some (.text "[REDACTED]")) ∧
    sanitize true (sanitize true (.record details)) = sanitize true (.record details) := by
  refine ⟨at?_redact (.record details), fun p s hp hs hleaky => ?_,
    redact_redact (.record details)⟩
  refine (at?_redact_of_fields hp (.record details)).trans ?_
  rw [hs, Option.map_some, redact_text_of_leaky hleaky]

/-- Details that show a path of the server under two keys, and once in a list. -/
def tracedDetails : List (String × Value) :=
  [("cause", .record [("file", .text "at C:\\srv/app.PY")]),
    ("seen", .list [.text "/srv/app.py", .record [("order", .int 2)]])]

theorem sanitize_spares_tracedDetails :
    (sanitize true (.record tracedDetails)).at? [.field "cause", .field "file"] =
      some (.text "[REDACTED]") ∧
    MayBecome (.list [.text "/srv/app.py", .record [("order", .int 2)]])
      (.list [.text "/srv/app.py", .record [("order", .int 2)]]) := by
  obtain ⟨hplaces, hleaks, -⟩ := sanitize_spares tracedDetails
  have hleaky : Leaky "at C:\\srv/app.PY" := leaks_iff.mp (by decide)
  have hfields : ThroughFields [.field "cause", .field "file"] := by
    simp [ThroughFields]
  refine ⟨hleaks _ _ hfields rfl hleaky, ?_⟩
  have hseen := hplaces [.field "seen"]
  cases hseen with
  | some h => exact h

end HealthAlert.Redaction
