import HealthAlert.Proofs.Failure.Leaking

/-!
# What redaction leaves

`Reaches s v` says that the value holds the text at some place, under keys and inside lists to any
depth. Redaction goes into every field of a record, and into those elements of a list that are
records: a text or a list that is an element of a list is `Overlooked`, with all that it holds.

* `redactFields_eq_map`, `redactRecords_eq_map`: a step of redaction, on fields and on elements.
* **`leaks_reached_iff`**: the leaks that an answer shows in production are exactly the overlooked
  ones.
* `leak_shown_inListed`: a path of the server that an answer shows.
-/

namespace HealthAlert.Redaction

variable {s : String}

/-! ## Places of a value -/

/-- The value holds the text, under keys and inside lists. -/
inductive Reaches (s : String) : Value → Prop
  | text : Reaches s (.text s)
  | field {k v es} : (k, v) ∈ es → Reaches s v → Reaches s (.record es)
  | element {v vs} : v ∈ vs → Reaches s v → Reaches s (.list vs)

/-- The value holds the text in an element of a list that is no record. -/
inductive Overlooked (s : String) : Value → Prop
  | field {k v es} : (k, v) ∈ es → Overlooked s v → Overlooked s (.record es)
  | inside {es vs} : .record es ∈ vs → Overlooked s (.record es) → Overlooked s (.list vs)
  | element {v vs} : v ∈ vs → (∀ es, v ≠ .record es) → Reaches s v → Overlooked s (.list vs)

/-! ## Steps of redaction -/

/-- What becomes of an element of a list. -/
def redactElement : Value → Value
  | .record es => redact (.record es)
  | v => v

theorem redactElement_record (es : List (String × Value)) :
    redactElement (.record es) = redact (.record es) := rfl

theorem redactElement_of_ne {v : Value} (h : ∀ es, v ≠ .record es) : redactElement v = v := by
  cases v with
  | record es => exact absurd rfl (h es)
  | _ => rfl

theorem redactFields_eq_map (es : List (String × Value)) :
    redactFields es = es.map fun e => (e.1, redact e.2) := by
  induction es with
  | nil => simp only [redactFields, List.map_nil]
  | cons e es ih => simp only [redactFields, ih, List.map_cons]

theorem redactRecords_eq_map (vs : List Value) : redactRecords vs = vs.map redactElement := by
  induction vs with
  | nil => simp only [redactRecords, List.map_nil]
  | cons v vs ih =>
    cases v <;> simp only [redactRecords, ih, List.map_cons, redactElement, redact]

theorem redact_record (es : List (String × Value)) :
    redact (.record es) = .record (es.map fun e => (e.1, redact e.2)) := by
  rw [redact, redactFields_eq_map]

theorem redact_list (vs : List Value) : redact (.list vs) = .list (vs.map redactElement) := by
  rw [redact, redactRecords_eq_map]

/-! ## Shapes

Redaction gives a value of the kind that it takes. -/

/-- A text that redaction gives does not leak: it is the placeholder, or no leak was found in it. -/
theorem not_leaky_of_redact_eq_text {v : Value} (h : redact v = .text s) : ¬ Leaky s := by
  cases v with
  | text t =>
    rw [redact, redactText] at h
    obtain rfl := Value.text.inj h
    split
    · exact not_leaky_placeholder
    · rename_i hclean
      rwa [leaks_iff] at hclean
  | _ => simp [redact] at h

theorem eq_record_of_redact {v : Value} {fields : List (String × Value)}
    (h : redact v = .record fields) :
    ∃ es, v = .record es ∧ fields = es.map fun e => (e.1, redact e.2) := by
  cases v with
  | record es =>
    rw [redact_record] at h
    exact ⟨es, rfl, (Value.record.inj h).symm⟩
  | _ => simp [redact] at h

theorem eq_list_of_redact {v : Value} {elements : List Value} (h : redact v = .list elements) :
    ∃ vs, v = .list vs ∧ elements = vs.map redactElement := by
  cases v with
  | list vs =>
    rw [redact_list] at h
    exact ⟨vs, rfl, (Value.list.inj h).symm⟩
  | _ => simp [redact] at h

/-! ## Leaks -/

/-- A leak that redaction leaves was overlooked. -/
theorem overlooked_of_reaches {v : Value} (hreach : Reaches s (redact v)) (hleaky : Leaky s) :
    Overlooked s v := by
  -- Along the way to the text in the result, the way in the value is the same until it enters an
  -- element that redaction leaves.
  generalize hresult : redact v = result at hreach
  induction hreach generalizing v with
  | text => exact absurd hleaky (not_leaky_of_redact_eq_text hresult)
  | field hentry _ ih =>
    obtain ⟨es, rfl, rfl⟩ := eq_record_of_redact hresult
    obtain ⟨e, he, hpair⟩ := List.mem_map.mp hentry
    obtain ⟨rfl, hvalue⟩ := Prod.mk.inj hpair
    exact .field he (ih hvalue)
  | element helement hreach ih =>
    obtain ⟨vs, rfl, rfl⟩ := eq_list_of_redact hresult
    obtain ⟨x, hx, rfl⟩ := List.mem_map.mp helement
    by_cases hrecord : ∃ es, x = .record es
    · obtain ⟨es, rfl⟩ := hrecord
      exact .inside hx (ih (redactElement_record es).symm)
    · have hne : ∀ es, x ≠ .record es := fun es h => hrecord ⟨es, h⟩
      rw [redactElement_of_ne hne] at hreach
      exact .element hx hne hreach

/-- What is overlooked stays. -/
theorem reaches_of_overlooked {v : Value} (h : Overlooked s v) : Reaches s (redact v) := by
  induction h with
  | field hentry _ ih =>
    rw [redact_record]
    exact .field (List.mem_map.mpr ⟨_, hentry, rfl⟩) ih
  | inside hrecord _ ih =>
    rw [redact_list]
    exact .element (List.mem_map.mpr ⟨_, hrecord, rfl⟩) ih
  | element helement hne hreach =>
    rw [redact_list]
    exact .element (List.mem_map.mpr ⟨_, helement, redactElement_of_ne hne⟩) hreach

/-- **The leaks that an answer shows in production are exactly the overlooked ones**: a leaking
text is reached in the sanitized details exactly when the details hold it in an element of a list
that is no record. -/
theorem leaks_reached_iff (details : List (String × Value)) (s : String) :
    (Reaches s (sanitize true (.record details)) ∧ Leaky s) ↔
      Overlooked s (.record details) ∧ Leaky s :=
  and_congr_left fun hleaky =>
    ⟨fun hreach => overlooked_of_reaches hreach hleaky, reaches_of_overlooked⟩

/-- Details that list the path of a file of the server keep it. -/
theorem leak_shown_inListed :
    Reaches "/srv/app/main.py"
      (sanitize true (.record [("paths", .list [.text "/srv/app/main.py"])])) ∧
    Leaky "/srv/app/main.py" := by
  refine ⟨reaches_of_overlooked ?_, leaks_iff.mp (by decide)⟩
  exact .field (List.mem_singleton.mpr rfl)
    (.element (List.mem_singleton.mpr rfl) (fun _ h => nomatch h) .text)

end HealthAlert.Redaction
