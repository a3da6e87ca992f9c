import HealthAlert.Proofs.Form.Trimming
import HealthAlert.Proofs.Request.Refused
import HealthAlert.Proofs.Request.Rendering
import HealthAlert.Proofs.Request.Selections

/-!
# Requests that are submitted again

A request is normalised when it is read: texts are trimmed, placeholders dropped, tags made rows.
What was read can be written down as a payload again (`AlertInput.submission`), and reading that
changes nothing more.

* `Settles`: a reader reads what it accepted as the same, and how this goes through lists, guards
  and fields.
* `selection_texts`: the selections, whose defaults would not be accepted.
* **`accepted_again_iff`**: an accepted request is accepted again, as the same request, exactly when
  its payload gave every selection; and then its template is the same.
-/

namespace HealthAlert

/-! ## Payloads from requests -/

namespace AlertInput

/-- A row of tags as a record. -/
def rowValue (row : Value × Value) : Value :=
  .record [("key", row.1), ("value", row.2)]

/-- A text, or null for none. -/
def nullableValue : Option String → Value
  | none => .null
  | some s => .text s

/-- The texts of a selection as a list. -/
def textsValue (ss : List String) : Value :=
  .list (ss.map .text)

/-- The fields of a request under their own names, with a value that spells its mode. -/
def submission (input : AlertInput) (mode : Value) : Value :=
  .record [
    ("subscription_id", .text input.subscriptionId),
    ("alert_name", .text input.alertName),
    ("services", textsValue input.services),
    ("event_types", textsValue input.eventTypes),
    ("regions", textsValue input.regions),
    ("severities", textsValue input.severities),
    ("action_mode", mode),
    ("action_group_name", .text input.actionGroupName),
    ("action_group_resource_group", .text input.actionGroupResourceGroup),
    ("existing_action_group_id", nullableValue input.existingActionGroupId),
    ("quick_action_group_name", .text input.quickActionGroupName),
    ("quick_email", .text input.quickEmail),
    ("quick_short_name", .text input.quickShortName),
    ("tags", .list (input.tags.map rowValue))]

end AlertInput

namespace Request

open AlertInput (rowValue nullableValue textsValue)
open Validation (text nullableText)

/-! ## Readers that settle -/

section Settling

variable {α : Type} {check : Value → Checked α} {spell : α → Value}

/-- What the reader accepted and is spelled again, it reads as the same. -/
def Settles (check : Value → Checked α) (spell : α → Value) : Prop :=
  ∀ v a, check v = .accepted a → check (spell a) = .accepted a

theorem Settles.guarded (h : Settles check spell) (problem : α → Option String) :
    Settles (fun v => Checked.guarded (check v) v problem) spell := by
  intro v a ha
  obtain ⟨hread, hproblem⟩ := Checked.guarded_eq_accepted_iff.mp ha
  exact Checked.guarded_eq_accepted_iff.mpr ⟨h v a hread, hproblem⟩

/-- A list of spelled results is accepted as those results when each is. -/
theorem all_map_eq_accepted {as : List α} (h : ∀ a ∈ as, check (spell a) = .accepted a)
    (first : Nat) : Checked.all check first (as.map spell) = .accepted as := by
  induction as generalizing first with
  | nil => rfl
  | cons a as ih =>
    rw [List.forall_mem_cons] at h
    rw [List.map_cons, Checked.all, h.1, ih h.2]
    rfl

/-- Every result of a list is the result of an element. -/
theorem exists_of_mem_all {vs : List Value} {first : Nat} {as : List α}
    (h : Checked.all check first vs = .accepted as) : ∀ a ∈ as, ∃ v, check v = .accepted a := by
  induction vs generalizing first as with
  | nil =>
    cases h
    simp
  | cons v vs ih =>
    obtain ⟨a, rest, hv, hvs, rfl⟩ := Checked.all_cons_eq_accepted_iff.mp h
    exact List.forall_mem_cons.mpr ⟨⟨v, hv⟩, ih hvs⟩

theorem Settles.listOf (h : Settles check spell) :
    Settles (listOf check) fun as => .list (as.map spell) := by
  intro v as ha
  obtain ⟨items, -, hall⟩ := listOf_eq_accepted_iff.mp ha
  refine all_map_eq_accepted (fun a hmem => ?_) 0
  obtain ⟨w, hw⟩ := exists_of_mem_all hall a hmem
  exact h w a hw

/-! ## Fields -/

variable {es es' : List (String × Value)} {f : FieldName} {key : String} {a default : α}

theorem optional_of_find? {v : Value} (hfind : f.find? es = some (key, v))
    (hv : check v = .accepted a) : optional es f default check = .accepted a :=
  optional_eq_accepted_iff.mpr (Or.inr ⟨key, v, hfind, hv⟩)

/-- An optional field settles when its default is accepted as a value, too. -/
theorem Settles.optional (h : Settles check spell)
    (hdefault : check (spell default) = .accepted default)
    (ha : optional es f default check = .accepted a)
    (hfind : f.find? es' = some (key, spell a)) :
    Request.optional es' f default check = .accepted a := by
  refine optional_of_find? hfind ?_
  rcases optional_eq_accepted_iff.mp ha with ⟨-, rfl⟩ | ⟨_, v, -, hv⟩
  · exact hdefault
  · exact h v a hv

theorem Settles.required (h : Settles check spell) (ha : required es f check = .accepted a)
    (hfind : f.find? es' = some (key, spell a)) : Request.required es' f check = .accepted a := by
  obtain ⟨_, v, -, hv⟩ := required_eq_accepted_iff.mp ha
  exact required_eq_accepted_iff.mpr ⟨key, spell a, hfind, h v a hv⟩

end Settling

/-! ## Texts -/

/-- Only bytes, of which there is one text, are read as a text without being one. -/
theorem text_of_text?_eq_none {v : Value} {s : String} (hv : v.text? = none)
    (h : text v = .accepted s) : s = "x" := by
  unfold text Validation.spelling? at h
  cases v with
  | text t => exact absurd hv (by simp [Value.text?])
  | member m => exact absurd hv (by simp [Value.text?])
  | foreign k => cases k <;> simp_all [Value.text?, Checked.refuse]
  | _ => simp_all [Value.text?, Checked.refuse]

theorem trim_trim (s : String) : Text.trim (Text.trim s) = Text.trim s := by
  unfold Text.trim
  rw [String.toList_ofList, Text.trimBlanks_trimBlanks]

theorem settles_trimmedText : Settles trimmedText .text := by
  intro v s h
  have htrimmed : Text.trim s = s := by
    unfold trimmedText trimmedValue at h
    cases hv : v.text? with
    | some t =>
      rw [hv] at h
      obtain rfl : Text.trim t = s := Checked.accepted.inj h
      exact trim_trim t
    | none =>
      rw [hv] at h
      rw [text_of_text?_eq_none hv h]
      decide
  exact congrArg Checked.accepted htrimmed

theorem settles_checkedText (rule : Value → Option Form.Problem) :
    Settles (checkedText rule) .text :=
  settles_trimmedText.guarded fun s => (rule (.text s)).map Form.Problem.message

theorem settles_nullableText : Settles nullableText nullableValue := by
  rintro v (_ | s) -
  · rfl
  · rfl

theorem settles_boundedText (limit : Nat) : Settles (boundedText limit) .text := by
  intro v s h
  unfold boundedText at h
  cases hv : text v with
  | refused issues => exact absurd h (by simp [hv])
  | accepted t =>
    simp only [hv] at h
    split at h
    · rename_i hlimit
      obtain rfl := Checked.accepted.inj h
      exact if_pos hlimit
    · exact absurd h (by simp [Checked.refuse])

/-! ## Tags -/

theorem settles_tagRow (rule : RecordRule) : Settles (tagRow rule []) rowValue := by
  intro v row h
  cases v with
  | record es =>
    unfold tagRow at h
    simp only [encodable_nil, Checked.seq_eq_accepted_iff, Checked.map_eq_accepted_iff] at h
    obtain ⟨_, value, ⟨key, hkey, rfl⟩, hvalue, rfl⟩ := h
    have hkey' : Request.optional [("key", .text key), ("value", .text value)] ⟨"key", "key"⟩ ""
        (boundedText maxTagKey) = .accepted key :=
      (settles_boundedText maxTagKey).optional rfl hkey rfl
    have hvalue' : Request.optional [("key", .text key), ("value", .text value)] ⟨"value", "value"⟩
        "" (boundedText maxTagValue) = .accepted value :=
      (settles_boundedText maxTagValue).optional rfl hvalue rfl
    unfold rowValue tagRow
    simp only [encodable_nil]
    rw [hkey', hvalue']
    rfl
  | _ => exact absurd h (by simp [tagRow, Checked.refuse])

theorem settles_tags (rule : RecordRule) :
    Settles (fun v => listOf (tagRow rule []) (tagRows v)) fun rows => .list (rows.map rowValue) :=
  fun v rows h => (settles_tagRow rule).listOf (tagRows v) rows h

/-! ## Selections and modes -/

/-- Texts of which none is empty are accepted as a selection, when there are any. -/
theorem selection_texts {what : String} {ss : List String} (hne : ss ≠ []) (hempty : "" ∉ ss) :
    selection what (textsValue ss) = .accepted ss := by
  have htext (s) (_ : s ∈ ss) : text (.text s) = .accepted s := rfl
  have hread : listOf text (textsValue ss) = .accepted ss := all_map_eq_accepted htext 0
  have hfilter : ss.filter (· != "") = ss :=
    List.filter_eq_self.mpr fun s hs => bne_iff_ne.mpr fun h => hempty (h ▸ hs)
  have hsome : ∃ s ∈ ss, s ≠ "" := by
    obtain ⟨s, hs⟩ := List.exists_mem_of_ne_nil ss hne
    exact ⟨s, hs, fun h => hempty (h ▸ hs)⟩
  refine Checked.guarded_eq_accepted_iff.mpr ⟨Checked.map_eq_accepted_iff.mpr ⟨ss, hread, hfilter⟩,
    Option.map_eq_none_iff.mpr (Form.checkSelection_texts.mpr hsome)⟩

theorem actionMode_of_label {mode : Value} {m : ActionMode} (h : mode.text? = some m.label) :
    Request.actionMode mode = .accepted m := by
  unfold Request.actionMode
  rw [h, Option.bind_some, ActionMode.ofLabel?_label]

/-! ## The request -/

section Whole

variable {rule : RecordRule} {es : List (String × Value)} {input : AlertInput} {mode : Value}

/-- Every field of a submission is read as that of the request. -/
theorem fieldsRead_submission (h : FieldsRead rule es input)
    (hselections : ∀ s : Selection, s.of input ≠ [])
    (hmode : mode.text? = some input.actionMode.label) :
    ∃ es', input.submission mode = .record es' ∧ FieldsRead rule es' input := by
  have hempty (s : Selection) : "" ∉ s.of input := (selection_of_fieldsRead h s).1
  have hselection (s : Selection) (what : String) :
      selection what (textsValue (s.of input)) = .accepted (s.of input) :=
    selection_texts (hselections s) (hempty s)
  refine ⟨_, rfl, ?_⟩
  exact {
    subscriptionId := (settles_checkedText _).required h.subscriptionId rfl
    alertName := (settles_checkedText _).required h.alertName rfl
    services := optional_of_find? rfl (hselection .services _)
    eventTypes := optional_of_find? rfl (hselection .eventTypes _)
    regions := optional_of_find? rfl (hselection .regions _)
    severities := optional_of_find? rfl (hselection .severities _)
    actionMode := optional_of_find? rfl (actionMode_of_label hmode)
    actionGroupName := settles_trimmedText.optional rfl h.actionGroupName rfl
    actionGroupResourceGroup := settles_trimmedText.optional rfl h.actionGroupResourceGroup rfl
    existingActionGroupId := settles_nullableText.optional rfl h.existingActionGroupId rfl
    quickActionGroupName := settles_trimmedText.optional rfl h.quickActionGroupName rfl
    quickEmail := settles_trimmedText.optional rfl h.quickEmail rfl
    quickShortName := settles_trimmedText.optional rfl h.quickShortName rfl
    tags := (settles_tags rule).optional rfl h.tags rfl }

theorem givenIn_submission (s : Selection) (input : AlertInput) (mode : Value) :
    s.GivenIn (input.submission mode) := by
  cases s <;> exact ⟨_, rfl, Or.inl (by simp [Keyed.has, Keyed.get?, Selection.fieldName])⟩

/-- A request that selects something everywhere is read from its submission. -/
theorem readWith_submission {payload : Value} (h : readWith rule payload = .accepted input)
    (hselections : ∀ s : Selection, s.of input ≠ [])
    (hmode : mode.text? = some input.actionMode.label) :
    readWith rule (input.submission mode) = .accepted input := by
  obtain ⟨es, -, hfields, hgroup⟩ := readWith_eq_accepted_iff.mp h
  obtain ⟨es', hes', hfields'⟩ := fieldsRead_submission hfields hselections hmode
  exact readWith_eq_accepted_iff.mpr ⟨es', hes', hfields', hgroup⟩

/-- **An accepted request that is submitted again is accepted as the same request exactly when its
payload gave every selection**: a selection that was left out is submitted as an empty one, which is
refused. The template is then the same, and there is one. -/
theorem accepted_again_iff {payload : Value} (h : readWith rule payload = .accepted input)
    (rule' : RecordRule) (hmode : mode.text? = some input.actionMode.label) :
    (readWith rule' (input.submission mode) = .accepted input ↔
        ∀ s : Selection, s.GivenIn payload) ∧
      ((∀ s : Selection, s.GivenIn payload) → ∀ options : TemplateOptions,
        ∃ t, Template.render options <$> readWith rule payload = .accepted (.ok t) ∧
          Template.render options <$> readWith rule' (input.submission mode) =
            .accepted (.ok t)) := by
  have hgiven (s : Selection) : s.of input ≠ [] ↔ s.GivenIn payload := (selection_of_accepted h s).2
  have hiff : readWith rule' (input.submission mode) = .accepted input ↔
      ∀ s : Selection, s.GivenIn payload := by
    constructor
    · intro hagain s
      exact (hgiven s).mp ((selection_of_accepted hagain s).2.mpr (givenIn_submission s input mode))
    · intro hall
      have hselections (s : Selection) : s.of input ≠ [] := (hgiven s).mpr (hall s)
      exact readWith_accepted_of_accepted (readWith_submission h hselections hmode)
  refine ⟨hiff, fun hall options => ?_⟩
  have htemplate := congrArg Checked.accepted (Template.render_accepted h options)
  refine ⟨Template.withReference options input input.reference, ?_, ?_⟩
  · rw [h]
    exact htemplate
  · rw [hiff.mpr hall]
    exact htemplate

end Whole

/-- A request with white space around its texts, placeholders in its selections, and tags in the
form of a record. -/
def paddedRequest : Value :=
  .record [("subscription_id", .text " 11111111-2222-3333-4444-555555555555 "),
    ("alertName", .text " svc health\n"), ("services", .list [.text "", .text "Storage"]),
    ("eventTypes", .tuple [.text "Incident"]), ("regions", .list [.text "Global", .text ""]),
    ("severities", .list [.text "Sev1"]), ("action_mode", .mode .quick),
    ("quickActionGroupName", .text "Ops "), ("quick_email", .text " ops@example.com"),
    ("tags", .record [("env", .text "prod")])]

/-- The alert that `paddedRequest` asks for. -/
def paddedInput : AlertInput where
  subscriptionId := "11111111-2222-3333-4444-555555555555"
  alertName := "svc health"
  services := ["Storage"]
  eventTypes := ["Incident"]
  regions := ["Global"]
  severities := ["Sev1"]
  actionMode := .quick
  quickActionGroupName := "Ops"
  quickEmail := "ops@example.com"
  tags := [(.text "env", .text "prod")]

theorem accepted_again_paddedRequest :
    readWith .byFields paddedRequest = .accepted paddedInput ∧
      readWith .byModel (paddedInput.submission (.text "quick")) = .accepted paddedInput := by
  have haccepted : readWith .byFields paddedRequest = .accepted paddedInput := rfl
  have hgiven : ∀ s : Selection, s.GivenIn paddedRequest := by
    intro s
    cases s <;> exact ⟨_, rfl, by decide⟩
  exact ⟨haccepted, (accepted_again_iff haccepted .byModel rfl).1.mpr hgiven⟩

end Request

end HealthAlert
