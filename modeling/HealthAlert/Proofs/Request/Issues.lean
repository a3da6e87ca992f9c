import HealthAlert.Proofs.Request.Agreement
import Mathlib.Data.List.Basic

/-!
# The issues of a request and the problems of a form

The check of a form judges the raw values, the reader of a request trimmed texts and selections
without their placeholders, and both say what is wrong in the same words. For the fields that are
judged in every mode the two lists are the same, as far as the values are texts and lists of texts:
what is left out of a value before the reader judges it does not change the verdict.

* `Checked.issues`: the issues of a result, with one equation for each operation.
* `issues_checkedText`, `issues_selection`: the issues of a single value are the problem with it.
* `filter_issues_readFields`, `filter_problems_check`: both lists, field by field.
* **`issues_eq_problems`**: the issues of these fields are the problems of the form, in order.
-/

namespace HealthAlert

/-! ## Issues of results -/

namespace Checked

variable {α β : Type}

/-- The issues of a result, of which an accepted one has none. -/
def issues : Checked α → List Issue
  | .accepted _ => []
  | .refused issues => issues

theorem issues_map (f : α → β) (x : Checked α) : (f <$> x).issues = x.issues := by
  cases x <;> rfl

theorem issues_seq (f : Checked (α → β)) (x : Checked α) :
    (f <*> x).issues = f.issues ++ x.issues := by
  cases f with
  | accepted g => cases x <;> rfl
  | refused issues =>
    cases x with
    | accepted a => exact (List.append_nil issues).symm
    | refused more => rfl

theorem issues_under (step : Place) (x : Checked α) :
    (under step x).issues = x.issues.map (·.under step) := by
  cases x <;> rfl

/-- What a rule has against an accepted result is its one issue. -/
theorem issues_guarded_accepted (a : α) (v : Value) (problem : α → Option String) :
    (guarded (.accepted a) v problem).issues =
      ((problem a).map fun m => ⟨[], .rejected m, v⟩).toList := by
  unfold guarded
  cases h : problem a <;> simp only [h] <;> rfl

/-- A rule for the whole adds no issue with a part. -/
theorem filter_issues_guarded {p : Issue → Bool} {v : Value}
    (hp : ∀ m, p ⟨[], .rejected m, v⟩ = false) (x : Checked α) (problem : α → Option String) :
    (guarded x v problem).issues.filter p = x.issues.filter p := by
  cases x with
  | refused issues => rfl
  | accepted a =>
    rw [issues_guarded_accepted]
    cases problem a with
    | none => rfl
    | some m => simp [hp, issues]

end Checked

/-! ## Values that are judged alike -/

namespace Value

/-- The value is a text. -/
def isText (v : Value) : Bool :=
  v.text?.isSome

/-- The value is a list of texts. -/
def isTexts (v : Value) : Bool :=
  match v.items? with
  | some items => items.all isText
  | none => false

theorem exists_of_isTexts {v : Value} (h : v.isTexts = true) :
    ∃ items, v.items? = some items ∧ ∀ x ∈ items, x.isText = true := by
  unfold isTexts at h
  split at h
  · rename_i items hitems
    exact ⟨items, hitems, List.all_eq_true.mp h⟩
  · exact absurd h (by simp)

end Value

namespace Form

/-- A selection has a problem when none of its texts is selected. -/
theorem checkSelection_of_items? {what : String} {v : Value} {items : List Value}
    (h : v.items? = some items) :
    checkSelection what v =
      if items.any isSelected then none else some (.nothingSelected what) := by
  unfold checkSelection
  split
  · exact absurd h (by simp [Value.items?])
  · rw [h]

/-- The texts of a list that are not empty are the ones that are selected. -/
theorem any_isSelected_texts (items : List Value) :
    (((items.filterMap Value.text?).filter (· != "")).map Value.text).any isSelected =
      items.any isSelected := by
  induction items with
  | nil => rfl
  | cons v items ih =>
    rw [List.any_cons, ← ih]
    cases hv : v.text? with
    | none =>
      have hout : isSelected v = false := by rw [isSelected, hv]
      rw [List.filterMap_cons_none hv, hout, Bool.false_or]
    | some s =>
      have hin : isSelected v = (s != "") := by rw [isSelected, hv]
      rw [List.filterMap_cons_some hv, List.filter_cons, hin]
      cases hs : s != "" with
      | false => rfl
      | true => exact congrArg (· || _) hs

end Form

namespace Request

open Validation (text)

/-! ## The issues of a value -/

section Parts

variable {v : Value} {s : String}

/-- A problem with a value as the issue of its reader. -/
def issueOf (v : Value) (p : Form.Problem) : Issue :=
  ⟨[], .rejected p.message, v⟩

/-- A text that is judged after it was trimmed has the problem that it has before. -/
theorem issues_checkedText {check : Value → Option Form.Problem}
    (hcheck : ∀ {v w : Value}, Form.Entry.of v = Form.Entry.of w → check v = check w)
    (h : v.text? = some s) :
    (checkedText check v).issues = ((check v).map (issueOf v)).toList := by
  have htrimmed : trimmedText v = .accepted (Text.trim s) := by
    unfold trimmedText trimmedValue
    rw [h]
    exact text_of_text? rfl
  have hsame : check (.text (Text.trim s)) = check v :=
    hcheck ((Form.Entry.of_trim s).trans (Form.Entry.of_text? h).symm)
  unfold checkedText
  rw [htrimmed, Checked.issues_guarded_accepted, hsame, Option.map_map]
  rfl

theorem all_text_of_isText {items : List Value} (h : ∀ x ∈ items, x.isText = true) (first : Nat) :
    Checked.all text first items = .accepted (items.filterMap Value.text?) := by
  induction items generalizing first with
  | nil => rfl
  | cons x items ih =>
    rw [List.forall_mem_cons] at h
    obtain ⟨s, hs⟩ := Option.isSome_iff_exists.mp h.1
    rw [Checked.all, text_of_text? hs, ih h.2, List.filterMap_cons_some hs]
    rfl

theorem elements?_of_items? {items : List Value} (h : v.items? = some items) :
    elements? v = some items := by
  cases v with
  | list xs => exact h
  | tuple xs => exact h
  | _ => exact absurd h (by simp [Value.items?])

/-- A selection that is judged without its placeholders has the problem that it has with them. -/
theorem issues_selection {what : String} (h : v.isTexts = true) :
    (selection what v).issues = ((Form.checkSelection what v).map (issueOf v)).toList := by
  obtain ⟨items, hitems, htexts⟩ := Value.exists_of_isTexts h
  have hlist : listOf text v = .accepted (items.filterMap Value.text?) := by
    unfold listOf
    rw [elements?_of_items? hitems]
    exact all_text_of_isText htexts 0
  have hsame : Form.checkSelection what
      (.list (((items.filterMap Value.text?).filter (· != "")).map .text)) =
        Form.checkSelection what v := by
    rw [Form.checkSelection_of_items? rfl, Form.checkSelection_of_items? hitems,
      Form.any_isSelected_texts]
  unfold selection
  rw [hlist]
  show (Checked.guarded (.accepted ((items.filterMap Value.text?).filter (· != ""))) v _).issues = _
  rw [Checked.issues_guarded_accepted, hsame, Option.map_map]
  rfl

end Parts

/-! ## Fields that are judged in every mode -/

namespace Field

/-- The fields that the check of a form judges in every mode, in its order. -/
def always : List Field :=
  [.subscriptionId, .alertName, .services, .eventTypes, .regions, .severities]

/-- The value is of the kind that the field holds: a text, or a list of texts. -/
def holds (f : Field) (v : Value) : Bool :=
  if f.kind = .selection then v.isTexts else v.isText

/-- The field is given under its own name, with a value of its kind. -/
def Supplied (f : Field) (es : List (String × Value)) : Prop :=
  ∃ v, Keyed.get? es f.names.name = some v ∧ f.holds v = true

end Field

/-- No field is given by the name that the form uses, unless that is its own name. -/
def KeyedByName (es : List (String × Value)) : Prop :=
  ∀ f : Field, f.names.formName ≠ f.names.name → Keyed.has es f.names.formName = false

/-- The name is that of a field which is judged in every mode. -/
def isAlwaysJudged (name : String) : Bool :=
  Field.always.any fun f => f.names.name == name

/-- The issue is with a field that is judged in every mode. -/
def isWithAlwaysJudged (i : Issue) : Bool :=
  match i.place with
  | .field name :: _ => isAlwaysJudged name
  | _ => false

section Fields

variable {es : List (String × Value)} {f : Field} {v : Value}

/-- The value of a supplied field is the one that the form judges. -/
theorem exists_of_supplied (hes : KeyedByName es) (hf : f.Supplied es) :
    ∃ v, f.names.find? es = some (f.names.name, v) ∧ Form.valueOf es f.names.name = v ∧
      f.holds v = true := by
  obtain ⟨v, hv, hholds⟩ := hf
  refine ⟨v, ?_, by rw [Form.valueOf, hv]; rfl, hholds⟩
  unfold FieldName.find?
  by_cases hname : f.names.formName = f.names.name
  · rw [hname, hv]
  · have hnone : Keyed.get? es f.names.formName = none := by
      have hhas := hes f hname
      rwa [Keyed.has, Option.isSome_eq_false_iff, Option.isNone_iff_eq_none] at hhas
    rw [hnone, hv]
    rfl

/-- The problem that the form has with a field, as the issue of a request. -/
def Field.issues (f : Field) (es : List (String × Value)) : List Issue :=
  ((f.problem? (Form.valueOf es f.names.name)).map fun p =>
    (issueOf (Form.valueOf es f.names.name) p).under (.field f.names.name)).toList

/-- A result whose issues are the problem with the value, put under the field, has those of the
field. -/
theorem issues_under_field {α : Type} {x : Checked α} (hvalue : Form.valueOf es f.names.name = v)
    (hx : x.issues = ((f.problem? v).map (issueOf v)).toList) :
    (Checked.under (.field f.names.name) x).issues = f.issues es := by
  subst hvalue
  rw [Checked.issues_under, hx]
  unfold Field.issues
  cases f.problem? (Form.valueOf es f.names.name) <;> rfl

theorem issues_required (hes : KeyedByName es) (hf : f.Supplied es) (hkind : f.kind = .text)
    (hcheck : ∀ {v w : Value}, Form.Entry.of v = Form.Entry.of w → f.problem? v = f.problem? w) :
    (required es f.names (checkedText f.problem?)).issues = f.issues es := by
  obtain ⟨v, hfind, hvalue, hholds⟩ := exists_of_supplied hes hf
  have htext : v.isText = true := by
    rwa [Field.holds, hkind, if_neg (by decide)] at hholds
  obtain ⟨s, hs⟩ := Option.isSome_iff_exists.mp htext
  unfold required
  rw [hfind]
  exact issues_under_field hvalue (issues_checkedText hcheck hs)

theorem issues_optional_selection {what : String} (hes : KeyedByName es) (hf : f.Supplied es)
    (hkind : f.kind = .selection) (hproblem : f.problem? = Form.checkSelection what) :
    (optional es f.names [] (selection what)).issues = f.issues es := by
  obtain ⟨v, hfind, hvalue, hholds⟩ := exists_of_supplied hes hf
  have htexts : v.isTexts = true := by
    rwa [Field.holds, hkind, if_pos rfl] at hholds
  unfold optional
  rw [hfind]
  exact issues_under_field hvalue (hproblem ▸ issues_selection htexts)

theorem filter_issues_always (hf : f ∈ Field.always) :
    (f.issues es).filter isWithAlwaysJudged = f.issues es := by
  refine List.filter_eq_self.mpr fun i hi => ?_
  obtain ⟨p, -, rfl⟩ := Option.map_eq_some_iff.mp (Option.mem_toList.mp hi)
  exact List.any_eq_true.mpr ⟨f, hf, beq_self_eq_true _⟩

/-- The issues of any other field stand under a name of that field. -/
theorem filter_issues_other {α : Type} {n : FieldName} {default : α} {check : Value → Checked α}
    (hname : isAlwaysJudged n.name = false) (hformName : isAlwaysJudged n.formName = false) :
    (optional es n default check).issues.filter isWithAlwaysJudged = [] := by
  refine List.filter_eq_nil_iff.mpr fun i hi => ?_
  unfold optional at hi
  cases hfind : n.find? es with
  | none =>
    rw [hfind] at hi
    exact absurd hi List.not_mem_nil
  | some e =>
    obtain ⟨key, v⟩ := e
    rw [hfind] at hi
    dsimp only at hi
    rw [Checked.issues_under] at hi
    obtain ⟨inner, -, rfl⟩ := List.mem_map.mp hi
    have hkey : isAlwaysJudged key = false := by
      unfold FieldName.find? at hfind
      split at hfind
      · rwa [← (Prod.mk.inj (Option.some.inj hfind)).1]
      · obtain ⟨w, -, heq⟩ := Option.map_eq_some_iff.mp hfind
        rwa [← (Prod.mk.inj heq).1]
    show ¬ isAlwaysJudged key = true
    rw [hkey]
    exact Bool.false_ne_true

/-! ## Both lists -/

/-- **The issues with these fields, field by field.** -/
theorem filter_issues_readFields (rule : RecordRule) (hes : KeyedByName es)
    (hsupplied : ∀ f ∈ Field.always, f.Supplied es) :
    (readFields rule es).issues.filter isWithAlwaysJudged =
      Field.always.flatMap fun f => f.issues es := by
  simp only [Field.always, List.forall_mem_cons] at hsupplied
  obtain ⟨hid, hname, hservices, hevents, hregions, hseverities, -⟩ := hsupplied
  have hids := issues_required hes hid rfl Form.checkSubscriptionId_congr
  have hnames := issues_required hes hname rfl Form.checkAlertName_congr
  have hservice := issues_optional_selection hes hservices rfl rfl
  have hevent := issues_optional_selection hes hevents rfl rfl
  have hregion := issues_optional_selection hes hregions rfl rfl
  have hseverity := issues_optional_selection hes hseverities rfl rfl
  simp only [Field.names, Field.problem?] at hids hnames hservice hevent hregion hseverity
  unfold readFields
  simp (disch := decide) only [Checked.issues_seq, Checked.issues_map, List.filter_append,
    filter_issues_other, List.append_nil, hids, hnames, hservice, hevent, hregion, hseverity,
    filter_issues_always]
  simp only [Field.always, List.flatMap_cons, List.flatMap_nil, List.append_nil, List.append_assoc]

/-- The problem that the form has with a field, under the name of the field. -/
def Field.problems (f : Field) (es : List (String × Value)) : List (String × Form.Problem) :=
  ((f.problem? (Form.valueOf es f.names.name)).map (f.names.name, ·)).toList

theorem mem_problems {vs : Form.Verdicts} {e : String × Form.Problem} (he : e ∈ vs.problems) :
    (e.1, some e.2) ∈ vs := by
  obtain ⟨v, hv, heq⟩ := List.mem_filterMap.mp he
  obtain ⟨p, hp, rfl⟩ := Option.map_eq_some_iff.mp heq
  rwa [← hp]

/-- What a form has against the action group stands under the names of other fields. -/
theorem filter_problems_checkActionGroup :
    (Form.checkActionGroup es).problems.filter (isAlwaysJudged ·.1) = [] := by
  have hothers : ∀ v ∈ Form.checkActionGroup es, isAlwaysJudged v.1 = false := by
    intro v hv
    unfold Form.checkActionGroup at hv
    split at hv
    · rcases List.mem_pair.mp hv with rfl | rfl <;> rfl
    split at hv
    · exact absurd hv List.not_mem_nil
    · rcases List.mem_pair.mp hv with rfl | rfl <;> rfl
  refine List.filter_eq_nil_iff.mpr fun e he => ?_
  rw [hothers _ (mem_problems he)]
  exact Bool.false_ne_true

/-- **The problems with these fields, field by field.** -/
theorem filter_problems_check :
    (Form.check es).problems.filter (isAlwaysJudged ·.1) =
      Field.always.flatMap fun f => f.problems es := by
  have hcheck : (Form.check es).problems =
      (Field.always.flatMap fun f => f.problems es) ++ (Form.checkActionGroup es).problems := by
    unfold Form.check Form.Verdicts.problems
    rw [List.filterMap_append]
    congr 1
    rw [List.filterMap_eq_flatMap_toList]
    rfl
  rw [hcheck, List.filter_append, filter_problems_checkActionGroup, List.append_nil]
  refine List.filter_eq_self.mpr fun e he => ?_
  obtain ⟨f, hf, he⟩ := List.mem_flatMap.mp he
  obtain ⟨p, -, rfl⟩ := Option.map_eq_some_iff.mp (Option.mem_toList.mp he)
  exact List.any_eq_true.mpr ⟨f, hf, beq_self_eq_true _⟩

/-- **The issues with the fields that are judged in every mode are the problems of the form with
them, in order and in the same words.** The reader trims the texts and leaves the placeholders out
of the selections before it judges them; the form judges the values as they are given. -/
theorem issues_eq_problems (rule : RecordRule) (hes : KeyedByName es)
    (hsupplied : ∀ f ∈ Field.always, f.Supplied es) :
    ((readWith rule (.record es)).issues.filter isWithAlwaysJudged).map
        (fun i => (i.place, i.refusal.type, i.refusal.message)) =
      ((Form.check es).problems.filter (isAlwaysJudged ·.1)).map fun e =>
        ([.field e.1], "value_error", "Value error, " ++ e.2.message) := by
  unfold readWith
  rw [Checked.filter_issues_guarded fun _ => rfl, filter_issues_readFields rule hes hsupplied,
    filter_problems_check, List.map_flatMap, List.map_flatMap]
  refine List.flatMap_congr fun f _ => ?_
  unfold Field.issues Field.problems
  cases f.problem? (Form.valueOf es f.names.name) <;> rfl

/-- A payload with white space around its texts, selections of placeholders, and tags that are no
tags. -/
def blankForm : List (String × Value) :=
  [("subscription_id", .text "\u00a011111111222233334444555555555555 "),
    ("alert_name", .text " a<b> "), ("services", .list [.text "", .text "Storage"]),
    ("event_types", .list [.text ""]), ("regions", .list []), ("severities", .list [.text " "]),
    ("tags", .int 3)]

theorem issues_eq_problems_blankForm :
    KeyedByName blankForm ∧ (∀ f ∈ Field.always, f.Supplied blankForm) ∧
      ((readWith .byModel (.record blankForm)).issues.filter isWithAlwaysJudged).map
          (fun i => (i.place, i.refusal.type, i.refusal.message)) =
        [([.field "subscription_id"], "value_error",
            "Value error, Subscription ID appears to be missing hyphens. " ++
              "Expected format: 00000000-0000-0000-0000-000000000000"),
          ([.field "alert_name"], "value_error",
            "Value error, Alert Name contains invalid characters: <, >. " ++
              "Use letters, numbers, spaces, and hyphens only."),
          ([.field "event_types"], "value_error",
            "Value error, Please select at least one event type. " ++
              "Use Ctrl/Cmd+Click to select multiple."),
          ([.field "regions"], "value_error",
            "Value error, Please select at least one region. " ++
              "Use Ctrl/Cmd+Click to select multiple.")] := by
  have hes : KeyedByName blankForm := by
    intro f
    cases f <;> decide
  have hsupplied : ∀ f ∈ Field.always, f.Supplied blankForm := by
    simp only [Field.always, List.forall_mem_cons]
    exact ⟨⟨_, rfl, rfl⟩, ⟨_, rfl, rfl⟩, ⟨_, rfl, rfl⟩, ⟨_, rfl, rfl⟩, ⟨_, rfl, rfl⟩, ⟨_, rfl, rfl⟩,
      fun _ h => absurd h List.not_mem_nil⟩
  exact ⟨hes, hsupplied, (issues_eq_problems .byModel hes hsupplied).trans (by decide)⟩

end Fields

end Request

end HealthAlert
