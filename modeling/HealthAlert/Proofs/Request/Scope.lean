import HealthAlert.Proofs.Bicep.Layout
import HealthAlert.Proofs.Bicep.Quoting
import HealthAlert.Proofs.Form.SubscriptionIds
import HealthAlert.Proofs.Request.Rendering
import HealthAlert.Proofs.Request.Resubmission

/-!
# The scope of an accepted request

A subscription ID is checked on a form without the white space around it, and a request keeps it
without that white space. So the ID of an accepted request has the form of one, and the scope of
its template, which quotes the ID, needs no escape.

* `subscription_of_accepted`: what an accepted request says about its subscription.
* `text_documentLiteral`: where the scope stands in the text of a template.
* **`scope_of_accepted`**: exactly the subscription IDs pass the check, and the template of an
  accepted request has one scope, the literal that names the subscription.
-/

namespace HealthAlert

/-! ## The subscription -/

namespace Request

/-- The field of the subscription ID. -/
def subscriptionField : FieldName := ⟨"subscription_id", "subscriptionId"⟩

/-- The payload gives this text for the subscription ID. -/
def GivesSubscription (payload : Value) (s : String) : Prop :=
  ∃ es key v, payload = .record es ∧ subscriptionField.find? es = some (key, v) ∧ v.text? = some s

/-- A text that is accepted as a subscription ID was given as a text, and is one without the white
space around it. -/
theorem subscriptionId_of_checkedText {v : Value} {id : String}
    (h : checkedText Form.checkSubscriptionId v = .accepted id) :
    Form.IsSubscriptionId id.toList ∧ ∃ s, v.text? = some s ∧ id = Text.trim s := by
  obtain ⟨hread, hproblem⟩ := Checked.guarded_eq_accepted_iff.mp h
  have htrimmed : Text.trim id = id := Checked.accepted.inj (settles_trimmedText v id hread)
  have hid : Form.IsSubscriptionId id.toList := by
    obtain ⟨t, ht, hid⟩ :=
      Form.checkSubscriptionId_eq_none_iff.mp (Option.map_eq_none_iff.mp hproblem)
    obtain rfl : id = t := Option.some.inj ht
    rw [← htrimmed, Text.trim, String.toList_ofList]
    exact hid
  refine ⟨hid, ?_⟩
  unfold trimmedText trimmedValue at hread
  cases hv : v.text? with
  | some s =>
    rw [hv] at hread
    exact ⟨s, rfl, (Checked.accepted.inj hread).symm⟩
  | none =>
    -- Bytes are read as a text, but not as one of 36 characters.
    rw [hv] at hread
    rw [text_of_text?_eq_none hv hread] at hid
    exact absurd hid.length (by decide)

/-- **The subscription ID of an accepted request is one**: the text that was given, without the
white space around it. -/
theorem subscription_of_accepted {rule : RecordRule} {payload : Value} {lone : Text.StandIns}
    {input : AlertInput} (h : readWith rule payload lone = .accepted input) :
    Form.IsSubscriptionId input.subscriptionId.toList ∧
      ∃ s, GivesSubscription payload s ∧ input.subscriptionId = Text.trim s := by
  obtain ⟨es, rfl, hread, -⟩ := readWith_eq_accepted_iff.mp h
  obtain ⟨key, v, hfind, hv⟩ := required_eq_accepted_iff.mp hread.subscriptionId
  obtain ⟨hid, s, hs, htrim⟩ := subscriptionId_of_checkedText hv
  exact ⟨hid, s, ⟨es, key, v, rfl, hfind, hs⟩, htrim⟩

end Request

/-! ## The scope -/

namespace Template

/-- The list of one scope: on one line if the threshold allows it, or else on lines of its own. -/
def scopeList (options : TemplateOptions) (literal : String) : String :=
  if 1 ≤ options.compactThreshold then "[ " ++ literal ++ " ]"
  else "[\n" ++ options.indent ++ "  " ++ literal ++ "\n" ++ options.indent ++ "  ]"

/-- The properties of an alert, up to the end of its scopes. -/
def untilScopes (options : TemplateOptions) (literal : String) : String :=
  "\x7b\n" ++ options.indent ++ "enabled: true\n" ++ options.indent ++ "scopes: " ++
    scopeList options literal ++ "\n"

/-- The alert of the template has one scope, this literal: among its properties, and where the text
writes these out. -/
structure ScopedBy (options : TemplateOptions) (t : Template) (literal : String) : Prop where
  property : t.properties.member? "scopes" = some (.list [.text literal])
  written : ∃ head rest,
    Bicep.render options.indent options.compactThreshold t.properties =
      .ok (untilScopes options literal ++ rest) ∧
    t.text = head ++ "  properties: " ++ (untilScopes options literal ++ rest) ++ "\n" ++ "\x7d\n"

section Scope

open Bicep (Literal)

variable (options : TemplateOptions) (input : AlertInput) (reference : String)

theorem write_scopes (literal : String) :
    Literal.write options.compactThreshold (options.indent.toList ++ Literal.indentStep)
      (.array [.scalar (.text literal)]) = (scopeList options literal).toList := by
  have hlength : (([Literal.scalar (.text literal)].length : Nat) : Int) = 1 := rfl
  rw [Literal.write_array (List.cons_ne_nil _ _)]
  unfold Literal.inlineItems? scopeList
  rw [hlength]
  by_cases hinline : 1 ≤ options.compactThreshold
  · rw [if_pos hinline, if_pos hinline]
    simp [Literal.scalar?, Bicep.Scalar.content]
  · rw [if_neg hinline, if_neg hinline]
    simp [Literal.writeItems, Literal.write, Literal.indentStep, Bicep.Scalar.content]

/-- An object whose second entry is the list of one scope, and not the last. -/
theorem write_scoped (literal key : String) (l : Literal) (others : List (String × Literal)) :
    ∃ rest, Literal.write options.compactThreshold options.indent.toList
      (.object (("enabled", .scalar (.bool true)) ::
        ("scopes", .array [.scalar (.text literal)]) :: (key, l) :: others)) =
      (untilScopes options literal).toList ++ rest := by
  have henabled : Bicep.keyChars "enabled".toList = "enabled".toList := by decide
  have hscopes : Bicep.keyChars "scopes".toList = "scopes".toList := by decide
  refine ⟨options.indent.toList ++ (Bicep.keyChars key.toList ++ ':' :: ' ' ::
    Literal.write options.compactThreshold (options.indent.toList ++ Literal.indentStep) l) ++
    Literal.writeEntries options.compactThreshold options.indent.toList others ++
    '\n' :: (options.indent.toList ++ ['\x7d']), ?_⟩
  rw [Literal.write_object (List.cons_ne_nil _ _)]
  simp only [Literal.sole?, Literal.writeEntries, write_scopes, henabled, hscopes, untilScopes]
  simp [Literal.write, Bicep.Scalar.content]

/-- The text of an alert's properties starts with its scope. -/
theorem text_documentLiteral : ∃ rest,
    (input.documentLiteral reference).text options.indent options.compactThreshold =
      untilScopes options (Bicep.quote ("/subscriptions/" ++ input.subscriptionId)) ++ rest := by
  obtain ⟨rest, hrest⟩ := write_scoped options
    (Bicep.quote ("/subscriptions/" ++ input.subscriptionId)) "condition"
    (Condition.allOf input.conditions).toLiteral _
  refine ⟨String.ofList rest, ?_⟩
  rw [← String.toList_inj, String.toList_append, String.toList_ofList, ← hrest]
  exact String.toList_ofList

theorem scopedBy_withReference : (withReference options input reference).ScopedBy options
    (Bicep.quote ("/subscriptions/" ++ input.subscriptionId)) := by
  obtain ⟨rest, hrest⟩ := text_documentLiteral options input reference
  obtain ⟨head, body, hbody, htext⟩ := writesProperties_withReference options input reference
  have hwritten : Bicep.render options.indent options.compactThreshold (input.document reference) =
      .ok ((input.documentLiteral reference).text options.indent options.compactThreshold) := by
    unfold Bicep.render
    rw [AlertInput.ofValue?_document]
    rfl
  obtain rfl := Except.ok.inj (hbody.symm.trans (hwritten.trans (congrArg Except.ok hrest)))
  exact ⟨rfl, head, rest, hbody, htext⟩

end Scope

end Template

/-! ## Requests -/

namespace Request

/-- **Exactly the subscription IDs pass the check, with or without white space around them.** An
accepted request keeps the ID that was given without the white space, and its template has one
scope, the literal that names the subscription by that ID. -/
theorem scope_of_accepted :
    (∀ v : Value, Form.checkSubscriptionId v = none ↔
      ∃ s, v.text? = some s ∧ Form.IsSubscriptionId (Text.trimBlanks s.toList)) ∧
    ∀ (rule : RecordRule) (payload : Value) (lone : Text.StandIns) (input : AlertInput),
      readWith rule payload lone = .accepted input →
        Form.IsSubscriptionId input.subscriptionId.toList ∧
        (∃ s, GivesSubscription payload s ∧ input.subscriptionId = Text.trim s) ∧
        ∀ options, ∃ t, Template.render options input = .ok t ∧
          t.ScopedBy options ("'/subscriptions/" ++ input.subscriptionId ++ "'") := by
  refine ⟨fun v => Form.checkSubscriptionId_eq_none_iff, fun rule payload lone input h => ?_⟩
  obtain ⟨hid, hgiven⟩ := subscription_of_accepted h
  refine ⟨hid, hgiven, fun options => ⟨_, Template.render_accepted h options, ?_⟩⟩
  have hquotes : '\'' ∉ ("/subscriptions/" ++ input.subscriptionId).toList := by
    rw [String.toList_append, List.mem_append, not_or]
    refine ⟨by decide, fun hmem => ?_⟩
    exact hid.groups.forall_mem (by decide) (fun _ => Text.ne_quote_of_isHexDigit) _ hmem rfl
  have hscoped := Template.scopedBy_withReference options input input.reference
  rw [Bicep.quote_of_notMem hquotes] at hscoped
  exact hscoped

/-- A request that gives its subscription between a no-break space and line breaks. -/
def spacedRequest : Value :=
  .record [("subscriptionId", .text "\u00a0\u2028AbCdEf01-2345-6789-abcd-ef0123456789\r\n"),
    ("alert_name", .text "svc-health"), ("action_group_name", .text "ag-ops"),
    ("actionGroupRg", .text "rg-mon")]

/-- The alert that `spacedRequest` asks for. -/
def spacedInput : AlertInput where
  subscriptionId := "AbCdEf01-2345-6789-abcd-ef0123456789"
  alertName := "svc-health"
  actionGroupName := "ag-ops"
  actionGroupResourceGroup := "rg-mon"

theorem scope_of_spacedRequest :
    readWith .byFields spacedRequest = .accepted spacedInput ∧
      ∃ t, Template.render {} spacedInput = .ok t ∧
        t.ScopedBy {} "'/subscriptions/AbCdEf01-2345-6789-abcd-ef0123456789'" := by
  have haccepted : readWith .byFields spacedRequest = .accepted spacedInput := rfl
  obtain ⟨-, -, htemplates⟩ := scope_of_accepted.2 .byFields spacedRequest [] spacedInput haccepted
  exact ⟨haccepted, htemplates {}⟩

end Request

end HealthAlert
