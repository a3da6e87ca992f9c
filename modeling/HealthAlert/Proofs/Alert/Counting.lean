import HealthAlert.Proofs.Alert.Results
import Mathlib.Algebra.GroupWithZero.Nat

/-!
# Renderings are counted

A run of renderings (`Rendering.runAll`) takes calls one after the other, each with its own options
and with the metrics in order or not. `Counted` says that the metrics hold the calls that were
counted: how often each ended how in which mode, how often a duration was taken, and the sizes of
the templates. One would expect that every call with the metrics in order is counted; but the size
of a text without UTF-8 cannot be taken, and such a call ends without a record.

* `Histogram.holds_observe`, `counted_run`: what one size, and one call, adds.
* `counted_runAll`: a run counts all its calls.
* **`runAll_counts`**: the metrics after a run, and that the calls which are not counted leave no
  trace.
* `runAll_loneCall`: a call that fails and is not counted.
-/

namespace HealthAlert

/-! ## Sizes by bounds -/

namespace Histogram

/-- The histogram holds these sizes: how many there are and their sum, and for each bound how many
lie within it. -/
structure Holds (h : Histogram) (bounds sizes : List Nat) : Prop where
  within : h.within = bounds.map fun b => (b, sizes.countP fun n => decide (n ≤ b))
  observed : h.observed = sizes.length
  sum : h.sum = sizes.sum

theorem holds_empty (bounds : List Nat) : (empty bounds).Holds bounds [] :=
  ⟨rfl, rfl, rfl⟩

theorem holds_observe {h : Histogram} {bounds sizes : List Nat} (hs : h.Holds bounds sizes)
    (n : Nat) : (h.observe n).Holds bounds (sizes ++ [n]) := by
  refine ⟨?_, ?_, ?_⟩
  · unfold observe
    rw [hs.within, List.map_map]
    refine List.map_congr_left fun b _ => ?_
    rw [List.countP_append]
    by_cases hn : n ≤ b <;> simp [hn]
  · unfold observe
    rw [hs.observed, List.length_append, List.length_singleton]
  · unfold observe
    rw [hs.sum, List.sum_append, List.sum_singleton]

end Histogram

namespace Rendering

/-! ## Calls -/

/-- A rendering that is asked for. -/
structure Call where
  options : TemplateOptions := {}
  circumstances : Circumstances := {}
  input : AlertInput

namespace Call

/-- The template, or why there is none. -/
def result (c : Call) : Except Fault Template :=
  compose c.options c.input >>= encoded c.circumstances.lone

/-- How the call ends. -/
def outcome (c : Call) : RenderOutcome :=
  match c.result with
  | .ok _ => .success
  | .error _ => .error

/-- The call reaches its record: it does not end by a text without UTF-8. -/
def reachesRecord (c : Call) : Bool :=
  match c.result with
  | .error (.unencodable _) => false
  | _ => true

/-- The call is counted: it reaches its record while the metrics are in order. -/
def isCounted (c : Call) : Bool :=
  c.circumstances.counting && c.reachesRecord

/-- What the call is counted under. -/
def labels (c : Call) : RenderLabels :=
  ⟨c.outcome, c.input.actionMode⟩

/-- The size of the template, if there is one. -/
def size? (c : Call) : Option Nat :=
  match c.result with
  | .ok t => some (byteSize t.text)
  | .error _ => none

/-- The call's rendering and its record. -/
def run (m : Metrics) (c : Call) : Record :=
  Rendering.run c.options c.circumstances m c.input

end Call

/-- The results of calls that are made one after the other, and the metrics after them. -/
def runAll (m : Metrics) : List Call → List (Except Fault Template) × Metrics
  | [] => ([], m)
  | c :: cs =>
    let record := c.run m
    let (results, m) := runAll record.metrics cs
    (record.result :: results, m)

/-- The calls that are counted. -/
def counted (calls : List Call) : List Call :=
  calls.filter (·.isCounted)

/-- The sizes of the templates that calls give. -/
def sizes (calls : List Call) : List Nat :=
  calls.filterMap Call.size?

/-- The metrics hold these calls, and no other renderings. -/
structure Counted (calls : List Call) (m : Metrics) : Prop where
  renders : ∀ labels, m.renders.count labels = calls.countP fun c => decide (c.labels = labels)
  durations : m.renderDurations = calls.length
  templateSizes : m.templateSizes.Holds sizeBounds (sizes calls)

/-! ## One call -/

section Step

variable {m : Metrics} {c : Call}

/-- What a call gives does not depend on the metrics. -/
theorem run_result (m : Metrics) (c : Call) : (c.run m).result = c.result := rfl

theorem run_metrics_of_not_isCounted (h : c.isCounted = false) : (c.run m).metrics = m := by
  show (if c.circumstances.counting then count m c.input.actionMode c.result else m) = m
  rw [Call.isCounted, Bool.and_eq_false_iff] at h
  split
  · rename_i hcounting
    have hreach : c.reachesRecord = false := h.resolve_left (by simp [hcounting])
    unfold Call.reachesRecord at hreach
    split at hreach
    · rename_i hr
      rw [hr]
      rfl
    · exact absurd hreach (by simp)
  · rfl

theorem run_metrics_of_isCounted (h : c.isCounted = true) :
    (c.run m).metrics = count m c.input.actionMode c.result :=
  if_pos (Bool.and_eq_true_iff.mp h).1

/-- A rendering that reaches its record ends with a template or is a failure. -/
theorem result_cases (h : c.reachesRecord = true) :
    (∃ t, c.result = .ok t) ∨
      ∃ f, c.result = .error f ∧ ∀ m, count m c.input.actionMode c.result =
        m.renderFailed c.input.actionMode := by
  unfold Call.reachesRecord at h
  cases hr : c.result with
  | ok t => exact .inl ⟨t, rfl⟩
  | error f =>
    cases f with
    | unencodable _ => exact absurd h (by simp [hr])
    | template f => exact .inr ⟨_, rfl, fun _ => rfl⟩
    | unwritableInteger => exact .inr ⟨_, rfl, fun _ => rfl⟩

/-- A rendering that is counted adds one to the count of its outcome and mode. -/
theorem count_renders (h : c.reachesRecord = true) (m : Metrics) :
    (count m c.input.actionMode c.result).renders = m.renders.bump c.labels := by
  unfold Call.labels Call.outcome
  rcases result_cases h with ⟨t, hr⟩ | ⟨f, hr, hcount⟩
  · rw [hr]
    rfl
  · rw [hcount, hr]
    rfl

theorem count_durations (h : c.reachesRecord = true) (m : Metrics) :
    (count m c.input.actionMode c.result).renderDurations = m.renderDurations + 1 := by
  rcases result_cases h with ⟨t, hr⟩ | ⟨f, -, hcount⟩
  · rw [hr]
    rfl
  · rw [hcount]
    rfl

theorem count_sizes (hc : c.reachesRecord = true) {done : List Call}
    (h : m.templateSizes.Holds sizeBounds (sizes done)) :
    (count m c.input.actionMode c.result).templateSizes.Holds sizeBounds
      (sizes (done ++ [c])) := by
  unfold sizes at h ⊢
  rw [List.filterMap_append]
  unfold Call.size?
  rcases result_cases hc with ⟨t, hr⟩ | ⟨f, hr, hcount⟩
  · rw [show List.filterMap _ [c] = [byteSize t.text] by simp [hr], hr]
    exact Histogram.holds_observe h _
  · rw [show List.filterMap _ [c] = [] by simp [hr], List.append_nil, hcount]
    exact h

/-- A call that is counted joins those that the metrics hold. -/
theorem counted_run {done : List Call} (h : Counted done m) (hc : c.isCounted = true) :
    Counted (done ++ [c]) (c.run m).metrics := by
  have hreach : c.reachesRecord = true := (Bool.and_eq_true_iff.mp hc).2
  rw [run_metrics_of_isCounted hc]
  refine ⟨fun labels => ?_, ?_, count_sizes hreach h.templateSizes⟩
  · rw [count_renders hreach, Tally.count_bump, h.renders, List.countP_append]
    simp
  · rw [count_durations hreach, h.durations, List.length_append, List.length_singleton]

end Step

/-! ## Runs -/

/-- The results of a run are those of its calls, whether or not they are counted. -/
theorem runAll_results (m : Metrics) (calls : List Call) :
    (runAll m calls).1 = calls.map Call.result := by
  induction calls generalizing m with
  | nil => rfl
  | cons c cs ih =>
    rw [List.map_cons, ← ih (c.run m).metrics, ← run_result m c]
    rfl

/-- For the metrics, the calls that are not counted might as well not have been made. -/
theorem runAll_counted (m : Metrics) (calls : List Call) :
    (runAll m calls).2 = (runAll m (counted calls)).2 := by
  unfold counted
  induction calls generalizing m with
  | nil => rfl
  | cons c cs ih =>
    cases hc : c.isCounted with
    | true =>
      rw [List.filter_cons_of_pos hc]
      exact ih (c.run m).metrics
    | false =>
      rw [List.filter_cons_of_neg (by simp [hc])]
      have hstep : (runAll m (c :: cs)).2 = (runAll (c.run m).metrics cs).2 := rfl
      rw [hstep, run_metrics_of_not_isCounted hc]
      exact ih m

/-- The calls of a run join those that the metrics held before. -/
theorem counted_runAll {done calls : List Call} {m : Metrics} (h : Counted done m)
    (hc : ∀ c ∈ calls, c.isCounted = true) : Counted (done ++ calls) (runAll m calls).2 := by
  induction calls generalizing done m with
  | nil =>
    rw [List.append_nil]
    exact h
  | cons c cs ih =>
    rw [List.append_cons]
    exact ih (counted_run h (hc c List.mem_cons_self))
      fun c' hc' => hc c' (List.mem_cons_of_mem c hc')

theorem counted_nil : Counted [] {} :=
  ⟨fun _ => rfl, rfl, Histogram.holds_empty sizeBounds⟩

/-- **The metrics after a run of renderings.** They hold the calls that reached their record while
the metrics were in order: how many ended how in which mode, as many durations as calls, and the
sizes of the templates, by number, sum and bounds. The other calls give the same results as if they
had been counted, and leave every counter as if they had not been made. -/
theorem runAll_counts (calls : List Call) :
    Counted (counted calls) (runAll {} calls).2 ∧
      ∀ m, (runAll m calls).1 = calls.map Call.result ∧
        (runAll m calls).2 = (runAll m (counted calls)).2 := by
  refine ⟨?_, fun m => ⟨runAll_results m calls, runAll_counted m calls⟩⟩
  rw [runAll_counted]
  exact counted_runAll counted_nil fun c hc => (List.mem_filter.mp hc).2

/-- A call with the metrics in order whose alert is named by a lone surrogate. -/
def loneCall : Call where
  circumstances := { lone := [('\uE000', 0xD800)] }
  input :=
    { subscriptionId := "1", alertName := "\uE000", existingActionGroupId := some "/x" }

/-- The call fails, though the metrics are in order, and is counted nowhere. -/
theorem runAll_loneCall :
    loneCall.circumstances.counting = true ∧
      (∃ f, loneCall.result = .error (.unencodable f)) ∧
      (runAll {} [loneCall]).2 = {} := by
  have htemplate : Template.render {} loneCall.input =
      .ok (Template.withReference {} loneCall.input (Bicep.quote "/x")) :=
    Template.render_eq_ok_iff.mpr ⟨_, rfl, rfl⟩
  have hresult : ∃ f, loneCall.result = .error (.unencodable f) :=
    exists_unencodable (compose_eq_ok_iff.mpr ⟨by simp [HasWritableTags, loneCall], htemplate⟩)
      (occurIn_text rfl _)
  have hcounted : loneCall.isCounted = false := by
    obtain ⟨f, hf⟩ := hresult
    rw [Call.isCounted, Call.reachesRecord, hf, Bool.and_false]
  refine ⟨rfl, hresult, ?_⟩
  rw [runAll_counted, counted, List.filter_cons_of_neg (by simp [hcounted])]
  rfl

end Rendering

end HealthAlert
