import HealthAlert.Bicep.Emission
import HealthAlert.Proofs.Bicep.OnePass
import HealthAlert.Proofs.Value.LongIntegers
import Mathlib.Data.List.Find

/-!
# Values without a text

A value is refused when one of its nodes is of a kind that no template holds, and the fault names
the type of the first such node. One would expect that every other value has a text; but an integer
with more digits than are written stops the writing too.

* `ofValue?_eq_error_iff`: the fault of reading a value, by induction on the value.
* `Emits`, `emits_value`: where writing stops, by the same induction.
* **`emit_refuses_first`**: the first value that cannot be written stops the writing, in every
  layout; without integers that are too long it is the first refused one.
-/

namespace HealthAlert

namespace Bicep

open Literal

/-- The value is of a kind that no template holds: it is no text, truth value, number, list, tuple
or record. -/
def isRefused : Value → Bool
  | .null => true
  | .foreign _ => true
  | _ => false

/-- The fault names the type of the first refused node. -/
def RefusesFirst (nodes : List Value) (f : RenderFault) : Prop :=
  ∃ x, nodes.find? isRefused = some x ∧ f = .notALiteral x.typeName

theorem not_refusesFirst_nil (f : RenderFault) : ¬ RefusesFirst [] f := by
  rintro ⟨x, hx, -⟩
  exact nomatch hx

theorem refusesFirst_cons_of_not {x : Value} (h : isRefused x = false) (xs : List Value)
    (f : RenderFault) : RefusesFirst (x :: xs) f ↔ RefusesFirst xs f := by
  unfold RefusesFirst
  rw [List.find?_cons_of_neg (by simp [h])]

/-- The first refused node of two lists is that of the first list, if it has one. -/
theorem refusesFirst_append (xs ys : List Value) (f : RenderFault) :
    RefusesFirst (xs ++ ys) f ↔
      RefusesFirst xs f ∨ (∀ g, ¬ RefusesFirst xs g) ∧ RefusesFirst ys f := by
  unfold RefusesFirst
  rw [List.find?_append]
  cases xs.find? isRefused <;> simp

theorem exists_refusesFirst_iff (xs : List Value) :
    (∃ f, RefusesFirst xs f) ↔ ∃ x ∈ xs, isRefused x = true := by
  unfold RefusesFirst
  rw [← List.find?_isSome, Option.isSome_iff_exists]
  constructor
  · rintro ⟨f, x, hx, -⟩
    exact ⟨x, hx⟩
  · rintro ⟨x, hx⟩
    exact ⟨_, x, hx, rfl⟩

/-! ## Faults of reading -/

theorem map_eq_error_iff {ε α β : Type} {x : Except ε α} {g : α → β} {e : ε} :
    x.map g = .error e ↔ x = .error e := by
  cases x <;> simp [Except.map]

/-- A list is refused for its first element, or else for the others. -/
theorem ofItems?_cons_eq_error_iff {v : Value} {vs : List Value} {f : RenderFault} :
    ofItems? (v :: vs) = .error f ↔
      ofValue? v = .error f ∨ (∀ g, ofValue? v ≠ .error g) ∧ ofItems? vs = .error f := by
  rw [ofItems?]
  cases ofValue? v with
  | error g => simp
  | ok l => simp [map_eq_error_iff]

theorem ofEntries?_cons_eq_error_iff {key : String} {v : Value} {es : List (String × Value)}
    {f : RenderFault} :
    ofEntries? ((key, v) :: es) = .error f ↔
      ofValue? v = .error f ∨ (∀ g, ofValue? v ≠ .error g) ∧ ofEntries? es = .error f := by
  rw [ofEntries?]
  cases ofValue? v with
  | error g => simp
  | ok l => simp [map_eq_error_iff]

mutual

/-- **Reading refuses the first refused node.** -/
theorem ofValue?_eq_error_iff :
    ∀ (v : Value) (f : RenderFault), ofValue? v = .error f ↔ RefusesFirst v.nodes f
  | .null, f => by simp [ofValue?, RefusesFirst, Value.nodes, isRefused, Value.typeName, eq_comm]
  | .foreign k, f => by
    simp [ofValue?, RefusesFirst, Value.nodes, isRefused, Value.typeName, eq_comm]
  | .bool _, f => by simp [ofValue?, RefusesFirst, Value.nodes, isRefused]
  | .int _, f => by simp [ofValue?, RefusesFirst, Value.nodes, isRefused]
  | .float _, f => by simp [ofValue?, RefusesFirst, Value.nodes, isRefused]
  | .text _, f => by simp [ofValue?, RefusesFirst, Value.nodes, isRefused]
  | .member _, f => by simp [ofValue?, RefusesFirst, Value.nodes, isRefused]
  | .list vs, f => by
    rw [ofValue?, map_eq_error_iff, Value.nodes, refusesFirst_cons_of_not rfl]
    exact ofItems?_eq_error_iff vs f
  | .tuple vs, f => by
    rw [ofValue?, map_eq_error_iff, Value.nodes, refusesFirst_cons_of_not rfl]
    exact ofItems?_eq_error_iff vs f
  | .record es, f => by
    rw [ofValue?, map_eq_error_iff, Value.nodes, refusesFirst_cons_of_not rfl]
    exact ofEntries?_eq_error_iff es f

theorem ofItems?_eq_error_iff :
    ∀ (vs : List Value) (f : RenderFault),
      ofItems? vs = .error f ↔ RefusesFirst (Value.nodesOfItems vs) f
  | [], f => by simp [ofItems?, Value.nodesOfItems, not_refusesFirst_nil]
  | v :: vs, f => by
    rw [ofItems?_cons_eq_error_iff, Value.nodesOfItems, refusesFirst_append,
      ofItems?_eq_error_iff vs f]
    simp only [ne_eq, ofValue?_eq_error_iff v]

theorem ofEntries?_eq_error_iff :
    ∀ (es : List (String × Value)) (f : RenderFault),
      ofEntries? es = .error f ↔ RefusesFirst (Value.nodesOfFields es) f
  | [], f => by simp [ofEntries?, Value.nodesOfFields, not_refusesFirst_nil]
  | (key, v) :: es, f => by
    rw [ofEntries?_cons_eq_error_iff, Value.nodesOfFields, refusesFirst_append,
      ofEntries?_eq_error_iff es f]
    simp only [ne_eq, ofValue?_eq_error_iff v]

end

/-! ## Faults of writing -/

theorem render_eq_error_iff {indent : String} {threshold : Int} {v : Value} {f : RenderFault} :
    render indent threshold v = .error f ↔ RefusesFirst v.nodes f := by
  rw [render, map_eq_error_iff, ofValue?_eq_error_iff]

/-- The failure that names the type of a value. -/
def refusalOf (x : Value) : Failure :=
  ⟨.render, "Cannot render value of type " ++ x.typeName, [("type", .text x.typeName)]⟩

theorem mapError_eq_error_iff {ε ε' α : Type} {x : Except ε α} {f : ε → ε'} {e' : ε'} :
    x.mapError f = .error e' ↔ ∃ e, x = .error e ∧ f e = e' := by
  cases x with
  | ok a => exact ⟨fun h => absurd h (by rintro ⟨⟩), fun ⟨_, h, _⟩ => absurd h (by simp)⟩
  | error e =>
    constructor
    · rintro ⟨⟩
      exact ⟨e, rfl, rfl⟩
    · rintro ⟨e, ⟨⟩, rfl⟩
      rfl

/-! ## Integers that are too long -/

/-- The value cannot be written: it is of a kind that no template holds, or an integer that is too
long. -/
def isStopping : Value → Bool
  | .int n => isLongInteger n
  | v => isRefused v

/-- What stops the writing at such a value. -/
def stopOf : Value → Stop
  | .int _ => .longInteger
  | v => .refused (.notALiteral v.typeName)

/-- Writing ends at the first node that cannot be written, and without one as it does when integers
may have any length. -/
structure Emits {α : Type} (nodes : List Value) (written : Except RenderFault α)
    (emitted : Except Stop α) : Prop where
  stops : ∀ x, nodes.find? isStopping = some x → emitted = .error (stopOf x)
  ends : nodes.find? isStopping = none → ∃ a, written = .ok a ∧ emitted = .ok a

namespace Emits

variable {α β γ : Type} {xs ys : List Value} {w : Except RenderFault α} {r : Except Stop α}
  {w' : Except RenderFault β} {r' : Except Stop β}

theorem leaf {v : Value} (hstop : isStopping v = true → r = .error (stopOf v))
    (hend : isStopping v = false → ∃ a, w = .ok a ∧ r = .ok a) : Emits [v] w r := by
  cases h : isStopping v with
  | true =>
    have hfind : [v].find? isStopping = some v := List.find?_cons_of_pos h
    refine ⟨fun x hx => ?_, fun hnone => absurd (hfind.symm.trans hnone) (by simp)⟩
    obtain rfl := Option.some.inj (hfind.symm.trans hx)
    exact hstop h
  | false =>
    have hfind : [v].find? isStopping = none := List.find?_cons_of_neg (by simp [h])
    exact ⟨fun x hx => absurd (hfind.symm.trans hx) (by simp), fun _ => hend h⟩

theorem map (h : Emits xs w r) (f : α → β) : Emits xs (w.map f) (r.map f) where
  stops x hx := by rw [h.stops x hx]; rfl
  ends hx := by
    obtain ⟨a, hw, hr⟩ := h.ends hx
    exact ⟨f a, by rw [hw]; rfl, by rw [hr]; rfl⟩

/-- What holds values is never what stops the writing. -/
theorem under {v : Value} (hv : isStopping v = false) (h : Emits xs w r) : Emits (v :: xs) w r := by
  have hfind : (v :: xs).find? isStopping = xs.find? isStopping :=
    List.find?_cons_of_neg (by simp [hv])
  exact ⟨fun x hx => h.stops x (hfind ▸ hx), fun hx => h.ends (hfind ▸ hx)⟩

/-- What is written first stops the writing first. -/
theorem append (h : Emits xs w r) (h' : Emits ys w' r') (f : α → β → γ) :
    Emits (xs ++ ys) (w.bind fun a => w'.map (f a)) (r.bind fun a => r'.map (f a)) where
  stops x hx := by
    rw [List.find?_append] at hx
    cases hfirst : xs.find? isStopping with
    | some y =>
      rw [hfirst, Option.some_or] at hx
      obtain rfl := Option.some.inj hx
      rw [h.stops _ hfirst]
      rfl
    | none =>
      rw [hfirst, Option.none_or] at hx
      obtain ⟨a, -, hr⟩ := h.ends hfirst
      rw [hr, h'.stops x hx]
      rfl
  ends hx := by
    rw [List.find?_append, Option.or_eq_none_iff] at hx
    obtain ⟨a, hw, hr⟩ := h.ends hx.1
    obtain ⟨b, hw', hr'⟩ := h'.ends hx.2
    exact ⟨f a b, by rw [hw, hw']; rfl, by rw [hr, hr']; rfl⟩

end Emits

/-- A scalar stops the writing when it is an integer that is too long. -/
theorem emits_scalar {α : Type} {v : Value} {s : Scalar} (h : Scalar.ofValue? v = some s)
    (f : Scalar → α) : Emits v.nodes (.ok (f s)) (s.writable.map f) := by
  cases v with
  | int n =>
    cases h
    refine Emits.leaf (fun hstop => ?_) fun hend => ⟨f (.int n), rfl, ?_⟩
    · have hlong : isLongInteger n = true := hstop
      rw [Scalar.writable, if_pos hlong]
      rfl
    · have hshort : isLongInteger n = false := hend
      rw [Scalar.writable, hshort]
      rfl
  | bool _ | float _ | text _ | member _ =>
    cases h
    exact Emits.leaf (fun hstop => absurd hstop Bool.false_ne_true) fun _ => ⟨_, rfl, rfl⟩
  | null | foreign _ | list _ | tuple _ | record _ => cases h

mutual

/-- **Writing stops at the first value that cannot be written.** -/
theorem emits_value (threshold : Int) : ∀ (indent : List Char) (v : Value),
    Emits v.nodes (writeValue threshold indent v) (emitChars threshold indent v)
  | _, .null | _, .foreign _ => Emits.leaf (fun _ => rfl) fun h => absurd h.symm Bool.false_ne_true
  | _, .bool _ | _, .int _ | _, .float _ | _, .text _ | _, .member _ =>
    emits_scalar rfl (·.content.toList)
  | indent, .list vs => by
    rw [writeValue, emitChars]
    exact ((emits_values threshold (indent ++ indentStep) vs).map _).under rfl
  | indent, .tuple vs => by
    rw [writeValue, emitChars]
    exact ((emits_values threshold (indent ++ indentStep) vs).map _).under rfl
  | indent, .record es => by
    rw [writeValue, emitChars]
    refine Emits.under rfl ?_
    cases hs : soleScalar? es with
    | some e =>
      obtain ⟨key, s⟩ := e
      obtain ⟨v, rfl, hv⟩ := exists_of_soleScalar? hs
      rw [Value.nodesOfFields, Value.nodesOfFields, List.append_nil]
      exact emits_scalar hv fun s =>
        enclosed '\x7b' '\x7d' [' '] [keyChars key.toList ++ ':' :: ' ' :: s.soleContent.toList]
    | none => exact (emits_fields threshold (indent ++ indentStep) es).map _

theorem emits_values (threshold : Int) : ∀ (indent : List Char) (vs : List Value),
    Emits (Value.nodesOfItems vs) (writeValues threshold indent vs)
      (emitItems threshold indent vs)
  | _, [] => ⟨fun _ h => absurd h (by simp [Value.nodesOfItems]), fun _ => ⟨[], rfl, rfl⟩⟩
  | indent, v :: vs => by
    rw [writeValues_cons, emitItems]
    exact (emits_value threshold indent v).append (emits_values threshold indent vs) (· :: ·)

theorem emits_fields (threshold : Int) : ∀ (indent : List Char) (es : List (String × Value)),
    Emits (Value.nodesOfFields es) (writeFields threshold indent es)
      (emitFields threshold indent es)
  | _, [] => ⟨fun _ h => absurd h (by simp [Value.nodesOfFields]), fun _ => ⟨[], rfl, rfl⟩⟩
  | indent, (key, v) :: es => by
    rw [writeFields_cons, emitFields]
    exact (emits_value threshold indent v).append (emits_fields threshold indent es)
      fun part parts => (keyChars key.toList ++ ':' :: ' ' :: part) :: parts

end

variable {indent : String} {threshold : Int} {v : Value}

theorem emits_emit : Emits v.nodes (render indent threshold v) (emit indent threshold v) := by
  rw [render_eq_writeValue, emit]
  exact (emits_value threshold indent.toList v).map String.ofList

theorem stopOf_of_isRefused {x : Value} (h : isRefused x = true) :
    stopOf x = .refused (.notALiteral x.typeName) := by
  cases x <;> first | rfl | exact absurd h (by simp [isRefused])

theorem emit_eq_error_iff {s : Stop} :
    emit indent threshold v = .error s ↔
      ∃ x, v.nodes.find? isStopping = some x ∧ s = stopOf x := by
  constructor
  · intro h
    cases hx : v.nodes.find? isStopping with
    | some x => exact ⟨x, rfl, Except.error.inj (h.symm.trans (emits_emit.stops x hx))⟩
    | none =>
      obtain ⟨text, -, hok⟩ := emits_emit.ends hx
      exact absurd (h.symm.trans hok) (by simp)
  · rintro ⟨x, hx, rfl⟩
    exact emits_emit.stops x hx

/-- Without integers that are too long, what cannot be written is what is refused. -/
theorem find?_isStopping (h : ¬ v.HoldsLongInteger) :
    v.nodes.find? isStopping = v.nodes.find? isRefused := by
  refine List.find?_congr fun x hx => ?_
  cases x with
  | int n =>
    have hn : isLongInteger n = false :=
      Bool.eq_false_iff.mpr fun hlong => h ⟨n, hx, Value.isLongInteger_iff.mp hlong⟩
    rw [isStopping, hn]
    rfl
  | _ => rfl

/-- Such a value is written as `render` gives its text. -/
theorem emit_eq_render (h : ¬ v.HoldsLongInteger) :
    emit indent threshold v = (render indent threshold v).mapError .refused := by
  cases hx : v.nodes.find? isRefused with
  | none =>
    obtain ⟨text, hrender, hemit⟩ := emits_emit.ends ((find?_isStopping h).trans hx)
    rw [hrender, hemit]
    rfl
  | some x =>
    have hr : isRefused x = true := List.find?_some hx
    have hrender : render indent threshold v = .error (.notALiteral x.typeName) :=
      render_eq_error_iff.mpr ⟨x, hx, rfl⟩
    rw [hrender, emits_emit.stops x ((find?_isStopping h).trans hx), stopOf_of_isRefused hr]
    rfl

/-- **Writing stops at the first value that cannot be written**, whatever the indent and the
threshold. A value in which no integer is too long is refused exactly when it holds a value of a
kind that no template holds; the failure names the type of the first of them, nothing else stops
the writing, and what is written is the text of the value's tree. -/
theorem emit_refuses_first (indent : String) (threshold : Int) (v : Value) :
    (∀ s, emit indent threshold v = .error s ↔
      ∃ x, v.nodes.find? isStopping = some x ∧ s = stopOf x) ∧
    (¬ v.HoldsLongInteger →
      ((∃ s, emit indent threshold v = .error s) ↔ ∃ x ∈ v.nodes, isRefused x = true) ∧
      (∀ g, (∃ f, emit indent threshold v = .error (.refused f) ∧ f.failure = g) ↔
        ∃ x, v.nodes.find? isRefused = some x ∧ g = refusalOf x) ∧
      emit indent threshold v ≠ .error .longInteger ∧
      emit indent threshold v = (render indent threshold v).mapError .refused) := by
  refine ⟨fun s => emit_eq_error_iff, fun h => ?_⟩
  have herror (s : Stop) : emit indent threshold v = .error s ↔
      ∃ f, RefusesFirst v.nodes f ∧ .refused f = s := by
    rw [emit_eq_render h, mapError_eq_error_iff]
    simp only [render_eq_error_iff]
  refine ⟨?_, fun g => ?_, fun hlong => ?_, emit_eq_render h⟩
  · simp only [herror, ← exists_refusesFirst_iff]
    exact ⟨fun ⟨s, f, hf, _⟩ => ⟨f, hf⟩, fun ⟨f, hf⟩ => ⟨.refused f, f, hf, rfl⟩⟩
  · simp only [herror, Stop.refused.injEq, exists_eq_right, RefusesFirst]
    constructor
    · rintro ⟨f, ⟨x, hx, rfl⟩, rfl⟩
      exact ⟨x, hx, rfl⟩
    · rintro ⟨x, hx, rfl⟩
      exact ⟨_, ⟨x, hx, rfl⟩, rfl⟩
  · obtain ⟨f, -, hf⟩ := (herror _).mp hlong
    cases hf

/-- Of two refused values the one that stands first is named, though the second is the shallower. -/
def deepRefused : Value :=
  .record [("a", .list [.int 1, .tuple [.foreign .bytes]]), ("b", .null)]

theorem emit_deepRefused :
    emit "" 2 deepRefused = .error (.refused (.notALiteral "bytes")) ∧
    ∃ f : RenderFault, emit "" 2 deepRefused = .error (.refused f) ∧
      f.failure = refusalOf (.foreign .bytes) := by
  have hshort : ¬ deepRefused.HoldsLongInteger := Value.holdsLong_eq_false_iff.mp (by decide)
  obtain ⟨hstop, hfree⟩ := emit_refuses_first "" 2 deepRefused
  exact ⟨(hstop _).mpr ⟨.foreign .bytes, rfl, rfl⟩,
    ((hfree hshort).2.1 _).mpr ⟨.foreign .bytes, rfl, rfl⟩⟩

/-- An integer that is too long stops the writing, though it is of a kind that a template holds. -/
theorem emit_leastLong :
    emit "" 2 (.int Value.leastLong) = .error .longInteger ∧
      ¬ ∃ x ∈ (Value.int Value.leastLong).nodes, isRefused x = true := by
  refine ⟨emit_eq_error_iff.mpr ⟨.int Value.leastLong, ?_, rfl⟩, ?_⟩
  · exact List.find?_cons_of_pos (p := isStopping) Value.isLongInteger_leastLong
  · rintro ⟨x, hx, hr⟩
    obtain rfl : x = .int Value.leastLong := List.mem_singleton.mp hx
    exact Bool.false_ne_true hr

end Bicep

end HealthAlert
