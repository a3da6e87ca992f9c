import HealthAlert.Text.Surrogates

/-!
# Texts that have UTF-8

A text has no UTF-8 when one of its characters stands for a lone surrogate. Without stand-ins every
text has it.

* `encodingFault?_eq_none_iff`: the search for a fault finds one exactly when a stand-in occurs.
* `encodingFault?_nil`: without stand-ins there is none.
-/

namespace HealthAlert.Text

variable {lone : StandIns}

theorem occurIn_nil (s : String) : StandIns.occurIn [] s = false :=
  List.any_eq_false.mpr fun _ _ => Bool.false_ne_true

theorem occurIn_iff {s : String} :
    lone.occurIn s = true ↔ ∃ c ∈ s.toList, (lone.code? c).isSome = true := by
  rw [StandIns.occurIn, List.any_eq_true]

theorem encodingFaultFrom_eq_none_iff (pos : Nat) (cs : List Char) :
    encodingFaultFrom lone pos cs = none ↔ ∀ c ∈ cs, lone.code? c = none := by
  induction cs generalizing pos with
  | nil => simp [encodingFaultFrom]
  | cons c rest ih =>
    rw [encodingFaultFrom, List.forall_mem_cons]
    cases lone.code? c with
    | none => simp [ih]
    | some code => simp

theorem encodingFault?_eq_none_iff {s : String} :
    encodingFault? lone s = none ↔ lone.occurIn s = false := by
  rw [encodingFault?, encodingFaultFrom_eq_none_iff, StandIns.occurIn, List.any_eq_false]
  simp only [Bool.not_eq_true, Option.isSome_eq_false_iff, Option.isNone_iff_eq_none]

theorem encodingFault?_nil (s : String) : encodingFault? [] s = none :=
  encodingFault?_eq_none_iff.mpr (occurIn_nil s)

end HealthAlert.Text
