import HealthAlert.Proofs.Json.Telling

/-!
# What is written is read back

A value that is written, on one line or over several, in ASCII or not, is read back, as long as it
is plain: its text tells the value itself, and no integer in it is too long to be read.

* `Plain`: the values that are read as they were written.
* **`readText_write`**, **`readText_writeIndented`**: what is written is read back.
-/

namespace HealthAlert.Json

variable {cs : List Char} {v : Value}

/-! ## Plain values -/

mutual

/-- The values that are read as they were written: no key is repeated, no integer is too long, and
there is nothing but texts, truth values, integers, nulls, arrays and objects. -/
def Plain : Value → Prop
  | .null | .bool _ | .text _ => True
  | .int n => (Nat.toDigits 10 n.natAbs).length ≤ maxIntegerDigits
  | .list xs => PlainItems xs
  | .record es => (Keyed.keys es).Nodup ∧ PlainEntries es
  | .float _ | .member _ | .tuple _ | .foreign _ => False

/-- All values of a list are plain. -/
def PlainItems : List Value → Prop
  | [] => True
  | x :: xs => Plain x ∧ PlainItems xs

/-- All values of a record are plain. -/
def PlainEntries : List (String × Value) → Prop
  | [] => True
  | (_, v) :: es => Plain v ∧ PlainEntries es

end

mutual

theorem wellFormed_of_plain : ∀ {v : Value}, Plain v → v.WellFormed
  | .null, _ | .bool _, _ | .int _, _ | .text _, _ => trivial
  | .list _, h => allWellFormed_of_plain h
  | .record _, h => ⟨h.1, holdWellFormed_of_plain h.2⟩

theorem allWellFormed_of_plain : ∀ {vs : List Value}, PlainItems vs → Value.AllWellFormed vs
  | [], _ => trivial
  | _ :: _, h => ⟨wellFormed_of_plain h.1, allWellFormed_of_plain h.2⟩

theorem holdWellFormed_of_plain :
    ∀ {es : List (String × Value)}, PlainEntries es → Value.HoldWellFormed es
  | [], _ => trivial
  | (_, _) :: _, h => ⟨wellFormed_of_plain h.1, holdWellFormed_of_plain h.2⟩

end

mutual

/-- A plain value tells itself. -/
theorem told_of_plain : ∀ {v : Value}, Plain v → told v = v
  | .null, _ | .bool _, _ | .text _, _ => rfl
  | .int _, h => if_neg (Nat.not_lt.mpr h)
  | .list _, h => congrArg Value.list (toldItems_of_plain h)
  | .record _, h => congrArg Value.record (toldEntries_of_plain h.2)

theorem toldItems_of_plain : ∀ {xs : List Value}, PlainItems xs → toldItems xs = xs
  | [], _ => rfl
  | _ :: _, h => by rw [toldItems, told_of_plain h.1, toldItems_of_plain h.2]

theorem toldEntries_of_plain : ∀ {es : List (String × Value)}, PlainEntries es → toldEntries es = es
  | [], _ => rfl
  | (_, _) :: _, h => by rw [toldEntries, told_of_plain h.1, toldEntries_of_plain h.2]

end

mutual

theorem short_of_plain : ∀ {v : Value}, Plain v → ∀ n, .int n ∈ v.nodes → Plain (.int n)
  | .null, _ | .bool _, _ | .text _, _ => by simp [Value.nodes]
  | .int n, h => by simpa [Value.nodes] using h
  | .list xs, h => by simpa [Value.nodes] using short_of_plainItems h
  | .record es, h => by simpa [Value.nodes] using short_of_plainEntries h.2

theorem short_of_plainItems : ∀ {xs : List Value}, PlainItems xs →
    ∀ n, .int n ∈ Value.nodesOfItems xs → Plain (.int n)
  | [], _ => by simp [Value.nodesOfItems]
  | _ :: _, h => fun n hn => (List.mem_append.mp hn).elim (short_of_plain h.1 n)
      (short_of_plainItems h.2 n)

theorem short_of_plainEntries : ∀ {es : List (String × Value)}, PlainEntries es →
    ∀ n, .int n ∈ Value.nodesOfFields es → Plain (.int n)
  | [], _ => by simp [Value.nodesOfFields]
  | (_, _) :: _, h => fun n hn => (List.mem_append.mp hn).elim (short_of_plain h.1 n)
      (short_of_plainEntries h.2 n)

end

/-! ## Round trips -/

theorem readText_of_cuts (hv : Plain v) (h : Cuts cs (spelling v)) : readText cs = .ok v := by
  have hshort : ¬ v.HoldsLongInteger := fun ⟨n, hn, hlong⟩ =>
    Nat.not_lt.mpr (short_of_plain hv n hn) hlong
  have houtline := outline_of_cuts (wellFormed_of_plain hv) h
  rw [told_of_plain hv] at houtline
  exact readText_eq_ok_iff_outline.mpr ⟨houtline, mt (hasLongInteger_of_cuts h).mp hshort⟩

/-- **What is written on one line is read back.** -/
theorem readText_write {style : Style} (hr : style.Regular) (hv : Plain v) :
    readText (write style v).toList = .ok v := by
  rw [write, String.toList_ofList]
  exact readText_of_cuts hv (cuts_writeChars hr (wellFormed_of_plain hv))

/-- **What is written over several lines is read back.** -/
theorem readText_writeIndented (hv : Plain v) : readText (writeIndented v).toList = .ok v := by
  rw [writeIndented, String.toList_ofList]
  exact readText_of_cuts hv (cuts_indentedChars 0 (wellFormed_of_plain hv))

end HealthAlert.Json
