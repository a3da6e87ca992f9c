import HealthAlert.Proofs.Json.Written
import HealthAlert.Proofs.Value.Documents

/-!
# What the values of texts have in common

The reader makes values of words, numbers and texts, puts them into arrays and objects, and does
nothing else to them. A property that all of this preserves holds of whatever is read
(`Preserved`): so every number with a fraction is one of 64 bits, a repeated key takes the place of
the one before, and there are no tuples, members of enumerations or foreign values.

* `Preserved.token`: the values that single tokens stand for.
* `State.All`: what the machine has read so far; `Preserved.step` keeps it.
* **`Preserved.of_readText`**: the value of a text.
* **`wellFormed_of_readText`**, **`isJson_of_readText`**: two such properties.
-/

namespace HealthAlert.Json

/-- Whatever the reader makes of values with the property has it, too. -/
structure Preserved (P : Value → Prop) : Prop where
  word : ∀ w ∈ words, P w.2
  int : ∀ n, P (.int n)
  float : ∀ negative m e, P (.float (Double.ofScientific negative m e))
  text : ∀ s, P (.text s)
  noItems : P (.list [])
  item : ∀ {v items}, P v → P (.list items) → P (.list (v :: items))
  reversed : ∀ {items}, P (.list items) → P (.list items.reverse)
  noEntries : P (.record [])
  entry : ∀ {es v} key, P (.record es) → P v → P (.record (Keyed.put es key v))

variable {P : Value → Prop} {s s' : State} {t : Located} {ts : List Located} {stack : List Frame}
  {v : Value} {cs : List Char}

/-! ## Tokens -/

namespace Preserved

theorem of_word? (hP : Preserved P) {n : Nat} (h : word? cs = some (v, n)) : P v := by
  obtain ⟨w, hw, heq⟩ := Option.map_eq_some_iff.mp h
  obtain rfl : w.2 = v := congrArg Prod.fst heq
  exact hP.word w (List.mem_of_find?_eq_some hw)

theorem of_number (hP : Preserved P) {n : NumberText} (h : n.token = .word v) : P v := by
  unfold NumberText.token at h
  split at h
  · split at h
    · cases h
    · obtain rfl := Token.word.inj h
      exact hP.int _
  · obtain rfl := Token.word.inj h
    exact hP.float _ _ _

theorem of_tokenAt (hP : Preserved P) {pos : Nat} {c : Char} {rest : List Char}
    (h : (tokenAt pos c rest).1 = .word v) : P v := by
  have hword : (wordToken (c :: rest)).1 = .word v :=
    (wordToken_of_tokenAt (by rw [h]; trivial)).trans h
  unfold wordToken at hword
  split at hword
  · rename_i hw
    obtain rfl := Token.word.inj hword
    exact hP.of_word? hw
  · split at hword
    · exact hP.of_number hword
    · cases hword

/-- The values that the words and numbers of a text stand for. -/
theorem token (hP : Preserved P) {pos skip : Nat} (h : .word v ∈ cut pos skip cs) : P v := by
  obtain ⟨pos, c, rest, -, ht⟩ := exists_tokenAt_of_mem_cut h
  exact hP.of_tokenAt ht

end Preserved

/-! ## The machine -/

/-- What stands in an open array or object has the property. -/
def Frame.All (P : Value → Prop) : Frame → Prop
  | .array items => P (.list items)
  | .object entries _ => P (.record entries)

/-- What the machine has read has the property. -/
def State.All (P : Value → Prop) : State → Prop
  | .value stack | .firstItem stack | .firstKey stack => ∀ f ∈ stack, f.All P
  | .key entries stack | .colon entries _ stack | .afterEntry entries stack =>
    P (.record entries) ∧ ∀ f ∈ stack, f.All P
  | .afterItem items stack => P (.list items) ∧ ∀ f ∈ stack, f.All P
  | .complete v => P v

theorem State.all_startEntry {entries : List (String × Value)} (hentries : P (.record entries))
    (hstack : ∀ f ∈ stack, f.All P) (h : startEntry entries stack t = .ok s) : s.All P := by
  unfold startEntry at h
  split at h <;> cases h
  exact ⟨hentries, hstack⟩

namespace Preserved

variable (hP : Preserved P)
include hP

theorem deliver (hv : P v) (hstack : ∀ f ∈ stack, f.All P) : (Json.deliver v stack).All P := by
  cases stack with
  | nil => exact hv
  | cons f stack =>
    obtain ⟨hf, hrest⟩ := List.forall_mem_cons.mp hstack
    cases f with
    | array items => exact ⟨hP.item hv hf, hrest⟩
    | object entries key => exact ⟨hP.entry key hf hv, hrest⟩

theorem startValue (ht : ∀ v, t.token = .word v → P v) (hstack : ∀ f ∈ stack, f.All P)
    (h : Json.startValue stack t = .ok s) : s.All P := by
  unfold Json.startValue at h
  split at h <;> cases h
  · exact hstack
  · exact hstack
  · exact hP.deliver (hP.text _) hstack
  · exact hP.deliver (ht _ ‹_›) hstack

/-- A step keeps the property of what was read. -/
theorem step (ht : ∀ v, t.token = .word v → P v) (hs : s.All P) (h : Json.step s t = .ok s') :
    s'.All P := by
  unfold Json.step at h
  cases s with
  | value stack => exact hP.startValue ht hs h
  | firstItem stack =>
    simp only at h
    split at h
    · cases h
      exact hP.deliver hP.noItems hs
    · have hopen : (Frame.array []).All P := hP.noItems
      exact hP.startValue ht (List.forall_mem_cons.mpr ⟨hopen, hs⟩) h
  | firstKey stack =>
    simp only at h
    split at h
    · cases h
      exact hP.deliver hP.noEntries hs
    · exact State.all_startEntry hP.noEntries hs h
  | key entries stack => exact State.all_startEntry hs.1 hs.2 h
  | colon entries key stack =>
    simp only at h
    split at h <;> cases h
    exact List.forall_mem_cons.mpr hs
  | afterItem items stack =>
    simp only at h
    split at h <;> cases h
    · exact List.forall_mem_cons.mpr hs
    · exact hP.deliver (hP.reversed hs.1) hs.2
  | afterEntry entries stack =>
    simp only at h
    split at h <;> cases h
    · exact hs
    · exact hP.deliver hs.1 hs.2
  | complete v => cases h

theorem run (ht : ∀ t ∈ ts, ∀ v, t.token = .word v → P v) (hs : s.All P)
    (h : Json.run s ts = .ok s') : s'.All P := by
  induction ts generalizing s with
  | nil =>
    cases h
    exact hs
  | cons t ts ih =>
    obtain ⟨hfirst, hrest⟩ := List.forall_mem_cons.mp ht
    rw [Json.run] at h
    cases hstep : Json.step s t with
    | error e =>
      rw [hstep] at h
      cases h
    | ok next =>
      rw [hstep] at h
      exact ih hrest (hP.step hfirst hs hstep) h

/-- **What is read has the property.** -/
theorem of_readText (h : readText cs = .ok v) : P v := by
  have hrun := readText_eq_ok_iff.mp h
  refine hP.run (fun t ht v hv => ?_) ?_ hrun
  · exact hP.token (List.mem_map.mpr ⟨t, ht, hv⟩)
  · exact fun f hf => absurd hf List.not_mem_nil

end Preserved

/-! ## Properties of what is read -/

theorem preserved_wellFormed : Preserved Value.WellFormed where
  word := by simp [words, Value.WellFormed, Double.WellFormed]
  int _ := trivial
  float _ _ _ := Double.wellFormed_ofScientific _ _ _
  text _ := trivial
  noItems := trivial
  item hv hitems := ⟨hv, hitems⟩
  reversed h := Value.allWellFormed_iff.mpr fun v hv =>
    Value.allWellFormed_iff.mp h v (List.mem_reverse.mp hv)
  noEntries := ⟨List.nodup_nil, trivial⟩
  entry key hes hv := Value.wellFormed_put hes key hv

theorem preserved_isJson : Preserved Value.IsJson where
  word := by simp [words, Value.IsJson]
  int _ := trivial
  float _ _ _ := trivial
  text _ := trivial
  noItems := trivial
  item hv hitems := ⟨hv, hitems⟩
  reversed h := Value.areJson_iff.mpr fun v hv =>
    Value.areJson_iff.mp h v (List.mem_reverse.mp hv)
  noEntries := ⟨List.nodup_nil, trivial⟩
  entry key hes hv := Value.isJson_put hes key hv

/-- **What is read is well formed.** -/
theorem wellFormed_of_readText (h : readText cs = .ok v) : v.WellFormed :=
  preserved_wellFormed.of_readText h

/-- **What is read can be what a JSON text denotes.** -/
theorem isJson_of_readText (h : readText cs = .ok v) : v.IsJson :=
  preserved_isJson.of_readText h

end HealthAlert.Json
