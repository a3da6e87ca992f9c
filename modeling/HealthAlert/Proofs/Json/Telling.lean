import HealthAlert.Proofs.Json.LongIntegers
import HealthAlert.Proofs.Json.Written
import HealthAlert.Proofs.Value.Keyed
import HealthAlert.Proofs.Value.LongIntegers

/-!
# What the text of a value tells

The tokens of a value that is written lead the machine to what the text tells (`told`): the value
itself, but for members of enumerations and foreign values, which are told as texts, and tuples,
which are told as lists.

* `Leads`: the state to which tokens lead the machine, wherever they stand.
* `leads_spelling`: the tokens of a value lead to what they tell.
* **`outline_of_cuts`**: what a text tells when its integers may have any number of digits.
* **`hasLongInteger_of_cuts`**: an integer in it is too long when one in the value is.
-/

namespace HealthAlert

namespace Json

variable {cs : List Char} {ts us : List Token} {t : Token}

/-! ## What is told -/

mutual

/-- What the text of a value tells: a zero stands for an integer that is too long. -/
def told : Value → Value
  | .int n => if maxIntegerDigits < (Nat.toDigits 10 n.natAbs).length then .int 0 else .int n
  | .member m => .text m.text
  | .foreign k => .text k.display
  | .list xs => .list (toldItems xs)
  | .tuple xs => .list (toldItems xs)
  | .record es => .record (toldEntries es)
  | .null => .null
  | .bool b => .bool b
  | .float x => .float x
  | .text s => .text s

/-- What the elements tell. -/
def toldItems : List Value → List Value
  | [] => []
  | x :: xs => told x :: toldItems xs

/-- What the entries tell, each under its key. -/
def toldEntries : List (String × Value) → List (String × Value)
  | [] => []
  | (k, v) :: es => (k, told v) :: toldEntries es

end

/-! ## From tokens to values -/

/-- The tokens lead the machine from one state to another, wherever they stand. -/
def Leads (ts : List Token) (s s' : State) : Prop :=
  ∀ ls : List Located, ls.map Located.token = ts → run s ls = .ok s'

section Machine

variable {s s₁ s₂ : State} {stack : List Frame}

theorem leads_nil (s : State) : Leads [] s s := by
  intro ls h
  rw [List.map_eq_nil_iff.mp h]
  rfl

theorem Leads.cons (hstep : ∀ start, step s ⟨t, start⟩ = .ok s₁) (h : Leads ts s₁ s₂) :
    Leads (t :: ts) s s₂ := by
  intro ls hls
  obtain ⟨l, rest, rfl, rfl, hrest⟩ := List.map_eq_cons_iff.mp hls
  rw [run, show step s l = .ok s₁ from hstep l.start]
  exact h rest hrest

theorem run_append {ls ls' : List Located} (h : run s ls = .ok s₁) :
    run s (ls ++ ls') = run s₁ ls' := by
  induction ls generalizing s with
  | nil => rw [← Except.ok.inj h]; rfl
  | cons l ls ih =>
    rw [run] at h
    rw [List.cons_append, run]
    cases hstep : step s l with
    | ok next =>
      rw [hstep] at h
      exact ih h
    | error e =>
      rw [hstep] at h
      exact absurd h (by simp)

theorem Leads.append (h : Leads ts s s₁) (h' : Leads us s₁ s₂) : Leads (ts ++ us) s s₂ := by
  intro ls hls
  obtain ⟨ls₁, ls₂, rfl, h₁, h₂⟩ := List.map_eq_append_iff.mp hls
  rw [run_append (h ls₁ h₁)]
  exact h' ls₂ h₂

/-- The first element of an array is read as any other value. -/
theorem Leads.firstItem (h : Leads (t :: ts) (.value (.array [] :: stack)) s)
    (ht : t ≠ .closeBracket) : Leads (t :: ts) (.firstItem stack) s := by
  intro ls hls
  have hrun := h ls hls
  obtain ⟨l, rest, rfl, rfl, -⟩ := List.map_eq_cons_iff.mp hls
  have hstep : step (.firstItem stack) l = step (.value (.array [] :: stack)) l := by
    unfold step
    dsimp only
    split
    · exact absurd ‹_› ht
    · rfl
  rwa [run, hstep]

/-- The first key of an object is read as any other key. -/
theorem Leads.firstKey {key : String} (h : Leads (.text key :: ts) (.key [] stack) s) :
    Leads (.text key :: ts) (.firstKey stack) s := by
  intro ls hls
  have hrun := h ls hls
  obtain ⟨⟨token, start⟩, rest, rfl, rfl, -⟩ := List.map_eq_cons_iff.mp hls
  exact hrun

theorem not_mem_of_nodup {before es : List (String × Value)} {key : String} {v : Value}
    (h : (Keyed.keys (before ++ (key, v) :: es)).Nodup) : key ∉ Keyed.keys before := by
  rw [Keyed.keys, List.map_append, List.nodup_append] at h
  exact fun hmem => h.2.2 key hmem key (by simp) rfl

/-- No value starts with the end of an array. -/
theorem spelling_head (v : Value) :
    ∃ t ts, spelling v = t :: ts ∧ t.shortened ≠ .closeBracket := by
  cases v with
  | int n =>
    refine ⟨_, _, rfl, ?_⟩
    simp only [integerToken]
    split <;> simp [Token.shortened]
  | _ => exact ⟨_, _, rfl, by simp [Token.shortened]⟩

theorem itemsSpelling_head (x : Value) (xs : List Value) :
    ∃ t ts, itemsSpelling (x :: xs) = t :: ts ∧ t.shortened ≠ .closeBracket := by
  obtain ⟨t, ts, hts, ht⟩ := spelling_head x
  cases xs with
  | nil => exact ⟨t, ts, hts, ht⟩
  | cons y ys =>
    have hrest : itemsSpelling (x :: y :: ys) = spelling x ++ .comma :: itemsSpelling (y :: ys) :=
      rfl
    exact ⟨t, ts ++ .comma :: itemsSpelling (y :: ys), by rw [hrest, hts, List.cons_append], ht⟩

theorem entriesSpelling_head (k : String) (v : Value) (es : List (String × Value)) :
    ∃ ts, entriesSpelling ((k, v) :: es) = .text k :: ts := by
  cases es <;> exact ⟨_, rfl⟩

theorem leads_single (hstep : ∀ start, step s ⟨t, start⟩ = .ok s₁) : Leads [t] s s₁ :=
  (leads_nil s₁).cons hstep

theorem toldEntries_eq_map (es : List (String × Value)) :
    toldEntries es = es.map fun e => (e.1, told e.2) := by
  induction es with
  | nil => rfl
  | cons e es ih => exact congrArg ((e.1, told e.2) :: ·) ih

theorem keys_toldEntries (es : List (String × Value)) :
    Keyed.keys (toldEntries es) = Keyed.keys es := by
  induction es with
  | nil => rfl
  | cons e es ih => exact congrArg (e.1 :: ·) ih

theorem shortened_integerToken (n : Int) : (integerToken n).shortened = .word (told (.int n)) := by
  unfold integerToken told
  simp only
  split <;> rfl

/-- An array is read element by element. -/
theorem leads_array {xs : List Value} (hitems : xs ≠ [] → ∀ items stack,
      Leads ((itemsSpelling xs).map Token.shortened) (.value (.array items :: stack))
        (.afterItem ((toldItems xs).reverse ++ items) stack)) (stack : List Frame) :
    Leads ((spelling (.list xs)).map Token.shortened) (.value stack)
      (deliver (.list (toldItems xs)) stack) := by
  cases xs with
  | nil => exact (leads_single fun _ => rfl).cons fun _ => rfl
  | cons x xs =>
    obtain ⟨t, ts, hts, ht⟩ := itemsSpelling_head x xs
    have hfirst := hitems (List.cons_ne_nil x xs) [] stack
    rw [hts, List.map_cons, List.append_nil] at hfirst
    have hclose : Leads [.closeBracket] (.afterItem (toldItems (x :: xs)).reverse stack)
        (deliver (.list (toldItems (x :: xs))) stack) := by
      refine leads_single fun _ => ?_
      rw [step, List.reverse_reverse]
    simp only [spelling, hts, List.map_cons, List.map_append, List.map_nil]
    exact ((hfirst.firstItem ht).append hclose).cons fun _ => rfl

/-- An object is read entry by entry. -/
theorem leads_object {es : List (String × Value)} (hentries : es ≠ [] → ∀ stack,
      Leads ((entriesSpelling es).map Token.shortened) (.key [] stack)
        (.afterEntry (toldEntries es) stack)) (stack : List Frame) :
    Leads ((spelling (.record es)).map Token.shortened) (.value stack)
      (deliver (.record (toldEntries es)) stack) := by
  cases es with
  | nil => exact (leads_single fun _ => rfl).cons fun _ => rfl
  | cons e es =>
    obtain ⟨ts, hts⟩ := entriesSpelling_head e.1 e.2 es
    have hfirst := hentries (List.cons_ne_nil e es) stack
    rw [hts, List.map_cons] at hfirst
    simp only [spelling, hts, List.map_cons, List.map_append, List.map_nil]
    exact (hfirst.firstKey.append (leads_single fun _ => rfl)).cons fun _ => rfl

mutual

/-- **The tokens of a value lead to what they tell.** -/
theorem leads_spelling : ∀ {v : Value}, v.WellFormed → ∀ stack,
    Leads ((spelling v).map Token.shortened) (.value stack) (deliver (told v) stack)
  | .null, _, _ | .bool _, _, _ | .float _, _, _ | .text _, _, _ | .member _, _, _
  | .foreign _, _, _ => leads_single fun _ => rfl
  | .int n, _, _ => by
    rw [spelling, List.map_singleton, shortened_integerToken]
    exact leads_single fun _ => rfl
  | .list _, hv, stack | .tuple _, hv, stack =>
    leads_array (fun hne => leads_itemsSpelling hv hne) stack
  | .record _, hv, stack =>
    leads_object (fun hne stack => leads_entriesSpelling hv.2 hne [] stack hv.1) stack

theorem leads_itemsSpelling : ∀ {xs : List Value}, Value.AllWellFormed xs → xs ≠ [] →
    ∀ items stack, Leads ((itemsSpelling xs).map Token.shortened) (.value (.array items :: stack))
      (.afterItem ((toldItems xs).reverse ++ items) stack)
  | [], _, hne, _, _ => absurd rfl hne
  | [_], h, _, _, _ => leads_spelling h.1 _
  | x :: y :: xs, h, _, items, stack => by
    have hrest := leads_itemsSpelling h.2 (List.cons_ne_nil y xs) (told x :: items) stack
    rw [toldItems, List.reverse_cons, List.append_assoc, List.singleton_append, itemsSpelling,
      List.map_append, List.map_cons]
    · exact (leads_spelling h.1 _).append (hrest.cons fun _ => rfl)
    · simp

theorem leads_entriesSpelling : ∀ {es : List (String × Value)}, Value.HoldWellFormed es → es ≠ [] →
    ∀ before stack, (Keyed.keys (before ++ es)).Nodup →
      Leads ((entriesSpelling es).map Token.shortened) (.key before stack)
        (.afterEntry (before ++ toldEntries es) stack)
  | [], _, hne, _, _, _ => absurd rfl hne
  | [(k, v)], h, _, before, stack, hnodup => by
    have hvalue := leads_spelling h.1 (.object before k :: stack)
    rw [deliver, Keyed.put_of_not_mem (not_mem_of_nodup hnodup) _] at hvalue
    exact (hvalue.cons fun _ => rfl).cons fun _ => rfl
  | (k, v) :: e :: es, h, _, before, stack, hnodup => by
    have hvalue := leads_spelling h.1 (.object before k :: stack)
    rw [deliver, Keyed.put_of_not_mem (not_mem_of_nodup hnodup) _] at hvalue
    have hkeys : (Keyed.keys ((before ++ [(k, told v)]) ++ e :: es)).Nodup := by
      simpa [Keyed.keys] using hnodup
    have hrest := leads_entriesSpelling h.2 (List.cons_ne_nil e es) (before ++ [(k, told v)]) stack
      hkeys
    rw [List.append_assoc, List.singleton_append] at hrest
    rw [toldEntries, entriesSpelling, List.map_cons, List.map_cons, List.map_append, List.map_cons]
    · exact ((hvalue.append (hrest.cons fun _ => rfl)).cons fun _ => rfl).cons fun _ => rfl
    · simp

end

end Machine

/-! ## Integers that are too long -/

theorem integerToken_eq_longInteger_iff {n : Int} {k : Nat} :
    integerToken n = .longInteger k ↔
      maxIntegerDigits < (Nat.toDigits 10 n.natAbs).length ∧
        (Nat.toDigits 10 n.natAbs).length = k := by
  unfold integerToken
  simp only
  split
  · simp [*]
  · simp [*]

mutual

/-- The tokens that cannot be read for their length are those of integers that are too long. -/
theorem longInteger_mem_spelling {k : Nat} : ∀ v : Value,
    .longInteger k ∈ spelling v ↔ ∃ n, .int n ∈ v.nodes ∧ integerToken n = .longInteger k
  | .null | .bool _ | .float _ | .text _ | .member _ | .foreign _ => by simp [spelling, Value.nodes]
  | .int n => by simp [spelling, Value.nodes, eq_comm]
  | .list xs | .tuple xs => by
    simp [spelling, Value.nodes, longInteger_mem_itemsSpelling xs]
  | .record es => by
    simp [spelling, Value.nodes, longInteger_mem_entriesSpelling es]

theorem longInteger_mem_itemsSpelling {k : Nat} : ∀ xs : List Value,
    .longInteger k ∈ itemsSpelling xs ↔
      ∃ n, .int n ∈ Value.nodesOfItems xs ∧ integerToken n = .longInteger k
  | [] => by simp [itemsSpelling, Value.nodesOfItems]
  | [x] => by
    simp [itemsSpelling, Value.nodesOfItems, longInteger_mem_spelling x]
  | x :: y :: xs => by
    rw [itemsSpelling, Value.nodesOfItems]
    · simp [longInteger_mem_spelling x, longInteger_mem_itemsSpelling (y :: xs),
        or_and_right, exists_or]
    · simp

theorem longInteger_mem_entriesSpelling {k : Nat} : ∀ es : List (String × Value),
    .longInteger k ∈ entriesSpelling es ↔
      ∃ n, .int n ∈ Value.nodesOfFields es ∧ integerToken n = .longInteger k
  | [] => by simp [entriesSpelling, Value.nodesOfFields]
  | [(_, v)] => by
    simp [entriesSpelling, Value.nodesOfFields, longInteger_mem_spelling v]
  | (_, v) :: e :: es => by
    rw [entriesSpelling, Value.nodesOfFields]
    · simp [longInteger_mem_spelling v, longInteger_mem_entriesSpelling (e :: es),
        or_and_right, exists_or]
    · simp

end

variable {v : Value}

/-- **An integer in the text of a value is too long when one in the value is.** -/
theorem hasLongInteger_of_cuts (h : Cuts cs (spelling v)) :
    HasLongInteger cs ↔ v.HoldsLongInteger := by
  unfold HasLongInteger Value.HoldsLongInteger
  rw [h.cut_eq]
  simp only [longInteger_mem_spelling, integerToken_eq_longInteger_iff]
  constructor
  · rintro ⟨k, n, hn, hlong, -⟩
    exact ⟨n, hn, hlong⟩
  · rintro ⟨n, hn, hlong⟩
    exact ⟨_, n, hn, hlong, rfl⟩

/-! ## Texts -/

/-- **What the text of a value tells.** -/
theorem outline_of_cuts (hv : v.WellFormed) (h : Cuts cs (spelling v)) :
    outline cs = .ok (told v) :=
  outline_of_cut h.cut_eq (leads_spelling hv [] _ (by rw [List.map_map]; rfl))

end Json

end HealthAlert
