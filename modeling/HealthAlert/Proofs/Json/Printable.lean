import HealthAlert.Proofs.Decimal.Characters
import HealthAlert.Proofs.Json.Spelling
import HealthAlert.Proofs.Text.Ascii

/-!
# The characters that are written

Everything but texts is written in digits, letters, points and signs, which are printable ASCII
characters. A text and a key are written by escapes of such characters or as they stand, and in a
style of ASCII characters by escapes alone. So no line break stands in what is written, wherever the
value's own texts have them, and only their characters can be beyond ASCII.

* `isPrintable_or_of_mem_writeChar`: how a character of a text is written.
* `Value.Spelt`: what all characters of a value's texts have in common.
* **`forall_mem_writeChars`**: how a value is written.
* **`isPrintable_of_mem_writeChars`**: in a style of ASCII characters it is written in printable
  ones.
-/

namespace HealthAlert

namespace Json

open Ascii (IsPrintable isPrintable_iff isPrintable_of_all)

variable {c d : Char}

/-! ## Texts -/

theorem isPrintable_of_mem_escapedCode {n : Nat} (h : d ∈ escapedCode n) : IsPrintable d := by
  have hdigits : ∀ i < 16, IsPrintable (Nat.digitChar i) := by decide
  rcases List.mem_cons.mp h with rfl | h
  · decide
  · rcases List.mem_cons.mp h with rfl | h
    · decide
    · obtain ⟨i, -, rfl⟩ := List.mem_map.mp h
      exact hdigits _ (Nat.mod_lt _ (by decide))

theorem isPrintable_of_mem_escapedChar (h : d ∈ escapedChar c) : IsPrintable d := by
  unfold escapedChar at h
  split at h
  · exact isPrintable_of_mem_escapedCode h
  · exact (List.mem_append.mp h).elim isPrintable_of_mem_escapedCode isPrintable_of_mem_escapedCode

/-- **A character of a text is written in printable ones, or as it stands** where the style has more
than ASCII characters. -/
theorem isPrintable_or_of_mem_writeChar {asciiOnly : Bool} (h : d ∈ writeChar asciiOnly c) :
    IsPrintable d ∨ asciiOnly = false ∧ d = c := by
  have hpair {e : Char} (h : d ∈ ['\\', e]) (he : IsPrintable e) : IsPrintable d := by
    simp only [List.mem_cons, List.not_mem_nil, or_false] at h
    rcases h with rfl | rfl
    · decide
    · exact he
  unfold writeChar at h
  -- The characters that have an escape of their own.
  iterate 7
    split at h
    · exact Or.inl (hpair h (by decide))
  split at h
  · exact Or.inl (isPrintable_of_mem_escapedCode h)
  · split at h
    · exact Or.inl (isPrintable_of_mem_escapedChar h)
    · rename_i hcontrol hascii
      obtain rfl := List.mem_singleton.mp h
      cases asciiOnly with
      | false => exact Or.inr ⟨rfl, rfl⟩
      | true =>
        simp only [Bool.true_and, decide_eq_true_eq] at hascii
        rw [isPrintable_iff]
        omega

/-- A text is written in characters that have a property when printable ones have it, and its own
where they may stand. -/
theorem forall_mem_writeText {p : Char → Prop} (hp : ∀ c, IsPrintable c → p c) {asciiOnly : Bool}
    {s : String} (hs : asciiOnly = true ∨ ∀ c ∈ s.toList, p c) :
    ∀ c ∈ writeText asciiOnly s, p c := by
  refine List.forall_mem_cons.mpr ⟨hp _ (by decide), List.forall_mem_append.mpr
    ⟨fun d hd => ?_, List.forall_mem_singleton.mpr (hp _ (by decide))⟩⟩
  obtain ⟨c, hc, hd⟩ := List.mem_flatMap.mp hd
  rcases isPrintable_or_of_mem_writeChar hd with hd | ⟨hmore, rfl⟩
  · exact hp d hd
  · exact hs.resolve_left (by simp [hmore]) d hc

/-! ## Numbers -/

theorem isPrintable_of_isNumeralChar (h : Decimal.isNumeralChar c = true) : IsPrintable c := by
  rcases Bool.or_eq_true_iff.mp h with h | h
  · exact Ascii.isPrintable_of_isAlphanum h
  · simp only [List.contains_cons, List.contains_nil, Bool.or_false, Bool.or_eq_true, beq_iff_eq]
      at h
    rcases h with rfl | rfl | rfl <;> decide

theorem isPrintable_of_mem_int {n : Int} (h : d ∈ (toString n).toList) : IsPrintable d := by
  rw [Decimal.toList_toString_int] at h
  rcases List.mem_append.mp h with h | h
  · split at h
    · obtain rfl := List.mem_singleton.mp h
      decide
    · exact absurd h List.not_mem_nil
  · exact isPrintable_of_isNumeralChar (Decimal.isNumeralChar_of_mem_toDigits h)

theorem isPrintable_of_mem_writeDouble {x : Double} (h : d ∈ writeDouble x) : IsPrintable d := by
  cases x with
  | nan => exact isPrintable_of_all _ (by decide) d h
  | infinite negative =>
    cases negative with
    | false => exact isPrintable_of_all _ (by decide) d h
    | true => exact isPrintable_of_all _ (by decide) d h
  | finite negative m e => exact isPrintable_of_isNumeralChar (Double.isNumeralChar_of_mem_text h)

/-! ## Values -/

end Json

namespace Value

mutual

/-- The characters of all texts and keys of a value have the property. -/
def Spelt (p : Char → Prop) : Value → Prop
  | .text s => ∀ c ∈ s.toList, p c
  | .member m => ∀ c ∈ m.text.toList, p c
  | .foreign k => ∀ c ∈ k.display.toList, p c
  | .list xs => AllSpelt p xs
  | .tuple xs => AllSpelt p xs
  | .record es => EntriesSpelt p es
  | .null | .bool _ | .int _ | .float _ => True

/-- The characters of all texts of the elements have the property. -/
def AllSpelt (p : Char → Prop) : List Value → Prop
  | [] => True
  | x :: xs => Spelt p x ∧ AllSpelt p xs

/-- The characters of all texts and keys of the entries have the property. -/
def EntriesSpelt (p : Char → Prop) : List (String × Value) → Prop
  | [] => True
  | (k, v) :: es => (∀ c ∈ k.toList, p c) ∧ Spelt p v ∧ EntriesSpelt p es

end

theorem allSpelt_iff {p : Char → Prop} {xs : List Value} :
    AllSpelt p xs ↔ ∀ x ∈ xs, x.Spelt p := by
  induction xs with
  | nil => simp [AllSpelt]
  | cons x xs ih => simp [AllSpelt, ih]

end Value

namespace Json

open Ascii (IsPrintable isPrintable_of_all)

/-- The separators of the style are printable. -/
structure Style.Plain (style : Style) : Prop where
  items : ∀ c ∈ style.itemSeparator, IsPrintable c
  keys : ∀ c ∈ style.keySeparator, IsPrintable c

theorem plain_spaced : spaced.Plain :=
  ⟨isPrintable_of_all _ (by decide), isPrintable_of_all _ (by decide)⟩

theorem plain_compact : compact.Plain :=
  ⟨isPrintable_of_all _ (by decide), isPrintable_of_all _ (by decide)⟩

variable {p : Char → Prop} (hp : ∀ c, IsPrintable c → p c)
include hp

theorem forall_mem_of_all (cs : List Char) (h : (cs.all fun c => decide (IsPrintable c)) = true) :
    ∀ c ∈ cs, p c :=
  fun c hc => hp c (isPrintable_of_all cs h c hc)

theorem forall_mem_enclosed {before after : Char} {cs : List Char} (hbefore : IsPrintable before)
    (hafter : IsPrintable after) (h : ∀ c ∈ cs, p c) : ∀ c ∈ before :: (cs ++ [after]), p c :=
  List.forall_mem_cons.mpr ⟨hp _ hbefore, List.forall_mem_append.mpr
    ⟨h, List.forall_mem_singleton.mpr (hp _ hafter)⟩⟩

mutual

/-- **A value is written in printable characters and in those of its texts**, the latter where the
style has more than ASCII characters. -/
theorem forall_mem_writeChars {style : Style} (hs : style.Plain) :
    ∀ v : Value, style.asciiOnly = true ∨ v.Spelt p → ∀ c ∈ writeChars style v, p c
  | .list xs, hv | .tuple xs, hv =>
    forall_mem_enclosed hp (by decide) (by decide) (forall_mem_writeItems hs xs hv)
  | .record es, hv =>
    forall_mem_enclosed hp (by decide) (by decide) (forall_mem_writeEntries hs es hv)
  | .null, _ => forall_mem_of_all hp "null".toList (by decide)
  | .bool false, _ => forall_mem_of_all hp "false".toList (by decide)
  | .bool true, _ => forall_mem_of_all hp "true".toList (by decide)
  | .int _, _ => fun c h => hp c (isPrintable_of_mem_int h)
  | .float _, _ => fun c h => hp c (isPrintable_of_mem_writeDouble h)
  | .text _, hv | .member _, hv | .foreign _, hv => forall_mem_writeText hp hv

theorem forall_mem_writeItems {style : Style} (hs : style.Plain) :
    ∀ xs : List Value, style.asciiOnly = true ∨ Value.AllSpelt p xs →
      ∀ c ∈ writeItems style xs, p c
  | [], _ => List.forall_mem_nil _
  | [x], hv => forall_mem_writeChars hs x (hv.imp_right And.left)
  | x :: y :: xs, hv => List.forall_mem_append.mpr
      ⟨forall_mem_writeChars hs x (hv.imp_right And.left),
        List.forall_mem_append.mpr ⟨fun c hc => hp c (hs.items c hc),
          forall_mem_writeItems hs (y :: xs) (hv.imp_right And.right)⟩⟩

theorem forall_mem_writeEntries {style : Style} (hs : style.Plain) :
    ∀ es : List (String × Value), style.asciiOnly = true ∨ Value.EntriesSpelt p es →
      ∀ c ∈ writeEntries style es, p c
  | [], _ => List.forall_mem_nil _
  | [(_, v)], hv => List.forall_mem_append.mpr
      ⟨forall_mem_writeText hp (hv.imp_right And.left),
        List.forall_mem_append.mpr ⟨fun c hc => hp c (hs.keys c hc),
          forall_mem_writeChars hs v (hv.imp_right fun h => h.2.1)⟩⟩
  | (_, v) :: e :: es, hv => List.forall_mem_append.mpr
      ⟨forall_mem_writeText hp (hv.imp_right And.left),
        List.forall_mem_append.mpr ⟨fun c hc => hp c (hs.keys c hc),
          List.forall_mem_append.mpr
            ⟨forall_mem_writeChars hs v (hv.imp_right fun h => h.2.1),
              List.forall_mem_append.mpr ⟨fun c hc => hp c (hs.items c hc),
                forall_mem_writeEntries hs (e :: es) (hv.imp_right fun h => h.2.2)⟩⟩⟩⟩

end

omit hp

/-- **In a style of ASCII characters a value is written in printable ones.** -/
theorem isPrintable_of_mem_writeChars {style : Style} (hs : style.Plain)
    (hascii : style.asciiOnly = true) (v : Value) : ∀ c ∈ writeChars style v, IsPrintable c :=
  forall_mem_writeChars (fun _ h => h) hs v (Or.inl hascii)

end Json

end HealthAlert
