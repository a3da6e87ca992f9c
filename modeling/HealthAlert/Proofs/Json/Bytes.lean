import HealthAlert.Json.Encoding
import HealthAlert.Proofs.Json.Whole

/-!
# JSON in UTF-8

Bytes that are UTF-8 without a byte order mark, and spell a JSON text, are recognized as UTF-8:
their encoding is told by zero bytes among the first four, and no such text holds a null character.

* `decodeFrom_cons`: the first character, and how the bytes go on.
* `zero_not_mem_of_decode`: zero bytes are null characters.
* **`Encoding.detect_of_decode`**: the encoding of the bytes is recognized.
-/

namespace HealthAlert

/-! ## UTF-8 -/

namespace Text.Utf8

variable {pos : Nat} {read cs : List Char} {a : UInt8} {r bytes : List UInt8}

theorem isContinuation_of_followsInThree {b : UInt8} (h : followsInThree a b = true) :
    isContinuation b = true := by
  unfold followsInThree at h
  exact (Bool.and_eq_true_iff.mp h).1

theorem isContinuation_of_followsInFour {b : UInt8} (h : followsInFour a b = true) :
    isContinuation b = true := by
  unfold followsInFour at h
  exact (Bool.and_eq_true_iff.mp h).1

/-- What the first byte begins: a character of its own, or one of several bytes. -/
theorem decodeFrom_cons (h : decodeFrom pos read (a :: r) = .ok cs) :
    ∃ pos' c front rest, r = front ++ rest ∧ decodeFrom pos' (c :: read) rest = .ok cs ∧
      ((a < 0x80 ∧ front = [] ∧ c = Char.ofNat a.toNat) ∨
        (0xC2 ≤ a ∧ a < 0xF5 ∧ ∀ b ∈ front, isContinuation b = true)) := by
  unfold decodeFrom at h
  split at h
  · exact ⟨_, _, [], r, rfl, h, Or.inl ⟨‹_›, rfl, rfl⟩⟩
  · split at h
    · exact absurd h (by simp)
    · have hstart : 0xC2 ≤ a := UInt8.not_lt.mp ‹_›
      split at h
      · have hend : a < 0xF5 := UInt8.lt_of_lt_of_le ‹a < 0xE0› (by decide)
        split at h
        · exact absurd h (by simp)
        · rename_i b rest
          split at h
          · exact ⟨_, _, [b], rest, rfl, h, Or.inr ⟨hstart, hend, by simpa⟩⟩
          · exact absurd h (by simp)
      · split at h
        · have hend : a < 0xF5 := UInt8.lt_of_lt_of_le ‹a < 0xF0› (by decide)
          split at h
          · exact absurd h (by simp)
          · rename_i b rest
            split at h
            · exact absurd h (by simp)
            · rename_i hfollows
              have hb := isContinuation_of_followsInThree (by simpa using hfollows)
              split at h
              · exact absurd h (by simp)
              · rename_i c rest
                split at h
                · exact ⟨_, _, [b, c], rest, rfl, h, Or.inr ⟨hstart, hend, by simpa [hb]⟩⟩
                · exact absurd h (by simp)
        · split at h
          · split at h
            · exact absurd h (by simp)
            · rename_i b rest
              split at h
              · exact absurd h (by simp)
              · rename_i hfollows
                have hb := isContinuation_of_followsInFour (by simpa using hfollows)
                split at h
                · exact absurd h (by simp)
                · rename_i c rest
                  split at h
                  · exact absurd h (by simp)
                  · rename_i hc
                    split at h
                    · exact absurd h (by simp)
                    · rename_i d rest
                      split at h
                      · exact ⟨_, _, [b, c, d], rest, rfl, h,
                          Or.inr ⟨hstart, ‹_›, by simpa [hb] using ⟨by simpa using hc, ‹_›⟩⟩⟩
                      · exact absurd h (by simp)
          · exact absurd h (by simp)

/-- What was read stays in front. -/
theorem prefix_of_decodeFrom (h : decodeFrom pos read bytes = .ok cs) :
    read.reverse <+: cs := by
  induction hlen : bytes.length using Nat.strongRecOn generalizing pos read bytes with
  | _ n ih =>
    cases bytes with
    | nil =>
      rw [decodeFrom] at h
      exact Except.ok.inj h ▸ List.prefix_rfl
    | cons a r =>
      obtain ⟨pos', c, front, rest, rfl, hrest, -⟩ := decodeFrom_cons h
      have hpre := ih rest.length (by simp at hlen; omega) hrest rfl
      rw [List.reverse_cons] at hpre
      exact (List.prefix_append _ _).trans hpre

/-- A zero byte is a null character. -/
theorem zero_not_mem_of_decodeFrom (h : decodeFrom pos read bytes = .ok cs) (hz : '\x00' ∉ cs) :
    0 ∉ bytes := by
  induction hlen : bytes.length using Nat.strongRecOn generalizing pos read bytes with
  | _ n ih =>
    cases bytes with
    | nil => simp
    | cons a r =>
      obtain ⟨pos', c, front, rest, rfl, hrest, hcase⟩ := decodeFrom_cons h
      have hmem : c ∈ cs := (prefix_of_decodeFrom hrest).subset (by simp)
      have hafter := ih rest.length (by simp at hlen; omega) hrest rfl
      rw [List.mem_cons, List.mem_append]
      rintro (rfl | hfront | hin)
      · rcases hcase with ⟨-, -, rfl⟩ | ⟨hstart, -⟩
        · exact hz hmem
        · exact absurd hstart (by decide)
      · rcases hcase with ⟨-, rfl, -⟩ | ⟨-, -, hall⟩
        · exact absurd hfront (by simp)
        · exact absurd (hall 0 hfront) (by decide)
      · exact hafter hin

theorem zero_not_mem_of_decode (h : decode bytes = .ok cs) (hz : '\x00' ∉ cs) : 0 ∉ bytes :=
  zero_not_mem_of_decodeFrom h hz

/-- ASCII characters are bytes by themselves. -/
def asciiBytes (cs : List Char) : List UInt8 :=
  cs.map fun c => c.toNat.toUInt8

theorem decodeFrom_asciiBytes (h : ∀ c ∈ cs, c.toNat < 0x80) :
    decodeFrom pos read (asciiBytes cs) = .ok (read.reverse ++ cs) := by
  induction cs generalizing pos read with
  | nil => simp [asciiBytes, decodeFrom]
  | cons c rest ih =>
    rw [List.forall_mem_cons] at h
    have hbyte : c.toNat.toUInt8.toNat = c.toNat := Nat.mod_eq_of_lt (by omega)
    have hlt : c.toNat.toUInt8 < 0x80 := by
      rw [UInt8.lt_iff_toNat_lt, hbyte]
      exact h.1
    have hfirst : decodeFrom pos read (asciiBytes (c :: rest)) =
        decodeFrom (pos + 1) (c :: read) (asciiBytes rest) := by
      rw [asciiBytes, List.map_cons, decodeFrom.eq_def]
      dsimp only
      rw [if_pos hlt, hbyte, Char.ofNat_toNat]
      rfl
    rw [hfirst, ih h.2, List.reverse_cons, List.append_assoc, List.singleton_append]

theorem decode_asciiBytes (h : ∀ c ∈ cs, c.toNat < 0x80) : decode (asciiBytes cs) = .ok cs :=
  decodeFrom_asciiBytes h

end Text.Utf8

/-! ## Encodings -/

namespace Json

open Text.Utf8

variable {cs : List Char} {bytes : List UInt8} {v : Value}

/-- A text that starts with a byte order mark is not read. -/
theorem head?_ne_of_readText (h : readText cs = .ok v) :
    cs.head? ≠ some (Char.ofNat 0xFEFF) := by
  intro hhead
  obtain ⟨rest, rfl⟩ := List.head?_eq_some_iff.mp hhead
  have hstray : tokenAt 0 (Char.ofNat 0xFEFF) rest = (.stray, 0) := rfl
  have hsound := (readText_of_cut h).1
  rw [cut_token rfl, hstray] at hsound
  exact hsound .stray List.mem_cons_self

theorem read_eq_ok_iff : Json.read cs = .ok v ↔ readText cs = .ok v := by
  unfold Json.read
  constructor
  · intro h
    split at h
    · exact absurd h (by simp)
    · exact h
  · intro h
    rw [if_neg (by simpa using head?_ne_of_readText h)]
    exact h

/-- A text that is read holds no null character. -/
theorem null_not_mem_of_readText (h : readText cs = .ok v) : '\x00' ∉ cs := fun hmem =>
  absurd (plain_of_readText h _ hmem) (by decide)

namespace Encoding

/-- Zero bytes are needed to tell another encoding than UTF-8. -/
theorem ofZeros_eq (h : 0 ∉ bytes) : ofZeros bytes = .utf8 := by
  unfold ofZeros
  split
  · simp only [List.mem_cons, not_or] at h
    rw [if_neg (by simpa using Ne.symm h.1), if_neg (by simpa using Ne.symm h.2.1)]
  · simp only [List.mem_cons, not_or] at h
    rw [if_neg (by simpa using Ne.symm h.1), if_neg (by simpa using Ne.symm h.2.1)]
  · rfl

/-- No character starts with a byte from 0xF5 on. -/
theorem ne_of_decode {a : UInt8} {rest : List UInt8} (ha : 0xF5 ≤ a) :
    Text.Utf8.decode (a :: rest) ≠ .ok cs := by
  intro h
  obtain ⟨_, _, _, _, _, _, hcase⟩ := decodeFrom_cons h
  rcases hcase with ⟨hlow, -⟩ | ⟨-, hhigh, -⟩
  · exact absurd (UInt8.lt_of_lt_of_le hlow (by decide)) (UInt8.not_lt.mpr ha)
  · exact absurd hhigh (UInt8.not_lt.mpr ha)

/-- The byte order mark in UTF-8 is the character that a text may not start with. -/
theorem head?_of_decode {rest : List UInt8}
    (h : Text.Utf8.decode (0xEF :: 0xBB :: 0xBF :: rest) = .ok cs) :
    cs.head? = some (Char.ofNat 0xFEFF) := by
  have hmark : decodeFrom 0 [] (0xEF :: 0xBB :: 0xBF :: rest) =
      decodeFrom 3 [Char.ofNat 0xFEFF] rest := by
    rw [decodeFrom.eq_def]
    rfl
  rw [Text.Utf8.decode, hmark] at h
  obtain ⟨tail, rfl⟩ := prefix_of_decodeFrom h
  rfl

/-- **UTF-8 is recognized**, where the text holds no null character and starts with no byte order
mark. -/
theorem detect_of_decode (hd : Text.Utf8.decode bytes = .ok cs) (hnull : '\x00' ∉ cs)
    (hmark : cs.head? ≠ some (Char.ofNat 0xFEFF)) : detect bytes = (.utf8, bytes) := by
  have hzero := zero_not_mem_of_decode hd hnull
  unfold detect
  split
  · exact absurd List.mem_cons_self hzero
  · exact absurd hd (ne_of_decode (by decide))
  · exact absurd hd (ne_of_decode (by decide))
  · exact absurd hd (ne_of_decode (by decide))
  · exact absurd (head?_of_decode hd) hmark
  · rw [ofZeros_eq hzero]

end Encoding

end Json

end HealthAlert
