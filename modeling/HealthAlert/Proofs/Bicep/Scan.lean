import HealthAlert.Bicep.Quoted

/-!
# Scanning a text for literals

`Scan.run` reads characters one by one. A quote opens a literal; inside it a backslash takes the
next character as it is, and the first quote that no backslash takes ends the literal. What was
read comes out as tokens: the characters outside every literal, and the literals with their
content. `tokens?` gives the tokens of a text whose last literal is closed, `literals?` the
contents among them, and `skeleton?` the text with every literal replaced by an empty one.

Everything about a text is put together from its parts: `Reads cs ts` says that `cs` gives the
tokens `ts` and leaves no literal open, and `Reads.append` that such parts are read one after
the other.
-/

namespace HealthAlert.Bicep

/-- What a scan finds: a character outside every literal, or a literal with its content. -/
inductive Token where
  | plain (c : Char)
  | literal (content : List Char)
  deriving DecidableEq, Repr

/-- Where a scan stands: outside every literal, or in one whose content so far was `read`, perhaps
right after a backslash that takes the next character. -/
inductive Scan where
  | outside
  | inside (read : List Char)
  | taking (read : List Char)
  deriving DecidableEq, Repr

namespace Scan

/-- The tokens that a character completes, and where the scan stands after it. -/
def step : Scan → Char → List Token × Scan
  | outside, c => if c = '\'' then ([], inside []) else ([.plain c], outside)
  | inside read, c =>
    if c = '\\' then ([], taking read)
    else if c = '\'' then ([.literal read], outside)
    else ([], inside (read ++ [c]))
  | taking read, c => ([], inside (read ++ [c]))

/-- The tokens that characters complete, and where the scan stands after them. -/
def run : Scan → List Char → List Token × Scan
  | s, [] => ([], s)
  | s, c :: cs => ((s.step c).1 ++ (run (s.step c).2 cs).1, (run (s.step c).2 cs).2)

/-- A scan of two parts goes on with the second where the first leaves it. -/
theorem run_append (s : Scan) (a b : List Char) :
    s.run (a ++ b) = ((s.run a).1 ++ ((s.run a).2.run b).1, ((s.run a).2.run b).2) := by
  induction a generalizing s with
  | nil => rfl
  | cons c cs ih =>
    simp only [List.cons_append, run]
    rw [ih, List.append_assoc]

/-! ## One character -/

theorem run_outside_quote (cs : List Char) : outside.run ('\'' :: cs) = (inside []).run cs := rfl

theorem run_outside_plain {c : Char} (h : c ≠ '\'') (cs : List Char) :
    outside.run (c :: cs) = (.plain c :: (outside.run cs).1, (outside.run cs).2) := by
  simp only [run, step, if_neg h, List.singleton_append]

theorem run_inside_backslash (read cs : List Char) :
    (inside read).run ('\\' :: cs) = (taking read).run cs := rfl

theorem run_inside_quote (read cs : List Char) :
    (inside read).run ('\'' :: cs) = (.literal read :: (outside.run cs).1, (outside.run cs).2) :=
  rfl

theorem run_inside_plain {c : Char} (hb : c ≠ '\\') (hq : c ≠ '\'') (read cs : List Char) :
    (inside read).run (c :: cs) = (inside (read ++ [c])).run cs := by
  simp only [run, step, if_neg hb, if_neg hq, List.nil_append]

theorem run_taking (read : List Char) (c : Char) (cs : List Char) :
    (taking read).run (c :: cs) = (inside (read ++ [c])).run cs := rfl

/-- Inside a literal the way out completes a token. -/
theorem run_ne_of_ne_outside (cs : List Char) : ∀ s : Scan, s ≠ outside →
    s.run cs ≠ ([], outside) := by
  induction cs with
  | nil => intro s hs h; exact hs (congrArg Prod.snd h)
  | cons c cs ih =>
    intro s hs
    cases s with
    | outside => exact absurd rfl hs
    | taking read => rw [run_taking]; exact ih _ (by simp)
    | inside read =>
      by_cases hb : c = '\\'
      · rw [hb, run_inside_backslash]; exact ih _ (by simp)
      · by_cases hq : c = '\''
        · rw [hq, run_inside_quote]; simp
        · rw [run_inside_plain hb hq]; exact ih _ (by simp)

/-- A scan that starts and ends outside every literal without a token has read nothing. -/
theorem eq_nil_of_run_outside {cs : List Char} (h : outside.run cs = ([], outside)) :
    cs = [] := by
  cases cs with
  | nil => rfl
  | cons c cs =>
    by_cases hq : c = '\''
    · rw [hq, run_outside_quote] at h
      exact absurd h (run_ne_of_ne_outside cs _ (by simp))
    · rw [run_outside_plain hq] at h
      simp at h

end Scan

/-! ## Texts that leave no literal open -/

/-- The characters give the tokens and leave no literal open. -/
def Reads (cs : List Char) (ts : List Token) : Prop :=
  Scan.outside.run cs = (ts, .outside)

theorem Reads.nil : Reads [] [] := rfl

/-- **Parts are read one after the other.** -/
theorem Reads.append {a b : List Char} {ta tb : List Token} (ha : Reads a ta) (hb : Reads b tb) :
    Reads (a ++ b) (ta ++ tb) := by
  unfold Reads at *
  rw [Scan.run_append, ha, hb]

/-- Characters without a quote stand for themselves. -/
theorem Reads.plain {cs : List Char} (h : '\'' ∉ cs) : Reads cs (cs.map .plain) := by
  induction cs with
  | nil => exact Reads.nil
  | cons c cs ih =>
    rw [List.mem_cons, not_or] at h
    unfold Reads at ih ⊢
    rw [Scan.run_outside_plain (Ne.symm h.1), ih h.2]
    rfl

/-- The tokens of a text, none when its last literal is left open. -/
def tokens? (s : String) : Option (List Token) :=
  match Scan.outside.run s.toList with
  | (ts, .outside) => some ts
  | _ => none

theorem tokens?_eq_some_iff {s : String} {ts : List Token} :
    tokens? s = some ts ↔ Reads s.toList ts := by
  unfold tokens? Reads
  rcases Scan.outside.run s.toList with ⟨ts', _ | _ | _⟩ <;> simp

/-! ## Literals and what surrounds them -/

/-- The content of a literal. -/
def Token.content? : Token → Option String
  | .plain _ => none
  | .literal content => some (String.ofList content)

/-- The contents of the literals, in order. -/
def contents (ts : List Token) : List String :=
  ts.filterMap Token.content?

/-- The token with an empty literal in place of a literal. -/
def Token.emptied : Token → List Char
  | .plain c => [c]
  | .literal _ => ['\'', '\'']

/-- The characters that remain when every literal is replaced by an empty one. -/
def emptied (ts : List Token) : List Char :=
  ts.flatMap Token.emptied

/-- The contents of the literals of a text, none when its last literal is left open. -/
def literals? (s : String) : Option (List String) :=
  (tokens? s).map contents

/-- The text with every literal replaced by an empty one, none when its last literal is left
open. -/
def skeleton? (s : String) : Option String :=
  (tokens? s).map fun ts => String.ofList (emptied ts)

theorem contents_append (a b : List Token) : contents (a ++ b) = contents a ++ contents b :=
  List.filterMap_append

theorem emptied_append (a b : List Token) : emptied (a ++ b) = emptied a ++ emptied b :=
  List.flatMap_append

theorem contents_plain (cs : List Char) : contents (cs.map .plain) = [] := by
  induction cs with
  | nil => rfl
  | cons c cs ih => exact ih

end HealthAlert.Bicep
