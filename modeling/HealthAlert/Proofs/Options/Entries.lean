import HealthAlert.Proofs.Json.Bytes
import HealthAlert.Proofs.Json.LongIntegers
import HealthAlert.Proofs.Json.RoundTrip
import HealthAlert.Proofs.Json.WellFormed
import HealthAlert.Proofs.Options.Outcomes
import HealthAlert.Proofs.Request.Accepted

/-!
# What becomes of the entries of a data file

Every entry of an array in a data file is either a choice, which is given, or is left out, which is
logged. What a choice consists of is text that is not empty, since only values count as a value or a
label that count as something.

* `Value.display_ne_empty`: a value that counts as something is shown as some text.
* `sorts_iff`: the choices and the other entries of an array, each in the order of the array.
* `Choice.readOption_asValue`: an entry of an answer is accepted when both of its texts hold
  something.
* **`Session.first_load_sorts`**: what the first load of a data file gives and logs.
* `Session.first_load_withholds`: a data file that holds an array whose first load gives nothing.
-/

namespace HealthAlert

namespace Options

/-! ## Choices and other entries -/

/-- The entry is a record whose value and label both count as something, and they are shown so. -/
def ChoiceOf (entry : Value) (c : Choice) : Prop :=
  ∃ fields value label, entry = .record fields ∧
    Keyed.get? fields "value" = some value ∧ value.truthy = true ∧
    Keyed.get? fields "label" = some label ∧ label.truthy = true ∧
    c = { value := value.display, label := label.display }

/-- The entries of an array are these choices and these others, each in the order of the array. -/
inductive Sorts : List Value → List Choice → List Value → Prop where
  | nil : Sorts [] [] []
  | choice {entry : Value} {c : Choice} {entries others : List Value} {choices : List Choice}
    (h : ChoiceOf entry c) (rest : Sorts entries choices others) :
    Sorts (entry :: entries) (c :: choices) others
  | other {entry : Value} {entries others : List Value} {choices : List Choice}
    (h : ¬ IsChoice entry) (rest : Sorts entries choices others) :
    Sorts (entry :: entries) choices (entry :: others)

variable {entry : Value} {c : Choice} {entries others : List Value} {choices : List Choice}

theorem choiceOf?_eq_some_iff : choiceOf? entry = some c ↔ ChoiceOf entry c := by
  unfold ChoiceOf
  cases entry with
  | record fields =>
    cases hvalue : Keyed.get? fields "value" with
    | none => simp [choiceOf?, hvalue]
    | some value =>
      cases hlabel : Keyed.get? fields "label" with
      | none => simp [choiceOf?, hvalue, hlabel]
      | some label =>
        simp only [choiceOf?, hvalue, hlabel]
        constructor
        · intro h
          split at h
          · rename_i hboth
            rw [Bool.and_eq_true] at hboth
            exact ⟨fields, value, label, rfl, hvalue, hboth.1, hlabel, hboth.2,
              (Option.some.inj h).symm⟩
          · cases h
        · rintro ⟨_, _, _, hfields, hvalue', hv, hlabel', hl, rfl⟩
          cases hfields
          obtain rfl := Option.some.inj (hvalue.symm.trans hvalue')
          obtain rfl := Option.some.inj (hlabel.symm.trans hlabel')
          rw [if_pos (Bool.and_eq_true_iff.mpr ⟨hv, hl⟩)]
  | _ => simp [choiceOf?]

/-- **The two lists are determined by the array.** -/
theorem sorts_iff :
    Sorts entries choices others ↔
      choices = entries.filterMap choiceOf? ∧
        others = entries.filter fun e => (choiceOf? e).isNone := by
  constructor
  · intro h
    induction h with
    | nil => exact ⟨rfl, rfl⟩
    | choice h _ ih =>
      have hsome := choiceOf?_eq_some_iff.mpr h
      simp [hsome, ih.1, ih.2]
    | other h _ ih =>
      have hnone := choiceOf?_eq_none_iff.mpr h
      simp [hnone, ih.1, ih.2]
  · rintro ⟨rfl, rfl⟩
    induction entries with
    | nil => exact .nil
    | cons entry entries ih =>
      cases hentry : choiceOf? entry with
      | some c => simpa [hentry] using Sorts.choice (choiceOf?_eq_some_iff.mp hentry) ih
      | none => simpa [hentry] using Sorts.other (choiceOf?_eq_none_iff.mp hentry) ih

/-- No entry is lost, and none counts twice. -/
theorem Sorts.length_eq (h : Sorts entries choices others) :
    choices.length + others.length = entries.length := by
  induction h with
  | nil => rfl
  | choice _ _ ih => simp only [List.length_cons]; omega
  | other _ _ ih => simp only [List.length_cons]; omega

/-- Every choice of a JSON text has a value and a label. -/
theorem Sorts.filled (h : Sorts entries choices others) (hjson : ∀ e ∈ entries, e.IsJson) :
    ∀ c ∈ choices, c.value ≠ "" ∧ c.label ≠ "" := by
  induction h with
  | nil => exact fun _ hc => absurd hc List.not_mem_nil
  | choice h _ ih =>
    obtain ⟨hentry, hrest⟩ := List.forall_mem_cons.mp hjson
    obtain ⟨fields, value, label, rfl, hv, hvalue, hl, hlabel, rfl⟩ := h
    have hfields := Value.holdJson_iff.mp hentry.2
    have hne {name : String} {v : Value} (hget : Keyed.get? fields name = some v)
        (htruthy : v.truthy = true) : v.display ≠ "" :=
      Value.display_ne_empty (hfields _ (Keyed.mem_of_get? hget)) htruthy
    exact List.forall_mem_cons.mpr ⟨⟨hne hv hvalue, hne hl hlabel⟩, ih hrest⟩
  | other _ _ ih => exact ih (List.forall_mem_cons.mp hjson).2

/-- Choices are not marked where no character stands for a lone surrogate. -/
theorem ofEntries_nil (file : String) (kind : OptionKind) (entries : List Value) :
    ofEntries file kind entries =
      ⟨entries.filterMap choiceOf?, (entries.filter fun e => (choiceOf? e).isNone).map
        (warning kind) ++ [report file kind (entries.filterMap choiceOf?).length]⟩ := by
  have hmarked : ∀ c ∈ entries.filterMap choiceOf?, c.marked [] = c := fun c hc => by
    obtain ⟨e, -, he⟩ := List.mem_filterMap.mp hc
    obtain ⟨_, _, _, -, -, -, -, -, rfl⟩ := choiceOf?_eq_some_iff.mp he
    rw [Choice.marked, Text.occurIn_nil, Text.occurIn_nil]
    rfl
  rw [ofEntries, List.map_congr_left hmarked, List.map_id']

end Options

/-! ## Entries of an answer -/

namespace Choice

/-- The record for a choice. -/
def asValue (c : Choice) : Value :=
  .record [("value", .text c.value), ("label", .text c.label)]

theorem readOption_asValue {c : Choice} (h : c.value ≠ "" ∧ c.label ≠ "") :
    Request.readOption c.asValue = .accepted (c.value, c.label) := by
  have hfilled {s : String} (hs : s ≠ "") : Request.filledText (.text s) = .accepted s := by
    show (if s = "" then _ else _) = _
    rw [if_neg hs]
  unfold Request.readOption
  rw [Request.encodable_nil]
  show Prod.mk <$> (Checked.under _ (Request.filledText (.text c.value))) <*>
    (Checked.under _ (Request.filledText (.text c.label))) = _
  rw [hfilled h.1, hfilled h.2]
  rfl

/-- An entry in one of whose texts a lone surrogate stands is refused. -/
theorem readOption_of_occurIn {c : Choice} {lone : Text.StandIns}
    (h : lone.occurIn c.value = true) (a : String × String) :
    Request.readOption c.asValue lone ≠ .accepted a := by
  intro haccepted
  obtain ⟨_, _, hleft, -, -⟩ := Checked.seq_eq_accepted_iff.mp haccepted
  obtain ⟨s, hvalue, -⟩ := Checked.map_eq_accepted_iff.mp hleft
  have hread : Request.encodable lone Request.filledText (.text c.value) = .accepted s :=
    Checked.under_eq_accepted_iff.mp hvalue
  rw [Request.encodable, Value.text?] at hread
  simp [h, Checked.refuse] at hread

theorem choiceOf_asValue {c : Choice} (h : c.value ≠ "" ∧ c.label ≠ "")
    (hpaired : c.unpaired = 0) : Options.ChoiceOf c.asValue c := by
  refine ⟨_, .text c.value, .text c.label, rfl, rfl, by simpa [Value.truthy] using h.1, rfl,
    by simpa [Value.truthy] using h.2, ?_⟩
  cases c
  cases hpaired
  rfl

end Choice

namespace Options

theorem filled_packaged (kind : OptionKind) :
    ∀ c ∈ Catalog.choices kind, (c.value ≠ "" ∧ c.label ≠ "") ∧ c.unpaired = 0 := by
  cases kind <;> decide +kernel

/-- An array of choices is sorted into these. -/
theorem sorts_map_asValue {choices : List Choice}
    (h : ∀ c ∈ choices, (c.value ≠ "" ∧ c.label ≠ "") ∧ c.unpaired = 0) :
    Sorts (choices.map Choice.asValue) choices [] := by
  induction choices with
  | nil => exact .nil
  | cons c choices ih =>
    rw [List.forall_mem_cons] at h
    exact .choice (Choice.choiceOf_asValue h.1.1 h.1.2) (ih h.2)

/-! ## Data files -/

/-- The data file of a list holds an array with these entries, in which no integer is too long and
every surrogate has its other half. -/
inductive HoldsArray (files : FileTree) : DataDirectory → OptionKind → List Value → Prop where
  | packaged (kind : OptionKind) :
    HoldsArray files .packaged kind ((Catalog.choices kind).map Choice.asValue)
  | inDirectory {p : Path} {kind : OptionKind} {bytes : List UInt8} {cs : List Char}
    {entries : List Value} (file : files.lookup (p.child kind.fileName) = .file bytes)
    (text : Text.Utf8.decode bytes = .ok cs) (array : Json.outline cs = .ok (.list entries))
    (short : ¬ Json.HasLongInteger cs) (whole : Json.Whole cs) :
    HoldsArray files (.inDirectory p) kind entries

variable {files : FileTree} {dir : DataDirectory} {kind : OptionKind} {entries : List Value}

/-- Its entries are read as they stand. -/
theorem holdsEntries_of_array {p : Path} {bytes : List UInt8} {cs : List Char}
    (file : files.lookup (p.child kind.fileName) = .file bytes)
    (text : Text.Utf8.decode bytes = .ok cs) (array : Json.outline cs = .ok (.list entries))
    (short : ¬ Json.HasLongInteger cs) (whole : Json.Whole cs) :
    HoldsEntries files p kind entries [] := by
  have hread := Json.readText_unifyLineEnds_iff.mpr
    (Json.readText_eq_ok_iff_outline.mpr ⟨array, short⟩)
  refine ⟨bytes, Text.unifyLineEnds cs, file, ?_, ?_⟩
  · rw [Text.ofFile, text]
    rfl
  · rw [Json.openText_of_whole (Json.whole_unifyLineEnds.mpr whole), Json.read_eq_ok_iff.mpr hread]
    rfl

/-- What is read from an array is what its entries are sorted into, and the choices have values and
labels. -/
theorem HoldsArray.load_eq (h : HoldsArray files dir kind entries) (hne : entries ≠ []) :
    ∃ choices others, Sorts entries choices others ∧
      (∀ c ∈ choices, c.value ≠ "" ∧ c.label ≠ "") ∧
      Options.load files dir kind = .ok ⟨choices, others.map (warning kind) ++
        [report (dir.fileText files.packageData kind) kind choices.length]⟩ := by
  cases h with
  | packaged =>
    have hfilled := filled_packaged kind
    exact ⟨_, _, sorts_map_asValue hfilled, fun c hc => (hfilled c hc).1, rfl⟩
  | @inDirectory p _ bytes cs _ file text array short whole =>
    have hread := Json.readText_eq_ok_iff_outline.mpr ⟨array, short⟩
    have hjson : ∀ e ∈ entries, e.IsJson := Value.areJson_iff.mp (Json.isJson_of_readText hread)
    have hsorts : Sorts entries _ _ := sorts_iff.mpr ⟨rfl, rfl⟩
    have hload := load_eq_ok_iff.mpr
      ⟨entries, [], hne, holdsEntries_of_array file text array short whole, rfl⟩
    exact ⟨_, _, hsorts, hsorts.filled hjson, hload.trans (congrArg _ (ofEntries_nil _ _ _))⟩

namespace Session

open Json (Cuts Delimited Token spaced integerToken writeChars writeEntries cuts_nil cuts_int
  cuts_writeChars regular_spaced delimited_separator)

/-- **What the first load of a data file gives and logs.** An array with entries, in which no
integer is too long and every surrogate has its other half, is sorted into the choices and the other
entries. The choices are given, and each is accepted as an entry of an answer; there is one warning
for each other entry, and a last row that counts the choices. -/
theorem first_load_sorts (s : Session) (hfirst : s.cache.find? ⟨kind, dir⟩ = none)
    (hholds : HoldsArray s.files dir kind entries) (hne : entries ≠ []) :
    ∃ d choices others, (s.load dir kind).2 = .ok d ∧ Sorts entries choices others ∧
      d.content = choices.map .ofChoice ∧
      d.log = others.map (warning kind) ++
        [report (dir.fileText s.files.packageData kind) kind choices.length] ∧
      choices.length + others.length = entries.length ∧
      ∀ c ∈ choices, (c.value ≠ "" ∧ c.label ≠ "") ∧
        Request.readOption c.asValue = .accepted (c.value, c.label) := by
  obtain ⟨choices, others, hsorts, hfilled, hload⟩ := hholds.load_eq hne
  refine ⟨_, choices, others, by rw [load_of_ok hfirst hload], hsorts, ?_, rfl, hsorts.length_eq,
    fun c hc => ⟨hfilled c hc, Choice.readOption_asValue (hfilled c hc)⟩⟩
  exact (content_deliver _ _ _).trans (Store.getAll_addAll _ _)

/-- An array with a choice whose value is a number, and an entry that is no record. -/
def mixed : String := "[\x7b\"value\": 7, \"label\": \"Seven\"\x7d, null]"

/-- The array is written to the data file of a list. -/
def mixedWritten : Session :=
  ({} : Session).run [.write (.ofText "d/severity.json") mixed.toUTF8.toList]

theorem first_load_sorts_mixed :
    ∃ d, (mixedWritten.load (.inDirectory (.ofText "d")) .severity).2 = .ok d ∧
      d.content = [.ofChoice { value := "7", label := "Seven" }] ∧
      d.log = [warning .severity .null, report "d/severity.json" .severity 1] := by
  have hlookup : mixedWritten.files.lookup (Path.child (.ofText "d") "severity.json") =
      .file mixed.toUTF8.toList := by decide +kernel
  have htext : Text.Utf8.decode mixed.toUTF8.toList = .ok mixed.toList := by decide +kernel
  have hread : Json.readText mixed.toList = .ok (.list
      [.record [("value", .int 7), ("label", .text "Seven")], .null]) := rfl
  obtain ⟨harray, hshort⟩ := Json.readText_eq_ok_iff_outline.mp hread
  have hholds : HoldsArray mixedWritten.files (.inDirectory (.ofText "d")) .severity
      [.record [("value", .int 7), ("label", .text "Seven")], .null] :=
    .inDirectory hlookup htext harray hshort (by decide)
  obtain ⟨d, choices, others, hload, hsorts, hcontent, hlog, -, -⟩ :=
    first_load_sorts mixedWritten rfl hholds (List.cons_ne_nil _ _)
  obtain ⟨rfl, rfl⟩ := sorts_iff.mp hsorts
  have hfile : DataDirectory.fileText (.inDirectory (.ofText "d")) mixedWritten.files.packageData
      .severity = "d/severity.json" := by decide +kernel
  rw [hfile] at hlog
  exact ⟨d, hload, hcontent, hlog⟩

/-- An array with a record that has a value, a label and a number. -/
def numbered (n : Int) : Value :=
  .list [.record [("value", .text "A"), ("label", .text "Alpha"), ("order", .int n)]]

/-- The array as a text. -/
def numberedText (n : Nat) : List Char := writeChars spaced (numbered n)

/-- The bytes of the text are the data file of a list. -/
def numberedSession (n : Nat) : Session where
  files := { files := [(["work", "d", "severity.json"], Text.Utf8.asciiBytes (numberedText n))] }

theorem cuts_numberedText (n : Nat) :
    Cuts (numberedText n) [.openBracket, .openBrace, .text "value", .colon, .text "A", .comma,
      .text "label", .colon, .text "Alpha", .comma, .text "order", .colon, integerToken n,
      .closeBrace, .closeBracket] := by
  have htext (s : String) : Cuts (writeChars spaced (.text s)) [.text s] :=
    cuts_writeChars regular_spaced trivial
  have horder : Cuts (writeEntries spaced [("order", .int n)])
      [.text "order", .colon, integerToken n] :=
    ((cuts_int n).separator regular_spaced.keys rfl rfl).text _ _
  have hentry {es : List (String × Value)} {ts : List Token} (k s : String)
      (h : Cuts (writeEntries spaced es) ts) (hes : es ≠ []) :
      Cuts (writeEntries spaced ((k, .text s) :: es))
        (.text k :: .colon :: .text s :: .comma :: ts) := by
    obtain ⟨e, es, rfl⟩ := List.exists_cons_of_ne_nil hes
    exact (((htext s).append (h.separator regular_spaced.items rfl rfl)
      (delimited_separator regular_spaced.items (by simp [Delimited]))).separator
        regular_spaced.keys rfl rfl).text _ _
  have hentries := hentry "value" "A" (hentry "label" "Alpha" horder (List.cons_ne_nil _ _))
    (List.cons_ne_nil _ _)
  exact ((((hentries.append (cuts_nil.punctuation rfl rfl) (by simp [Delimited])).punctuation
    rfl rfl).append (cuts_nil.punctuation rfl rfl) (by simp [Delimited])).punctuation rfl rfl)

/-- The character is in ASCII, and neither a control character nor a backslash. -/
def isPlainAscii (c : Char) : Bool :=
  decide (0x20 ≤ c.toNat) && (decide (c.toNat < 0x80) && decide (c ≠ '\\'))

theorem isPlainAscii_of_mem_numberedText {n : Nat} {c : Char} (h : c ∈ numberedText n) :
    0x20 ≤ c.toNat ∧ c.toNat < 0x80 ∧ c ≠ '\\' := by
  have hchars : numberedText n =
      "[\x7b\"value\": \"A\", \"label\": \"Alpha\", \"order\": ".toList ++
        ((toString (n : Int)).toList ++ "\x7d]".toList) := by
    simp [numberedText, numbered, writeChars, Json.writeItems, writeEntries, Json.writeLeaf,
      Json.writeText, Json.writeChar, spaced]
  rw [hchars, List.mem_append, List.mem_append, Decimal.toList_toString_int] at h
  have hall {cs : List Char} (hcs : cs.all isPlainAscii = true) (hc : c ∈ cs) :
      0x20 ≤ c.toNat ∧ c.toNat < 0x80 ∧ c ≠ '\\' := by
    simpa [isPlainAscii] using List.all_eq_true.mp hcs c hc
  rcases h with hfront | hdigit | hback
  · exact hall (by decide) hfront
  · rw [if_neg (by omega), List.nil_append] at hdigit
    have hrange := Char.isDigit_iff_toNat.mp ((Decimal.isDigits_toDigits _).digits _ hdigit)
    refine ⟨Nat.le_trans (by decide) hrange.1, Nat.lt_of_le_of_lt hrange.2 (by decide), ?_⟩
    rintro rfl
    exact absurd hrange.2 (by decide)
  · exact hall (by decide) hback

/-- The data file of a list holds an array with entries, and nothing is kept for the list, but a
load gives nothing. -/
def Withholds (s : Session) (p : Path) (kind : OptionKind) : Prop :=
  s.cache.find? ⟨kind, .inDirectory p⟩ = none ∧
    ∃ bytes cs entries, s.files.lookup (p.child kind.fileName) = .file bytes ∧
      Text.Utf8.decode bytes = .ok cs ∧ Json.outline cs = .ok (.list entries) ∧ entries ≠ [] ∧
      ∃ t, (s.load (.inDirectory p) kind).2 = .error t

/-- An array is withheld when the number in it has too many digits. -/
theorem withholds_numbered {n : Nat} (hn : maxIntegerDigits < (Nat.toDigits 10 n).length) :
    (numberedSession n).Withholds (.ofText "d") .severity := by
  have hlong : integerToken n = .longInteger (Nat.toDigits 10 n).length := if_pos hn
  have hcut := (cuts_numberedText n).cut_eq
  rw [hlong] at hcut
  have hlookup : (numberedSession n).files.lookup (Path.child (.ofText "d") "severity.json") =
      .file (Text.Utf8.asciiBytes (numberedText n)) := rfl
  have hdecode : Text.Utf8.decode (Text.Utf8.asciiBytes (numberedText n)) =
      .ok (numberedText n) :=
    Text.Utf8.decode_asciiBytes fun c hc => (isPlainAscii_of_mem_numberedText hc).2.1
  have houtline : Json.outline (numberedText n) = .ok (numbered 0) :=
    Json.outline_of_cut hcut rfl
  obtain ⟨digits, -, hread⟩ := Json.readText_of_longInteger houtline
    ⟨(Nat.toDigits 10 n).length, by rw [hcut]; simp⟩
  have htext : Text.ofFile (Text.Utf8.asciiBytes (numberedText n)) = .ok (numberedText n) := by
    have hsame := Text.unifyLineEnds_append
      (fun c hc => Text.ne_return_of_le (isPlainAscii_of_mem_numberedText (n := n) hc).1) []
    rw [List.append_nil, Text.unifyLineEnds_nil, List.append_nil] at hsame
    rw [Text.ofFile, hdecode, Except.map, hsame]
  have hwhole : Json.Whole (numberedText n) :=
    Json.whole_of_ne_backslash fun c hc => (isPlainAscii_of_mem_numberedText hc).2.2
  have hopen : Json.openText (numberedText n) = .error (.longInteger digits) := by
    have hmarkless : Json.read (numberedText n) = .error (.longInteger digits) := hread
    rw [Json.openText_of_whole hwhole, hmarkless]
    rfl
  have hload : ((numberedSession n).load (.inDirectory (.ofText "d")) .severity).2 =
      .error (.internal (.longInteger digits)) :=
    load_eq_error_iff.mpr ⟨rfl, load_eq_internal_iff.mpr (.longInteger hlookup htext hopen)⟩
  exact ⟨rfl, _, _, _, hlookup, hdecode, houtline, List.cons_ne_nil _ _, _, hload⟩

/-- Nothing is kept for the list, and a load gives a choice that no answer accepts as an entry. -/
def GivesUnfit (s : Session) (p : Path) (kind : OptionKind) : Prop :=
  s.cache.find? ⟨kind, .inDirectory p⟩ = none ∧
    ∃ entries lone d c, HoldsEntries s.files p kind entries lone ∧
      (s.load (.inDirectory p) kind).2 = .ok d ∧ d.content = [.ofChoice c] ∧
      ∀ a, Request.readOption c.asValue lone ≠ .accepted a

/-- An array with a choice whose value is half of a surrogate pair. -/
def halved : String := "[\x7b\"value\": \"\\ud800\", \"label\": \"x\"\x7d]"

/-- The text that is read in its place. -/
def halvedSettled : String := "[\x7b\"value\": \"\\ue000\", \"label\": \"x\"\x7d]"

/-- The array is written to the data file of a list. -/
def halvedWritten : Session :=
  ({} : Session).run [.write (.ofText "d/severity.json") halved.toUTF8.toList]

/-- The choice with the stand-in of its surrogate. -/
def halvedChoice : Choice where
  value := "\uE000"
  label := "x"

theorem readText_halvedSettled :
    Json.readText halvedSettled.toList = .ok (.list [halvedChoice.asValue]) := by
  rfl

theorem givesUnfit_halvedWritten : halvedWritten.GivesUnfit (.ofText "d") .severity := by
  have hlookup : halvedWritten.files.lookup (Path.child (.ofText "d") "severity.json") =
      .file halved.toUTF8.toList := by decide +kernel
  have htext : Text.ofFile halved.toUTF8.toList = .ok halved.toList := by decide +kernel
  have hsettle : Json.settle (Json.pointsOf halved.toList) = halvedSettled.toList := by
    decide +kernel
  have hlone : Json.standIns (Json.pointsOf halved.toList) = [('\uE000', 0xD800)] := by
    decide +kernel
  have hopen : Json.openText halved.toList =
      .ok ⟨.list [halvedChoice.asValue], [('\uE000', 0xD800)]⟩ := by
    rw [Json.openText, hsettle, hlone, Json.read_eq_ok_iff.mpr readText_halvedSettled]
    rfl
  have hholds : HoldsEntries halvedWritten.files (.ofText "d") .severity [halvedChoice.asValue]
      [('\uE000', 0xD800)] := ⟨_, _, hlookup, htext, hopen⟩
  have hload := load_eq_ok_iff.mpr ⟨_, _, List.cons_ne_nil _ _, hholds, rfl⟩
  refine ⟨rfl, _, _, _, halvedChoice, hholds, by rw [load_of_ok rfl hload], ?_,
    Choice.readOption_of_occurIn (by decide)⟩
  rw [content_deliver]
  exact (Store.getAll_addAll _ _).trans (map_ofChoice_ofEntries _ _ _ _)

/-- Two data files that each hold an array with one record, which has a value and a label. The first
load of the one gives nothing, and that of the other gives a choice that no answer accepts. -/
theorem first_load_withholds :
    (numberedSession (Nat.pow 10 maxIntegerDigits)).Withholds (.ofText "d") .severity ∧
      halvedWritten.GivesUnfit (.ofText "d") .severity :=
  ⟨withholds_numbered (Value.lt_length_toDigits_pow (by decide)), givesUnfit_halvedWritten⟩

end Session

end Options

end HealthAlert
