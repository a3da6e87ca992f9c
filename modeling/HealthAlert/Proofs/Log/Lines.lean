import HealthAlert.Log.Structured
import HealthAlert.Proofs.Json.Printable
import HealthAlert.Proofs.Json.Telling
import HealthAlert.Proofs.Log.Moments

/-!
# Log lines cannot be forged

Whatever texts a record holds, its line is one line of printable ASCII characters, and as JSON it
tells the record and nothing else: each fixed entry has the record's own value, and the fields that
came with the record stand under `extra` only, under whatever names they came.

* `Record.Writable`, `entries_eq_ok_iff`, `lineText_eq_ok_iff`: when a record has a line, and what
  its entries are.
* `Record.WellFormed`, `wellFormed_set`: setting fields keeps a record well formed.
* `Record.Tells`: what an object says of a record.
* **`lineText_tells`**: the line of a record; `no_line`: records without one.
-/

namespace HealthAlert.Log

open Json (told toldEntries)

/-! ## Entries -/

namespace ExceptionInfo

/-- What stands in the exception's place is one, or says that there is none. -/
def Readable : ExceptionInfo → Prop
  | .none | .empty | .caught _ _ => True
  | .other v => v.truthy = false ∨ ∃ vs, v.items? = some (.null :: vs)

/-- The exception as a value. -/
def shown? : ExceptionInfo → Option Value
  | .caught t m => some (.record [("type", .text t), ("message", .text m)])
  | .none | .empty | .other _ => Option.none

end ExceptionInfo

/-- An entry for a value that may be missing. -/
def entryOf (key : String) (v : Option Value) : List (String × Value) :=
  v.toList.map fun v => (key, v)

theorem get?_entryOf (key other : String) (v : Option Value) :
    Keyed.get? (entryOf key v) other = if key = other then v else none := by
  cases v <;> simp [entryOf, Keyed.get?]

theorem keys_entryOf_sublist (key : String) (v : Option Value) :
    (Keyed.keys (entryOf key v)).Sublist [key] := by
  cases v <;> simp [entryOf, Keyed.keys]

theorem forall_mem_entryOf {p : Value → Prop} {key : String} {v : Option Value}
    (h : ∀ x, v = some x → p x) : ∀ e ∈ entryOf key v, p e.2 := by
  cases v <;> simp_all [entryOf]

/-- What three parts in the exception's place are read as: the first of them is null when there is
no exception. -/
def readParts (parts : List Value) : Except LineError (List (String × Value)) :=
  match parts with
  | .null :: _ => .ok []
  | [v, _, _] =>
    .error (.exception "AttributeError"
      ("'" ++ v.typeName ++ "' object has no attribute '__name__'"))
  | vs =>
    if vs.length < 3 then
      .error (.exception "ValueError"
        ("not enough values to unpack (expected 3, got " ++ toString vs.length ++ ")"))
    else .error (.exception "ValueError" "too many values to unpack (expected 3)")

theorem readParts_eq_ok_iff {parts : List Value} {es : List (String × Value)} :
    readParts parts = .ok es ↔ (∃ vs, parts = .null :: vs) ∧ es = [] := by
  unfold readParts
  split
  · simp [eq_comm]
  · rename_i hnull
    simpa using fun h => absurd h hnull
  · rename_i hnull _
    split <;> simpa using fun vs h => absurd h (hnull vs)

/-- The parts of a value in the exception's place. -/
def partsOf? : Value → Option (List Value)
  | .list vs | .tuple vs => some vs
  | .text s => some (s.toList.map fun c => .text (String.ofList [c]))
  | .member m => some (m.text.toList.map fun c => .text (String.ofList [c]))
  | .foreign .bytes | .foreign .byteArray => some [.int 0x78]
  | .foreign .range => some [.int 0, .int 1, .int 2]
  | _ => none

theorem partsOf?_eq_null_iff {v : Value} :
    (∃ vs, partsOf? v = some (.null :: vs)) ↔ ∃ vs, v.items? = some (.null :: vs) := by
  have htexts (f : Char → String) (cs : List Char) (vs : List Value) :
      (cs.map fun c => Value.text (f c)) ≠ .null :: vs := by
    cases cs <;> simp
  cases v with
  | list vs => rfl
  | tuple vs => rfl
  | text s => simp [partsOf?, Value.items?, htexts]
  | member m => simp [partsOf?, Value.items?, htexts]
  | foreign k => cases k <;> simp [partsOf?, Value.items?]
  | _ => simp [partsOf?, Value.items?]

theorem exceptionFields_of_truthy {v : Value} (h : v.truthy = true) :
    (∃ vs, partsOf? v = some vs ∧ exceptionFields (.other v) = readParts vs) ∨
      partsOf? v = none ∧ ∃ e, exceptionFields (.other v) = .error e := by
  have hfalsy : (!v.truthy) = false := by rw [h]; rfl
  unfold exceptionFields
  simp only [hfalsy, Bool.false_eq_true, if_false]
  cases v with
  | list vs => exact Or.inl ⟨_, rfl, rfl⟩
  | tuple vs => exact Or.inl ⟨_, rfl, rfl⟩
  | text s => exact Or.inl ⟨_, rfl, rfl⟩
  | member m => exact Or.inl ⟨_, rfl, rfl⟩
  | foreign k =>
    cases k with
    | bytes => exact Or.inl ⟨_, rfl, rfl⟩
    | byteArray => exact Or.inl ⟨_, rfl, rfl⟩
    | range => exact Or.inl ⟨_, rfl, rfl⟩
    | _ => exact Or.inr ⟨rfl, _, rfl⟩
  | _ => exact Or.inr ⟨rfl, _, rfl⟩

theorem exceptionFields_other {v : Value} {es : List (String × Value)} :
    exceptionFields (.other v) = .ok es ↔
      (v.truthy = false ∨ ∃ vs, v.items? = some (.null :: vs)) ∧ es = [] := by
  cases ht : v.truthy with
  | false => simp [exceptionFields, ht, eq_comm]
  | true =>
    rw [← partsOf?_eq_null_iff]
    rcases exceptionFields_of_truthy ht with ⟨vs, hparts, hread⟩ | ⟨hparts, e, hread⟩
    · simp [hread, hparts, readParts_eq_ok_iff]
    · simp [hread, hparts]

theorem exceptionFields_eq_ok_iff {e : ExceptionInfo} {es : List (String × Value)} :
    exceptionFields e = .ok es ↔ e.Readable ∧ es = entryOf "exception" e.shown? := by
  cases e with
  | none => simp [exceptionFields, ExceptionInfo.Readable, entryOf, ExceptionInfo.shown?, eq_comm]
  | empty => simp [exceptionFields, ExceptionInfo.Readable, entryOf, ExceptionInfo.shown?, eq_comm]
  | caught t m =>
    simp [exceptionFields, ExceptionInfo.Readable, entryOf, ExceptionInfo.shown?, eq_comm]
  | other v => exact exceptionFields_other

namespace Record

variable {r : Record} {requestId : String}

/-- The values that a line shows as they are. -/
def values (r : Record) : List Value := [r.level, r.logger, r.function, r.line, .record r.fields]

/-- An integer that a line shows is too long. -/
def HoldsLongInteger (r : Record) : Prop := ∃ v ∈ r.values, v.HoldsLongInteger

/-- A record has a line when its moment can be written, its message has a text which its arguments,
if it has any, fit, its exception can be read, and no integer is too long. -/
structure Writable (r : Record) : Prop where
  moment : ∃ t, Timestamp.ofSeconds r.created = .ok t ∧ t.InFourDigitYear
  text : ¬ r.message.HoldsLongInteger
  message : r.arguments.truthy = true → ∃ m, r.filledMessage = .ok m
  exception : r.exception.Readable
  integers : ¬ r.HoldsLongInteger

theorem filledMessage_of_holdsLong (h : r.message.HoldsLongInteger) :
    r.filledMessage = .error .unwritableInteger := by
  rw [filledMessage, Value.display?_eq_none_iff.mpr h]
  rfl

theorem filledMessage_of_no_arguments (h : ¬ r.message.HoldsLongInteger)
    (harguments : r.arguments.truthy = false) : r.filledMessage = .ok r.message.display := by
  rw [filledMessage, Value.display?_eq_some_iff.mpr ⟨h, rfl⟩, harguments]
  rfl

theorem exists_filledMessage_iff : (∃ m, r.filledMessage = .ok m) ↔
    ¬ r.message.HoldsLongInteger ∧ (r.arguments.truthy = true → ∃ m, r.filledMessage = .ok m) := by
  refine ⟨fun h => ⟨fun hlong => ?_, fun _ => h⟩, fun ⟨hshort, h⟩ => ?_⟩
  · obtain ⟨m, hm⟩ := h
    rw [filledMessage_of_holdsLong hlong] at hm
    cases hm
  · cases harguments : r.arguments.truthy with
    | true => exact h harguments
    | false => exact ⟨_, filledMessage_of_no_arguments hshort harguments⟩

theorem writable_iff : r.Writable ↔ ((∃ t, Timestamp.text r.created = .ok t) ∧
    (∃ m, r.filledMessage = .ok m) ∧ r.exception.Readable) ∧ ¬ r.HoldsLongInteger := by
  rw [Timestamp.exists_text_iff, exists_filledMessage_iff]
  exact ⟨fun h => ⟨⟨h.moment, ⟨h.text, h.message⟩, h.exception⟩, h.integers⟩,
    fun ⟨⟨hmoment, ⟨htext, hmessage⟩, hexception⟩, hintegers⟩ =>
      ⟨hmoment, htext, hmessage, hexception, hintegers⟩⟩

/-- The entries of a line. -/
def shown (requestId timestamp message : String) (r : Record) : List (String × Value) :=
  [("timestamp", .text timestamp), ("level", r.level), ("logger", r.logger),
    ("message", .text message), ("function", r.function), ("line", r.line)] ++
    entryOf "request_id" (if requestId = "" then none else some (.text requestId)) ++
    entryOf "exception" r.exception.shown? ++
    entryOf "extra" (if r.fields = [] then none else some (.record r.fields))

theorem entries_eq_ok_iff {es : List (String × Value)} :
    r.entries requestId = .ok es ↔
      ∃ t m, Timestamp.text r.created = .ok t ∧ r.filledMessage = .ok m ∧ r.exception.Readable ∧
        es = r.shown requestId t m := by
  have hrequest : (if requestId = "" then [] else [("request_id", Value.text requestId)]) =
      entryOf "request_id" (if requestId = "" then none else some (.text requestId)) := by
    split <;> rfl
  have hextra : (if r.fields.isEmpty then [] else [("extra", Value.record r.fields)]) =
      entryOf "extra" (if r.fields = [] then none else some (.record r.fields)) := by
    simp only [List.isEmpty_iff]
    split <;> rfl
  unfold entries
  rw [hrequest, hextra]
  cases Timestamp.text r.created with
  | error e => simp
  | ok t =>
    cases r.filledMessage with
    | error e => simp
    | ok m =>
      cases hexception : exceptionFields r.exception with
      | error e =>
        have hnot : ¬ r.exception.Readable := fun h => by
          have := exceptionFields_eq_ok_iff.mpr ⟨h, rfl⟩
          rw [hexception] at this
          cases this
        simp [hnot]
      | ok es' =>
        obtain ⟨hreadable, rfl⟩ := exceptionFields_eq_ok_iff.mp hexception
        constructor
        · rintro h
          cases h
          exact ⟨t, m, rfl, rfl, hreadable, rfl⟩
        · rintro ⟨_, _, ht, hm, -, rfl⟩
          cases ht
          cases hm
          rfl

/-! ## Well-formed records -/

/-- The record is one that a program can hold. -/
def WellFormed (r : Record) : Prop := ∀ v ∈ r.values, v.WellFormed

/-- Setting a field shows its value, or puts it among the other fields. -/
theorem mem_values_set {name : String} {v x : Value} (h : x ∈ (r.set name v).values) :
    x ∈ r.values ∨ x = v ∨ x = .record (Keyed.put r.fields name v) := by
  revert h
  unfold set
  split
  case h_9 =>
    split <;> simp only [values, List.mem_cons] <;> grind
  all_goals
    simp only [values, List.mem_cons]
    grind

/-- **Setting fields keeps a record well formed.** -/
theorem wellFormed_set (h : r.WellFormed) (name : String) {v : Value} (hv : v.WellFormed) :
    (r.set name v).WellFormed := by
  intro x hx
  rcases mem_values_set hx with hold | rfl | rfl
  · exact h x hold
  · exact hv
  · exact Value.wellFormed_put (h _ (by simp [values])) name hv

variable {timestamp message : String}

/-- The keys of lines, in their order. -/
def lineKeys : List String :=
  ["timestamp", "level", "logger", "message", "function", "line", "request_id", "exception",
    "extra"]

theorem keys_shown_sublist :
    (Keyed.keys (r.shown requestId timestamp message)).Sublist lineKeys := by
  have happend (es es' : List (String × Value)) :
      Keyed.keys (es ++ es') = Keyed.keys es ++ Keyed.keys es' := List.map_append
  simp only [shown, happend]
  exact (((List.Sublist.refl _).append (keys_entryOf_sublist _ _)).append
    (keys_entryOf_sublist _ _)).append (keys_entryOf_sublist _ _)

/-- The entries of a line are values of the record, texts, and an exception. -/
theorem forall_mem_shown {p : Value → Prop} (htext : ∀ s, p (.text s))
    (hexception : ∀ t m, p (.record [("type", .text t), ("message", .text m)]))
    (hvalues : ∀ v ∈ r.values, p v) : ∀ e ∈ r.shown requestId timestamp message, p e.2 := by
  simp only [values, List.forall_mem_cons] at hvalues
  obtain ⟨hlevel, hlogger, hfunction, hline, hfields, -⟩ := hvalues
  simp only [shown, List.forall_mem_append]
  refine ⟨⟨⟨?_, forall_mem_entryOf ?_⟩, forall_mem_entryOf ?_⟩, forall_mem_entryOf ?_⟩
  · simp [htext, hlevel, hlogger, hfunction, hline]
  · intro x hx
    split at hx
    · cases hx
    · cases hx
      exact htext requestId
  · intro x hx
    cases he : r.exception with
    | caught t m =>
      rw [he] at hx
      cases hx
      exact hexception t m
    | _ =>
      rw [he] at hx
      cases hx
  · intro x hx
    split at hx
    · cases hx
    · cases hx
      exact hfields

theorem wellFormed_shown (h : r.WellFormed) :
    Value.WellFormed (.record (r.shown requestId timestamp message)) := by
  have hkeys : lineKeys.Nodup := by decide
  have hexception (t m : String) :
      Value.WellFormed (.record [("type", .text t), ("message", .text m)]) :=
    ⟨by simp [Keyed.keys], trivial, trivial, trivial⟩
  refine ⟨keys_shown_sublist.nodup hkeys, Value.holdWellFormed_iff.mpr ?_⟩
  exact forall_mem_shown (fun _ => trivial) hexception h

theorem holdsLongInteger_shown :
    Value.HoldsLongInteger (.record (r.shown requestId timestamp message)) ↔
      r.HoldsLongInteger := by
  have hnodes (es : List (String × Value)) : Value.HoldsLongInteger (.record es) ↔
      ∃ e ∈ es, e.2.HoldsLongInteger := by
    unfold Value.HoldsLongInteger
    simp only [Value.nodes, List.mem_cons, reduceCtorEq, false_or, Value.mem_nodesOfFields]
    constructor
    · rintro ⟨n, ⟨e, he, hn⟩, hlong⟩
      exact ⟨e, he, n, hn, hlong⟩
    · rintro ⟨e, he, n, hn, hlong⟩
      exact ⟨n, ⟨e, he, hn⟩, hlong⟩
  rw [hnodes]
  constructor
  · rintro ⟨e, he, hlong⟩
    revert hlong
    refine forall_mem_shown (p := fun v => v.HoldsLongInteger → r.HoldsLongInteger) ?_ ?_ ?_ e he
    · simp [Value.HoldsLongInteger, Value.nodes]
    · simp [Value.HoldsLongInteger, Value.nodes, Value.nodesOfFields]
    · exact fun v hv hlong => ⟨v, hv, hlong⟩
  · rintro ⟨v, hv, hlong⟩
    suffices h : ∃ key, (key, v) ∈ r.shown requestId timestamp message from
      h.elim fun key hkey => ⟨(key, v), hkey, hlong⟩
    simp only [values, List.mem_cons, List.not_mem_nil, or_false] at hv
    rcases hv with rfl | rfl | rfl | rfl | rfl
    · exact ⟨"level", by simp [shown]⟩
    · exact ⟨"logger", by simp [shown]⟩
    · exact ⟨"function", by simp [shown]⟩
    · exact ⟨"line", by simp [shown]⟩
    · have hfields : r.fields ≠ [] := by
        rintro hnil
        rw [hnil] at hlong
        simp [Value.HoldsLongInteger, Value.nodes, Value.nodesOfFields] at hlong
      exact ⟨"extra", by simp [shown, entryOf, hfields]⟩

/-! ## Lines -/

/-- What an object says of a record. -/
structure Tells (requestId : String) (r : Record) (es : List (String × Value)) : Prop where
  moment : ∃ t, Timestamp.text r.created = .ok t ∧ Keyed.get? es "timestamp" = some (.text t)
  level : Keyed.get? es "level" = some (told r.level)
  logger : Keyed.get? es "logger" = some (told r.logger)
  message : ∃ m, r.filledMessage = .ok m ∧ Keyed.get? es "message" = some (.text m)
  function : Keyed.get? es "function" = some (told r.function)
  line : Keyed.get? es "line" = some (told r.line)
  request : Keyed.get? es "request_id" = if requestId = "" then none else some (.text requestId)
  exception : Keyed.get? es "exception" = r.exception.shown?
  extra : Keyed.get? es "extra" = if r.fields = [] then none else some (told (.record r.fields))
  keys : (Keyed.keys es).Sublist lineKeys

theorem get?_shown (key : String) : Keyed.get? (r.shown requestId timestamp message) key =
    (((Keyed.get? [("timestamp", .text timestamp), ("level", r.level), ("logger", r.logger),
      ("message", .text message), ("function", r.function), ("line", r.line)] key).or
        (if "request_id" = key then if requestId = "" then none else some (.text requestId)
          else none)).or (if "exception" = key then r.exception.shown? else none)).or
            (if "extra" = key then if r.fields = [] then none else some (.record r.fields)
              else none) := by
  simp only [shown, Keyed.get?_append, get?_entryOf]

/-- **The entries of a line tell the record.** -/
theorem tells_shown (hmoment : Timestamp.text r.created = .ok timestamp)
    (hmessage : r.filledMessage = .ok message) :
    r.Tells requestId (toldEntries (r.shown requestId timestamp message)) := by
  have hget (key : String) : Keyed.get? (toldEntries (r.shown requestId timestamp message)) key =
      (Keyed.get? (r.shown requestId timestamp message) key).map told := by
    rw [Json.toldEntries_eq_map]
    exact Keyed.get?_map _ (fun _ => told) key
  have hexception : r.exception.shown?.map told = r.exception.shown? := by
    cases r.exception <;> rfl
  constructor
  case moment => exact ⟨timestamp, hmoment, by simp [hget, get?_shown, Keyed.get?, told]⟩
  case message => exact ⟨message, hmessage, by simp [hget, get?_shown, Keyed.get?, told]⟩
  case level => simp [hget, get?_shown, Keyed.get?]
  case logger => simp [hget, get?_shown, Keyed.get?]
  case function => simp [hget, get?_shown, Keyed.get?]
  case line => simp [hget, get?_shown, Keyed.get?]
  case request =>
    rw [hget, get?_shown]
    by_cases h : requestId = "" <;> simp [Keyed.get?, told, h]
  case exception => simpa [hget, get?_shown, Keyed.get?] using hexception
  case extra =>
    rw [hget, get?_shown]
    by_cases h : r.fields = [] <;> simp [Keyed.get?, h]
  case keys =>
    rw [Json.keys_toldEntries]
    exact keys_shown_sublist

theorem write?_eq_some_iff {style : Json.Style} {v : Value} {line : String} :
    Json.write? style v = some line ↔ ¬ v.HoldsLongInteger ∧ Json.write style v = line := by
  rw [← Value.holdsLong_iff, Json.write?]
  cases v.holdsLong <;> simp

/-- A record has the line of its entries, unless an integer in them is too long. -/
theorem lineText_eq_ok_iff {line : String} : r.lineText requestId = .ok line ↔
    ∃ es, r.entries requestId = .ok es ∧ ¬ r.HoldsLongInteger ∧
      Json.write Json.spaced (.record es) = line := by
  unfold lineText
  cases hentries : r.entries requestId with
  | error e => simp
  | ok es =>
    obtain ⟨t, m, -, -, -, rfl⟩ := entries_eq_ok_iff.mp hentries
    have hwrite (line : String) :
        Json.write? Json.spaced (.record (r.shown requestId t m)) = some line ↔
          ¬ r.HoldsLongInteger ∧
            Json.write Json.spaced (.record (r.shown requestId t m)) = line := by
      rw [write?_eq_some_iff, holdsLongInteger_shown]
    simp only [Except.ok.injEq, exists_eq_left']
    rw [← hwrite]
    cases Json.write? Json.spaced (.record (r.shown requestId t m)) <;> simp

/-- **The line of a record.** A record has a line exactly when its moment, its message, its
exception and its integers can be written. The line is one line of printable ASCII, whatever texts
the record holds, and read as JSON it tells the record and nothing else. -/
theorem lineText_tells (requestId : String) (h : r.WellFormed) :
    ((∃ line, r.lineText requestId = .ok line) ↔ r.Writable) ∧
      ∀ line, r.lineText requestId = .ok line →
        (∀ c ∈ line.toList, Ascii.IsPrintable c) ∧
          ∃ es, Json.readText line.toList = .ok (.record es) ∧ r.Tells requestId es := by
  constructor
  · rw [writable_iff]
    constructor
    · rintro ⟨line, hline⟩
      obtain ⟨es, hes, hshort, -⟩ := lineText_eq_ok_iff.mp hline
      obtain ⟨t, m, hmoment, hmessage, hexception, -⟩ := entries_eq_ok_iff.mp hes
      exact ⟨⟨⟨t, hmoment⟩, ⟨m, hmessage⟩, hexception⟩, hshort⟩
    · rintro ⟨⟨⟨t, hmoment⟩, ⟨m, hmessage⟩, hexception⟩, hshort⟩
      have hentries : r.entries requestId = .ok (r.shown requestId t m) :=
        entries_eq_ok_iff.mpr ⟨t, m, hmoment, hmessage, hexception, rfl⟩
      exact ⟨_, lineText_eq_ok_iff.mpr ⟨_, hentries, hshort, rfl⟩⟩
  · intro line hline
    obtain ⟨_, hes, hshort, rfl⟩ := lineText_eq_ok_iff.mp hline
    obtain ⟨t, m, hmoment, hmessage, -, rfl⟩ := entries_eq_ok_iff.mp hes
    have hwritten : Value.WellFormed (.record (r.shown requestId t m)) := wellFormed_shown h
    have hcuts := Json.cuts_writeChars Json.regular_spaced hwritten
    have houtline : Json.outline _ = .ok (.record (toldEntries (r.shown requestId t m))) :=
      Json.outline_of_cuts hwritten hcuts
    rw [Json.write, String.toList_ofList]
    refine ⟨Json.isPrintable_of_mem_writeChars Json.plain_spaced rfl _, _, ?_,
      tells_shown hmoment hmessage⟩
    rw [Json.readText_eq_ok_iff_outline, Json.hasLongInteger_of_cuts hcuts, holdsLongInteger_shown]
    exact ⟨houtline, hshort⟩

/-- A record whose texts look like entries, with fields that have the names of entries. -/
def forgery : Record :=
  let r : Record := {
    created := .int 0
    level := .text "INFO"
    logger := .text "app"
    message := .text "done\", \"level\": \"CRITICAL\"\x7d\n\x7b\"level\": \"CRITICAL\"\x7d"
    arguments := .tuple []
    function := .null
    line := .int 10
    exception := .caught "ValueError" "\x7f\r\n"
    fields := [] }
  (r.set "level" (.text "CRITICAL")).set "message\n"
    (.tuple [.text "é", .record [("level", .null)]])

/-- The entries of the forged record are its own, and what was forged stands under `extra`. -/
theorem lineText_tells_forgery : forgery.WellFormed ∧ ∃ line es,
    forgery.lineText "1\", \"level\": \"" = .ok line ∧
      (∀ c ∈ line.toList, Ascii.IsPrintable c) ∧ Json.readText line.toList = .ok (.record es) ∧
      Keyed.get? es "level" = some (.text "INFO") ∧
      Keyed.get? es "message" = some forgery.message ∧
      Keyed.get? es "request_id" = some (.text "1\", \"level\": \"") ∧
      Keyed.get? es "extra" = some (.record [("level", .text "CRITICAL"),
        ("message\n", .list [.text "é", .record [("level", .null)]])]) := by
  have hwellFormed : forgery.WellFormed := by
    refine wellFormed_set (wellFormed_set ?_ _ ?_) _ ?_ <;>
      simp [WellFormed, values, Value.WellFormed, Value.AllWellFormed, Value.HoldWellFormed,
        Keyed.keys]
  have hshort : ¬ forgery.HoldsLongInteger := by
    rintro ⟨v, hv, n, hn, hlong⟩
    have hvalues : forgery.values = [.text "INFO", .text "app", .null, .int 10,
      .record [("level", .text "CRITICAL"),
        ("message\n", .tuple [.text "é", .record [("level", .null)]])]] := rfl
    obtain rfl : n = 10 := by
      simp only [hvalues, List.mem_cons, List.not_mem_nil, or_false] at hv
      rcases hv with rfl | rfl | rfl | rfl | rfl <;>
        simp [Value.nodes, Value.nodesOfFields, Value.nodesOfItems] at hn
      exact hn
    exact absurd hlong (by decide)
  have hwritable : forgery.Writable :=
    ⟨⟨⟨0, 0⟩, rfl, by unfold Timestamp.Moment.InFourDigitYear; decide⟩,
      Value.holdsLong_eq_false_iff.mp rfl, fun h => absurd h (by decide), trivial, hshort⟩
  have htells := lineText_tells "1\", \"level\": \"" hwellFormed
  obtain ⟨line, hline⟩ := htells.1.mpr hwritable
  obtain ⟨hprintable, es, hread, hes⟩ := htells.2 line hline
  refine ⟨hwellFormed, line, es, hline, hprintable, hread, hes.level, ?_, hes.request, hes.extra⟩
  obtain ⟨m, hm, hmessage⟩ := hes.message
  cases hm
  exact hmessage

/-- A record with one argument that is no number, for a placeholder of numbers. -/
def misfit : Record where
  created := .int 0
  level := .text "INFO"
  logger := .text "alert_bicep.test"
  message := .text "%d"
  arguments := .tuple [.text "x"]
  function := .null
  line := .int 1
  exception := .none
  fields := []

/-- The same without the argument, and with a field that holds an integer that is too long. -/
def lengthy : Record :=
  { misfit with arguments := .tuple [], fields := [("count", .int Value.leastLong)] }

/-- There is no line for a message that its arguments do not fit, and none for an integer that is
too long. -/
theorem no_line :
    misfit.lineText "" = .error (.message (.notANumber 'd' "str")) ∧
      lengthy.lineText "" = .error .unwritableInteger := by
  refine ⟨rfl, ?_⟩
  have hentries : lengthy.entries "" = .ok (lengthy.shown "" "1970-01-01T00:00:00+00:00" "%d") :=
    rfl
  have hlong : (Value.record (lengthy.shown "" "1970-01-01T00:00:00+00:00" "%d")).holdsLong =
      true := by
    simp [shown, lengthy, misfit, entryOf, ExceptionInfo.shown?, Value.holdsLong,
      Value.anyEntryHoldsLong, Value.isLongInteger_leastLong]
  rw [lineText, hentries]
  dsimp only
  rw [Json.write?, hlong]
  rfl

end Record

end HealthAlert.Log
