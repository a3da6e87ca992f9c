import HealthAlert.Proofs.Json.Whole
import HealthAlert.Proofs.Options.Caching

/-!
# What a load of a list gives

A list is read from an array in its data file. An array without entries is no list, but one whose
entries are all left out is, and gives an empty list. Since a list that was read is kept, what a
load gives may have been read by an earlier one.

* `load_eq_ok_iff`, `load_eq_failure_iff`: which data files give a list, and which the failure that
  there is none.
* `Session.keptAs_run`: what is kept was read from the file as it was at some point of the run.
* **`Session.load_gives`**: what a load gives in any session, and when the list is empty.
* `Session.load_gives_nothing`: a load that gives an empty list.
-/

namespace HealthAlert.Options

/-! ## Entries -/

/-- The entry is a record whose value and label both count as something. -/
def IsChoice (entry : Value) : Prop :=
  ∃ fields value label, entry = .record fields ∧
    Keyed.get? fields "value" = some value ∧ value.truthy = true ∧
    Keyed.get? fields "label" = some label ∧ label.truthy = true

theorem choiceOf?_eq_none_iff {entry : Value} : choiceOf? entry = none ↔ ¬ IsChoice entry := by
  unfold IsChoice
  cases entry with
  | record fields =>
    cases hvalue : Keyed.get? fields "value" with
    | none => simp [choiceOf?, hvalue]
    | some value =>
      cases hlabel : Keyed.get? fields "label" with
      | none => simp [choiceOf?, hvalue, hlabel]
      | some label => simp [choiceOf?, hvalue, hlabel]
  | _ => simp [choiceOf?]

/-- Every entry is left out exactly when none is a choice. -/
theorem choices_eq_nil_iff {file : String} {kind : OptionKind} {entries : List Value}
    {lone : Text.StandIns} :
    (ofEntries file kind entries lone).choices = [] ↔ ∀ e ∈ entries, ¬ IsChoice e := by
  unfold ofEntries
  simp only [List.map_eq_nil_iff, List.filterMap_eq_nil_iff, choiceOf?_eq_none_iff]

/-- A mark on a choice is not seen in the list that is given. -/
theorem map_ofChoice_ofEntries (file : String) (kind : OptionKind) (entries : List Value)
    (lone : Text.StandIns) :
    (ofEntries file kind entries lone).choices.map Object.ofChoice =
      (entries.filterMap choiceOf?).map Object.ofChoice := by
  unfold ofEntries
  rw [List.map_map]
  rfl

theorem choices_packaged_ne_nil (kind : OptionKind) : Catalog.choices kind ≠ [] := by
  cases kind <;> exact List.cons_ne_nil _ _

/-! ## Contents -/

section Content

variable {file : String} {kind : OptionKind} {bytes : List UInt8} {loading : Loading}

theorem ofContent_eq_ok_iff :
    ofContent file kind bytes = .ok loading ↔
      ∃ cs entries lone, Text.ofFile bytes = .ok cs ∧
        Json.openText cs = .ok ⟨.list entries, lone⟩ ∧ entries ≠ [] ∧
        loading = ofEntries file kind entries lone := by
  unfold ofContent
  cases Text.ofFile bytes with
  | error fault => simp
  | ok cs =>
    cases hread : Json.openText cs with
    | error e => cases e <;> simp [hread]
    | ok d =>
      obtain ⟨v, lone⟩ := d
      cases v with
      | list entries => cases entries <;> simp [hread, eq_comm]
      | _ => simp [hread]

/-- The failure that a content holds no list is about text without such an array. -/
theorem ofContent_eq_failure_iff :
    (∃ fault, ofContent file kind bytes = .error (.failure (Fault.failure kind fault))) ↔
      ∃ cs, Text.ofFile bytes = .ok cs ∧
        (∀ digits, Json.openText cs ≠ .error (.longInteger digits)) ∧
        ∀ entries lone, Json.openText cs = .ok ⟨.list entries, lone⟩ → entries = [] := by
  unfold ofContent
  cases Text.ofFile bytes with
  | error fault => simp
  | ok cs =>
    cases hread : Json.openText cs with
    | error e => cases e <;> simp [hread]
    | ok d =>
      obtain ⟨v, lone⟩ := d
      cases v with
      | list entries => cases entries <;> simp [hread]
      | _ => simp [hread]

end Content

/-! ## Data files -/

section Files

variable {files : FileTree} {p : Path} {kind : OptionKind} {loading : Loading}

/-- The data file of a list holds an array with these entries, in whose texts some characters stand
for lone surrogates. -/
def HoldsEntries (files : FileTree) (p : Path) (kind : OptionKind) (entries : List Value)
    (lone : Text.StandIns) : Prop :=
  ∃ bytes cs, files.lookup (p.child kind.fileName) = .file bytes ∧ Text.ofFile bytes = .ok cs ∧
    Json.openText cs = .ok ⟨.list entries, lone⟩

/-- The path of a data file is not too long and goes through no directory that may not be searched,
and if there is a file that may be read, it is text, in which no integer is too long. -/
structure Legible (files : FileTree) (p : Path) (kind : OptionKind) : Prop where
  told : ∀ d, files.lookup (p.child kind.fileName) = .deadEnd d → d.hides = false
  text : ∀ bytes, files.lookup (p.child kind.fileName) = .file bytes →
    ∃ cs, Text.ofFile bytes = .ok cs ∧ ∀ digits, Json.openText cs ≠ .error (.longInteger digits)

theorem load_of_lookup {bytes : List UInt8}
    (h : files.lookup (p.child kind.fileName) = .file bytes) :
    Options.load files (.inDirectory p) kind =
      ofContent (p.child kind.fileName).text kind bytes := by
  simp only [Options.load, h]

/-- Where nobody can tell whether there is a file, the load ends in an error. -/
theorem load_of_hides {d : DeadEnd} (h : files.lookup (p.child kind.fileName) = .deadEnd d)
    (hd : d.hides = true) :
    Options.load files (.inDirectory p) kind =
      .error (.internal (FileTree.deadEndError (p.child kind.fileName) d)) := by
  simp only [Options.load, h]
  exact if_pos hd

/-- Where there is no file that may be read, there is no list. -/
theorem exists_load_of_not_file
    (h : ∀ bytes, files.lookup (p.child kind.fileName) ≠ .file bytes)
    (htold : ∀ d, files.lookup (p.child kind.fileName) = .deadEnd d → d.hides = false) :
    ∃ fault, Options.load files (.inDirectory p) kind =
      .error (.failure (Fault.failure kind fault)) := by
  unfold Options.load
  cases hnode : files.lookup (p.child kind.fileName) with
  | file bytes => exact absurd hnode (h bytes)
  | deadEnd d =>
    simp only [hnode, htold d hnode]
    exact ⟨.missing, rfl⟩
  | _ =>
    simp only [hnode]
    exact ⟨_, rfl⟩

/-- What is no file gives no list. -/
theorem load_ne_ok_of_not_file
    (h : ∀ bytes, files.lookup (p.child kind.fileName) ≠ .file bytes) :
    Options.load files (.inDirectory p) kind ≠ .ok loading := by
  by_cases hhidden : ∃ d, files.lookup (p.child kind.fileName) = .deadEnd d ∧ d.hides = true
  · obtain ⟨d, hd, hhides⟩ := hhidden
    rw [load_of_hides hd hhides]
    simp
  · obtain ⟨fault, hfault⟩ := exists_load_of_not_file h fun d hd =>
      Bool.eq_false_iff.mpr fun hhides => hhidden ⟨d, hd, hhides⟩
    rw [hfault]
    simp

theorem holdsEntries_iff {bytes : List UInt8} {entries : List Value} {lone : Text.StandIns}
    (h : files.lookup (p.child kind.fileName) = .file bytes) :
    HoldsEntries files p kind entries lone ↔
      ∃ cs, Text.ofFile bytes = .ok cs ∧ Json.openText cs = .ok ⟨.list entries, lone⟩ := by
  unfold HoldsEntries
  simp [h]

/-- **A data file gives a list exactly when it holds an array with entries.** -/
theorem load_eq_ok_iff :
    Options.load files (.inDirectory p) kind = .ok loading ↔
      ∃ entries lone, entries ≠ [] ∧ HoldsEntries files p kind entries lone ∧
        loading = ofEntries (p.child kind.fileName).text kind entries lone := by
  by_cases hfile : ∃ bytes, files.lookup (p.child kind.fileName) = .file bytes
  · obtain ⟨bytes, hbytes⟩ := hfile
    rw [load_of_lookup hbytes, ofContent_eq_ok_iff]
    simp only [holdsEntries_iff hbytes]
    constructor
    · rintro ⟨cs, entries, lone, htext, hread, hne, hloading⟩
      exact ⟨entries, lone, hne, ⟨cs, htext, hread⟩, hloading⟩
    · rintro ⟨entries, lone, hne, ⟨cs, htext, hread⟩, hloading⟩
      exact ⟨cs, entries, lone, htext, hread, hne, hloading⟩
  · rw [not_exists] at hfile
    refine iff_of_false (load_ne_ok_of_not_file hfile) ?_
    rintro ⟨_, _, -, ⟨bytes, _, hbytes, -⟩, -⟩
    exact hfile bytes hbytes

/-- **A data file gives the failure that there is no list exactly when it can be read and holds no
array with entries.** -/
theorem load_eq_failure_iff :
    (∃ fault, Options.load files (.inDirectory p) kind =
        .error (.failure (Fault.failure kind fault))) ↔
      Legible files p kind ∧
        ∀ entries lone, HoldsEntries files p kind entries lone → entries = [] := by
  by_cases hfile : ∃ bytes, files.lookup (p.child kind.fileName) = .file bytes
  · obtain ⟨bytes, hbytes⟩ := hfile
    rw [load_of_lookup hbytes, ofContent_eq_failure_iff]
    simp only [holdsEntries_iff hbytes]
    constructor
    · rintro ⟨cs, htext, hshort, hentries⟩
      refine ⟨⟨by simp [hbytes], fun other hother => ?_⟩, ?_⟩
      · obtain rfl := Node.file.inj (hbytes.symm.trans hother)
        exact ⟨cs, htext, hshort⟩
      · rintro entries lone ⟨cs', htext', hread⟩
        obtain rfl := Except.ok.inj (htext.symm.trans htext')
        exact hentries entries lone hread
    · rintro ⟨hlegible, hentries⟩
      obtain ⟨cs, htext, hshort⟩ := hlegible.text bytes hbytes
      exact ⟨cs, htext, hshort,
        fun entries lone hread => hentries entries lone ⟨cs, htext, hread⟩⟩
  · rw [not_exists] at hfile
    have hnone : ∀ entries lone, HoldsEntries files p kind entries lone → entries = [] := by
      rintro _ _ ⟨bytes, _, hbytes, -⟩
      exact absurd hbytes (hfile bytes)
    rw [and_iff_left hnone]
    constructor
    · rintro ⟨fault, hfault⟩
      refine ⟨fun d hd => Bool.eq_false_iff.mpr fun hhides => ?_,
        fun bytes hbytes => absurd hbytes (hfile bytes)⟩
      exact absurd ((load_of_hides hd hhides).symm.trans hfault) (by simp)
    · exact fun h => exists_load_of_not_file hfile h.told

end Files

/-! ## Sessions -/

namespace Session

variable {s : Session} {key : CacheKey} {P : Loading → Prop}

/-- **A run.** What is kept under a key comes from a loading of its file during the run, or before
it. -/
theorem keptAs_run (steps : List Step) (hg : s.Guarded) (h : s.KeptAs key P)
    (hP : ∀ before, before <+: steps → ∀ loading,
      Options.load (s.run before).files key.directory key.kind = .ok loading → P loading) :
    (s.run steps).KeptAs key P := by
  induction steps generalizing s with
  | nil => exact h
  | cons a rest ih =>
    have hfirst := hP [] List.nil_prefix
    exact ih (guarded_step a hg) (keptAs_step a hg h hfirst) fun before hbefore =>
      hP (a :: before) (List.prefix_cons_inj a |>.mpr hbefore)

variable {dir : DataDirectory} {kind : OptionKind} {d : Delivery}

/-- What a load gives is kept, or is read from the file now. -/
theorem KeptAs.exists_of_load (h : s.KeptAs ⟨kind, dir⟩ P)
    (hP : ∀ loading, Options.load s.files dir kind = .ok loading → P loading)
    (hd : (s.load dir kind).2 = .ok d) :
    ∃ loading, P loading ∧ d.content = loading.choices.map .ofChoice := by
  cases hfind : s.cache.find? ⟨kind, dir⟩ with
  | some kept =>
    obtain ⟨-, loading, hloading, hall⟩ := h kept hfind
    rw [load_of_find? hfind] at hd
    obtain rfl := Except.ok.inj hd
    exact ⟨loading, hloading, (content_deliver _ kept []).trans hall⟩
  | none =>
    cases hl : Options.load s.files dir kind with
    | ok loading =>
      rw [load_of_ok hfind hl] at hd
      obtain rfl := Except.ok.inj hd
      exact ⟨loading, hP loading hl, (content_deliver _ _ _).trans (Store.getAll_addAll _ _)⟩
    | error t =>
      rw [load_of_error hfind hl] at hd
      exact absurd hd (by simp)

/-- A load fails exactly when nothing is kept and reading the file fails so. -/
theorem load_eq_error_iff {t : Trouble} :
    (s.load dir kind).2 = .error t ↔
      s.cache.find? ⟨kind, dir⟩ = none ∧ Options.load s.files dir kind = .error t := by
  cases hfind : s.cache.find? ⟨kind, dir⟩ with
  | some kept =>
    rw [load_of_find? hfind]
    simp
  | none =>
    cases hl : Options.load s.files dir kind with
    | ok loading =>
      rw [load_of_ok hfind hl]
      simp
    | error t' =>
      rw [load_of_error hfind hl]
      simp

/-- What a load in a session gives was read from the file at some point of the session. -/
theorem exists_loading_of_load {files : FileTree} {steps : List Step}
    (hd : ((({ files } : Session).run steps).load dir kind).2 = .ok d) :
    ∃ before loading, before <+: steps ∧
      Options.load (({ files } : Session).run before).files dir kind = .ok loading ∧
      d.content = loading.choices.map .ofChoice := by
  have hkept : (({ files } : Session).run steps).KeptAs ⟨kind, dir⟩ fun loading =>
      ∃ before, before <+: steps ∧
        Options.load (({ files } : Session).run before).files dir kind = .ok loading :=
    keptAs_run steps (guarded_of_files files) (fun _ hkept => nomatch hkept)
      fun before hbefore _ hl => ⟨before, hbefore, hl⟩
  obtain ⟨loading, ⟨before, hbefore, hl⟩, hall⟩ :=
    hkept.exists_of_load (fun _ hl => ⟨steps, List.prefix_rfl, hl⟩) hd
  exact ⟨before, loading, hbefore, hl, hall⟩

/-- The packaged lists are always there. -/
theorem exists_load_packaged (files : FileTree) (steps : List Step) (kind : OptionKind) :
    ∃ d, ((({ files } : Session).run steps).load .packaged kind).2 = .ok d ∧ d.content ≠ [] := by
  cases hd : ((({ files } : Session).run steps).load .packaged kind).2 with
  | error t => exact nomatch (load_eq_error_iff.mp hd).2
  | ok d =>
    obtain ⟨_, loading, -, hl, hall⟩ := exists_loading_of_load hd
    obtain rfl := Except.ok.inj hl
    refine ⟨d, rfl, fun hnil => ?_⟩
    rw [hall] at hnil
    exact choices_packaged_ne_nil kind (List.map_eq_nil_iff.mp hnil)

/-- **What a load gives.** In any session the packaged lists are given, with choices. Any other
list that is given holds the choices in an array that was in its data file at some point of the
session. There were entries in it, but the list is empty when none of them was a choice. A load
fails for want of a list exactly when nothing is kept and the data file, which can be read, holds no
array with entries. -/
theorem load_gives (files : FileTree) (steps : List Step) (kind : OptionKind) :
    let s := ({ files } : Session).run steps
    (∃ d, (s.load .packaged kind).2 = .ok d ∧ d.content ≠ []) ∧
      ∀ p : Path,
        (∀ d, (s.load (.inDirectory p) kind).2 = .ok d →
          ∃ before entries lone, before <+: steps ∧ entries ≠ [] ∧
            HoldsEntries (({ files } : Session).run before).files p kind entries lone ∧
            d.content = (entries.filterMap choiceOf?).map .ofChoice ∧
            (d.content = [] ↔ ∀ e ∈ entries, ¬ IsChoice e)) ∧
          ((∃ fault, (s.load (.inDirectory p) kind).2 =
              .error (.failure (Fault.failure kind fault))) ↔
            s.cache.find? ⟨kind, .inDirectory p⟩ = none ∧ Legible s.files p kind ∧
              ∀ entries lone, HoldsEntries s.files p kind entries lone → entries = []) := by
  refine ⟨exists_load_packaged files steps kind, fun p => ⟨fun d hd => ?_, ?_⟩⟩
  · obtain ⟨before, loading, hbefore, hl, hall⟩ := exists_loading_of_load hd
    obtain ⟨entries, lone, hne, hholds, rfl⟩ := load_eq_ok_iff.mp hl
    refine ⟨before, entries, lone, hbefore, hne, hholds,
      hall.trans (map_ofChoice_ofEntries _ _ _ _), ?_⟩
    rw [hall, List.map_eq_nil_iff]
    exact choices_eq_nil_iff
  · simp only [load_eq_error_iff, exists_and_left, load_eq_failure_iff]

/-- A list is loaded before its data file is emptied. -/
def emptiedLater : List Step := [
  .write (.ofText "d/severity.json") oneSeverity,
  .load (.inDirectory (.ofText "d")) "severity",
  .write (.ofText "d/severity.json") "[]".toUTF8.toList]

/-- The next load gives the list that the file held. -/
theorem load_gives_emptiedLater :
    ∃ d, ((({} : Session).run emptiedLater).load (.inDirectory (.ofText "d")) .severity).2 =
        .ok d ∧ d.content ≠ [] ∧
      ∃ before entries lone, before <+: emptiedLater ∧
        HoldsEntries (({} : Session).run before).files (.ofText "d") .severity entries lone ∧
        ∃ e ∈ entries, IsChoice e := by
  have hlength : ((({} : Session).run emptiedLater).load (.inDirectory (.ofText "d"))
      .severity).2.toOption.map (·.content.length) = some 1 := by decide +kernel
  cases hd : ((({} : Session).run emptiedLater).load (.inDirectory (.ofText "d")) .severity).2 with
  | error t =>
    rw [hd] at hlength
    exact absurd hlength (by simp [Except.toOption])
  | ok d =>
    rw [hd] at hlength
    have hne : d.content ≠ [] := by
      intro hnil
      simp [Except.toOption, hnil] at hlength
    obtain ⟨before, entries, lone, hbefore, -, hholds, -, hiff⟩ :=
      ((load_gives {} emptiedLater .severity).2 (.ofText "d")).1 d hd
    have hsome := mt hiff.mpr hne
    simp only [not_forall, not_not, exists_prop] at hsome
    exact ⟨d, rfl, hne, before, entries, lone, hbefore, hholds, hsome⟩

/-- An array with one entry, whose value is empty. -/
def noChoice : String := "[\x7b\"value\": \"\", \"label\": \"One\"\x7d]"

/-- The entry of `noChoice`. -/
def noChoiceEntry : Value := .record [("value", .text ""), ("label", .text "One")]

/-- The array is written to the data file of a list. -/
def noChoiceWritten : Session :=
  ({} : Session).run [.write (.ofText "d/severity.json") noChoice.toUTF8.toList]

/-- A load that gives an empty list, since the one entry in the data file is no choice. -/
theorem load_gives_nothing :
    HoldsEntries noChoiceWritten.files (.ofText "d") .severity [noChoiceEntry] [] ∧
      ¬ IsChoice noChoiceEntry ∧
      ∃ d, (noChoiceWritten.load (.inDirectory (.ofText "d")) .severity).2 = .ok d ∧
        d.content = [] := by
  have hlookup : noChoiceWritten.files.lookup (Path.child (.ofText "d") "severity.json") =
      .file noChoice.toUTF8.toList := by decide +kernel
  have htext : Text.ofFile noChoice.toUTF8.toList = .ok noChoice.toList := by decide +kernel
  have hread : Json.read noChoice.toList = .ok (.list [noChoiceEntry]) := rfl
  have hwhole : Json.Whole noChoice.toList := by decide
  have hopen : Json.openText noChoice.toList = .ok ⟨.list [noChoiceEntry], []⟩ := by
    rw [Json.openText_of_whole hwhole, hread]
    rfl
  have hholds : HoldsEntries noChoiceWritten.files (.ofText "d") .severity [noChoiceEntry] [] :=
    ⟨_, _, hlookup, htext, hopen⟩
  have hnot : ¬ IsChoice noChoiceEntry := choiceOf?_eq_none_iff.mp rfl
  refine ⟨hholds, hnot, ?_⟩
  have hload := load_eq_ok_iff.mpr ⟨_, _, List.cons_ne_nil _ _, hholds, rfl⟩
  rw [load_of_ok rfl hload]
  refine ⟨_, rfl, ?_⟩
  rw [content_deliver]
  exact (Store.getAll_addAll _ _).trans rfl

end Session

end HealthAlert.Options
