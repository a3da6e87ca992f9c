import HealthAlert.Proofs.Options.Reading

/-!
# How a load of a list ends

A load gives the list, or fails because no list has the name or because the data file holds none. It
ends in an error that no caller expects where the data file cannot be read as JSON text at all:
`Obstructs` lists the reasons.

* `load_eq_internal_iff`: reading a data file ends in such an error exactly when something obstructs
  it.
* `Cache.loadNamed_eq_failure`: the failures of a load by a name, and what they are about.
* `Cache.loadNamed_eq_internal_iff`: when a load by a name ends in such an error, whatever the cache
  holds.
-/

namespace HealthAlert.Options

/-! ## Data files -/

section Files

variable {files : FileTree} {p : Path} {kind : OptionKind} {e : InternalError}

/-- Why the data file of a list cannot be read, with the error that follows. -/
inductive Obstructs (files : FileTree) (p : Path) (kind : OptionKind) : InternalError → Prop where
  /-- The path is too long for any file. -/
  | tooLong (h : files.lookup (p.child kind.fileName) = .deadEnd .tooLong) :
    Obstructs files p kind (.nameTooLong (p.child kind.fileName).text)
  /-- A directory on the way to the file may not be searched. -/
  | barred (h : files.lookup (p.child kind.fileName) = .deadEnd .barred) :
    Obstructs files p kind (.permissionDenied (p.child kind.fileName).text)
  /-- The file is not UTF-8. -/
  | undecodable {bytes : List UInt8} {fault : Text.Utf8.Fault}
    (hfile : files.lookup (p.child kind.fileName) = .file bytes)
    (h : Text.Utf8.decode bytes = .error fault) : Obstructs files p kind (.undecodable fault)
  /-- The first thing in the text that cannot be read is an integer with too many digits. -/
  | longInteger {bytes : List UInt8} {cs : List Char} {digits : Nat}
    (hfile : files.lookup (p.child kind.fileName) = .file bytes)
    (htext : Text.ofFile bytes = .ok cs) (h : Json.openText cs = .error (.longInteger digits)) :
    Obstructs files p kind (.longInteger digits)

theorem ofFile_eq_error_iff {bytes : List UInt8} {fault : Text.Utf8.Fault} :
    Text.ofFile bytes = .error fault ↔ Text.Utf8.decode bytes = .error fault := by
  unfold Text.ofFile
  cases Text.Utf8.decode bytes <;> simp [Except.map]

/-- The content of a data file ends in an internal error when it is no text, or when an integer in
it is too long. -/
theorem ofContent_eq_internal_iff {file : String} {bytes : List UInt8} :
    ofContent file kind bytes = .error (.internal e) ↔
      (∃ fault, Text.Utf8.decode bytes = .error fault ∧ e = .undecodable fault) ∨
        ∃ cs digits, Text.ofFile bytes = .ok cs ∧
          Json.openText cs = .error (.longInteger digits) ∧ e = .longInteger digits := by
  simp only [← ofFile_eq_error_iff]
  unfold ofContent
  cases Text.ofFile bytes with
  | error fault => simp [eq_comm]
  | ok cs =>
    cases hread : Json.openText cs with
    | error problem => cases problem <;> simp [hread, eq_comm]
    | ok d =>
      obtain ⟨v, lone⟩ := d
      cases v with
      | list entries => cases entries <;> simp [hread]
      | _ => simp [hread]

/-- **Reading a data file ends in an internal error exactly when something obstructs it.** -/
theorem load_eq_internal_iff :
    Options.load files (.inDirectory p) kind = .error (.internal e) ↔
      Obstructs files p kind e := by
  by_cases hfile : ∃ bytes, files.lookup (p.child kind.fileName) = .file bytes
  · obtain ⟨bytes, hbytes⟩ := hfile
    rw [load_of_lookup hbytes, ofContent_eq_internal_iff]
    constructor
    · rintro (⟨fault, hdecode, rfl⟩ | ⟨cs, digits, htext, hread, rfl⟩)
      · exact .undecodable hbytes hdecode
      · exact .longInteger hbytes htext hread
    · rintro (hlong | hbarred | ⟨hother, hdecode⟩ | ⟨hother, htext, hread⟩)
      · exact absurd (hbytes.symm.trans hlong) (by simp)
      · exact absurd (hbytes.symm.trans hbarred) (by simp)
      · obtain rfl := Node.file.inj (hbytes.symm.trans hother)
        exact Or.inl ⟨_, hdecode, rfl⟩
      · obtain rfl := Node.file.inj (hbytes.symm.trans hother)
        exact Or.inr ⟨_, _, htext, hread, rfl⟩
  · rw [not_exists] at hfile
    constructor
    · intro h
      by_cases hhidden : ∃ d, files.lookup (p.child kind.fileName) = .deadEnd d ∧ d.hides = true
      · obtain ⟨d, hd, hhides⟩ := hhidden
        obtain rfl := Trouble.internal.inj
          (Except.error.inj ((load_of_hides hd hhides).symm.trans h))
        cases d with
        | tooLong => exact .tooLong hd
        | barred => exact .barred hd
        | _ => exact absurd hhides Bool.false_ne_true
      · obtain ⟨fault, hfault⟩ := exists_load_of_not_file hfile fun d hd =>
          Bool.eq_false_iff.mpr fun hhides => hhidden ⟨d, hd, hhides⟩
        exact absurd (hfault.symm.trans h) (by simp)
    · rintro (hlong | hbarred | ⟨hother, -⟩ | ⟨hother, -, -⟩)
      · exact load_of_hides hlong rfl
      · exact load_of_hides hbarred rfl
      · exact absurd hother (hfile _)
      · exact absurd hother (hfile _)

theorem exists_fault_of_ofContent {file : String} {bytes : List UInt8} {f : Failure}
    (h : ofContent file kind bytes = .error (.failure f)) :
    ∃ fault, f = Fault.failure kind fault := by
  unfold ofContent at h
  split at h
  · cases h
  · split at h
    · cases h
      exact ⟨_, rfl⟩
    · cases h
    · cases h
    · cases h
      exact ⟨_, rfl⟩

/-- A failure of reading a data file is about the file. -/
theorem exists_fault_of_load {dir : DataDirectory} {f : Failure}
    (h : Options.load files dir kind = .error (.failure f)) :
    ∃ fault, f = Fault.failure kind fault := by
  unfold Options.load at h
  split at h
  · cases h
  · dsimp only at h
    split at h
    · exact exists_fault_of_ofContent h
    · cases h
      exact ⟨_, rfl⟩
    · split at h
      · cases h
      · cases h
        exact ⟨_, rfl⟩
    · cases h
      exact ⟨_, rfl⟩

end Files

/-! ## Loads by a name -/

namespace Cache

variable {c : Cache} {files : FileTree} {dir : DataDirectory} {name : String}

/-- A load by the name reads a data file that cannot be read, and ends in this error. -/
def Escapes (c : Cache) (files : FileTree) (dir : DataDirectory) (name : String)
    (e : InternalError) : Prop :=
  ∃ kind p, name = kind.name ∧ dir = .inDirectory p ∧ c.find? ⟨kind, dir⟩ = none ∧
    Obstructs files p kind e

/-- A load fails exactly when nothing is kept and reading the file fails so. -/
theorem load_eq_error_iff {kind : OptionKind} {t : Trouble} :
    (c.load files dir kind).1 = .error t ↔
      c.find? ⟨kind, dir⟩ = none ∧ Options.load files dir kind = .error t := by
  cases hfind : c.find? ⟨kind, dir⟩ with
  | some kept => simp [load, hfind]
  | none => cases hl : Options.load files dir kind <;> simp [load, hfind, hl]

theorem loadNamed_of_resolve {kind : OptionKind} (h : OptionKind.resolve name = .ok kind) :
    c.loadNamed files dir name = c.load files dir kind := by
  simp only [loadNamed, h]

theorem loadNamed_of_unknown {f : Failure} (h : OptionKind.resolve name = .error f) :
    c.loadNamed files dir name = (.error (.failure f), c) := by
  simp only [loadNamed, h]

/-- **What a load fails with.** No list has the name, or the data file of the list holds none. -/
theorem loadNamed_eq_failure {f : Failure}
    (h : (c.loadNamed files dir name).1 = .error (.failure f)) :
    ((∀ kind : OptionKind, name ≠ kind.name) ∧ f = OptionKind.unknown name) ∨
      ∃ kind fault, name = kind.name ∧ f = Fault.failure kind fault := by
  cases hr : OptionKind.resolve name with
  | error f' =>
    rw [loadNamed_of_unknown hr] at h
    cases h
    exact Or.inl (OptionKind.resolve_eq_error_iff.mp hr)
  | ok kind =>
    rw [loadNamed_of_resolve hr, load_eq_error_iff] at h
    obtain ⟨fault, rfl⟩ := exists_fault_of_load h.2
    exact Or.inr ⟨kind, fault, OptionKind.resolve_eq_ok_iff.mp hr, rfl⟩

/-- **A load ends in an internal error exactly when it has to read a file that cannot be read.** -/
theorem loadNamed_eq_internal_iff {e : InternalError} :
    (c.loadNamed files dir name).1 = .error (.internal e) ↔ c.Escapes files dir name e := by
  unfold Escapes
  simp only [← OptionKind.resolve_eq_ok_iff]
  cases hr : OptionKind.resolve name with
  | error f => simp [loadNamed_of_unknown hr]
  | ok kind =>
    rw [loadNamed_of_resolve hr, load_eq_error_iff]
    cases dir with
    | packaged => simp [Options.load]
    | inDirectory p => simp [load_eq_internal_iff]

end Cache

end HealthAlert.Options
