import HealthAlert.Options.Session
import HealthAlert.Proofs.Files.Growth
import Mathlib.Data.List.Basic

/-!
# The cache cannot be seen while the files stay

A list that is kept is the list that reading its file would give, as long as nothing has written or
removed the file since the cache was cleared; and what callers do to the lists that they were given
does not reach the records that are kept, since a load gives copies.

* `Session.Hidden`: addresses of objects that no caller was given.
* `Session.KeptAs`, `Session.keptAs_step`: where what is kept under a key comes from, and one step.
* `Session.Current`: what is kept under a key is what reading the file gives now.
* `Session.current_step`, `Session.current_run`: one step, and a run.
* **`Session.load_of_untouched`**: a load of a file that was left alone gives what reading it with
  an empty cache gives, options or error.
-/

namespace HealthAlert.Options

/-! ## Objects -/

namespace Store

variable {s : Store} {addresses : List Address}

theorem getAll_append (h : ∀ at' ∈ addresses, at' < s.objects.length) (objects : List Object) :
    ({ objects := s.objects ++ objects } : Store).getAll addresses = s.getAll addresses :=
  List.filterMap_congr fun at' hat => List.getElem?_append_left (h at' hat)

theorem getAll_set {at' : Address} (h : at' ∉ addresses) (object : Object) :
    (s.set at' object).getAll addresses = s.getAll addresses :=
  List.filterMap_congr fun _ hother => List.getElem?_set_ne (ne_of_mem_of_not_mem hother h).symm

theorem lt_of_mem_addAll {objects : List Object} {at' : Address}
    (h : at' ∈ (s.addAll objects).2) :
    s.objects.length ≤ at' ∧ at' < (s.addAll objects).1.objects.length := by
  have hr := List.mem_range'_1.mp h
  exact ⟨hr.1, by simpa [addAll] using hr.2⟩

/-- New objects are found at the addresses that they got. -/
theorem getAll_addAll (s : Store) (objects : List Object) :
    (s.addAll objects).1.getAll (s.addAll objects).2 = objects := by
  show (List.range' s.objects.length objects.length).filterMap
    ((s.objects ++ objects)[·]?) = objects
  induction objects generalizing s with
  | nil => rfl
  | cons o rest ih =>
    have happ := ih ⟨s.objects ++ [o]⟩
    simp only [List.length_append, List.length_singleton, List.append_assoc,
      List.singleton_append] at happ
    have hfirst : (s.objects ++ o :: rest)[s.objects.length]? = some o := by simp
    rw [List.length_cons, List.range'_succ, List.filterMap_cons_some hfirst, happ]

theorem content_append_list (s : Store) (items : List Address) :
    ({ objects := s.objects ++ [.list items] } : Store).content s.objects.length =
      ({ objects := s.objects ++ [.list items] } : Store).getAll items := by
  simp [content, get?]

end Store

/-! ## The cache -/

namespace LruCache

variable {α : Type} {c : LruCache α} {key other : CacheKey} {kept v : α}

theorem find?_cons_self (entries : List (CacheKey × α)) :
    ((key, v) :: entries).find? (·.1 == key) = some (key, v) :=
  List.find?_cons_of_pos (by simp)

theorem find?_cons_ne {entries : List (CacheKey × α)} (h : other ≠ key) :
    ((key, v) :: entries).find? (·.1 == other) = entries.find? (·.1 == other) :=
  List.find?_cons_of_neg (by simpa using Ne.symm h)

/-- A list that is found stays, and so do the others. -/
theorem find?_hit (h : c.find? key = some kept) :
    (c.hit key kept).find? other = c.find? other := by
  by_cases ho : other = key
  · rw [ho, h]
    unfold find? hit
    rw [find?_cons_self]
    rfl
  · unfold find? hit
    rw [find?_cons_ne ho, find?_filter_fst_ne ho]

/-- What is found after a list was read is that list, or was found before. -/
theorem find?_keep (h : (c.keep key kept).find? other = some v) :
    (other = key ∧ v = kept) ∨ c.find? other = some v := by
  obtain ⟨e, he, rfl⟩ := Option.map_eq_some_iff.mp h
  -- Dropping the list that was not asked for the longest only loses lists.
  have hall : ((key, kept) :: c.entries).find? (·.1 == other) = some e := by
    have htake : (((key, kept) :: c.entries).take capacity).find? (·.1 == other) = some e := he
    rw [← List.take_append_drop capacity ((key, kept) :: c.entries), List.find?_append, htake]
    rfl
  by_cases ho : other = key
  · rw [ho, find?_cons_self] at hall
    exact Or.inl ⟨ho, (congrArg (·.2) (Option.some.inj hall)).symm⟩
  · rw [find?_cons_ne ho] at hall
    exact Or.inr (Option.map_eq_some_iff.mpr ⟨e, hall, rfl⟩)

end LruCache

/-! ## Reading a file that stays -/

/-- A list that can be read stays the same while the files grow and its own is left alone. -/
theorem load_of_spares {t t' : FileTree} {dir : DataDirectory} {kind : OptionKind}
    {loading : Loading} (hg : t.Grows t')
    (hs : ∀ p, dir = .inDirectory p → ∀ here, t.locate (p.child kind.fileName) = .ok here →
      FileTree.Spares here t t')
    (h : Options.load t dir kind = .ok loading) : Options.load t' dir kind = .ok loading := by
  cases dir with
  | packaged =>
    rw [← h]
    unfold Options.load DataDirectory.fileText
    rw [hg.packageData]
  | inDirectory p =>
    unfold Options.load at h ⊢
    cases hl : t.locate (p.child kind.fileName) with
    | error d =>
      simp only [FileTree.lookup, hl] at h
      split at h <;> exact absurd h (by simp)
    | ok here =>
      simp only [FileTree.lookup, hl] at h
      cases hn : t.nodeAt here with
      | file bytes =>
        simp only [hn] at h
        simp only [FileTree.lookup, hg.locate hl, hs p rfl here hl bytes hn]
        exact h
      | directory => simp [hn] at h
      | locked => simp [hn] at h
      | missing => simp [hn] at h
      | deadEnd d => exact absurd hn (FileTree.nodeAt_ne_deadEnd d)

/-! ## Sessions -/

/-- The path of the file that a step writes or removes. -/
def Step.target? : Step → Option Path
  | .write p _ | .remove p => some p
  | _ => none

/-- The path of the data file of a list, unless it is a packaged one or there is no such list. -/
def dataFile? (dir : DataDirectory) (name : String) : Option Path :=
  match dir, OptionKind.resolve name with
  | .inDirectory p, .ok kind => some (p.child kind.fileName)
  | _, _ => none

namespace Session

variable {s s' : Session} {a : Step} {key : CacheKey} {here : Location} {P : Loading → Prop}

/-- Addresses of objects that no caller was given. -/
def Hidden (s : Session) (addresses : List Address) : Prop :=
  ∀ at' ∈ addresses, at' < s.store.objects.length ∧ at' ∉ s.given

/-- The addresses that callers were given are those of objects. -/
def Guarded (s : Session) : Prop :=
  ∀ at' ∈ s.given, at' < s.store.objects.length

/-- Objects that are hidden in one session are hidden in the other, and the same. -/
def Keeps (s s' : Session) : Prop :=
  ∀ addresses, s.Hidden addresses →
    s'.Hidden addresses ∧ s'.store.getAll addresses = s.store.getAll addresses

/-- What is kept under a key is hidden, and comes from a loading of which this holds. -/
def KeptAs (s : Session) (key : CacheKey) (P : Loading → Prop) : Prop :=
  ∀ kept, s.cache.find? key = some kept → s.Hidden kept ∧
    ∃ loading, P loading ∧ s.store.getAll kept = loading.choices.map .ofChoice

/-- What is kept under a key is hidden, and is what reading the file gives now. -/
def Current (s : Session) (key : CacheKey) : Prop :=
  ∀ kept, s.cache.find? key = some kept → s.Hidden kept ∧
    ∃ loading, Options.load s.files key.directory key.kind = .ok loading ∧
      s.store.getAll kept = loading.choices.map .ofChoice

theorem Keeps.of_append {objects : List Object} (hs : s'.store.objects = s.store.objects ++ objects)
    (hg : ∀ at' ∈ s'.given, at' ∈ s.given ∨ s.store.objects.length ≤ at') : s.Keeps s' := by
  intro addresses h
  refine ⟨fun at' hat => ⟨?_, fun hgiven => ?_⟩, ?_⟩
  · rw [hs, List.length_append]
    exact Nat.lt_add_right _ (h at' hat).1
  · rcases hg at' hgiven with hold | hnew
    · exact (h at' hat).2 hold
    · exact absurd (h at' hat).1 (Nat.not_lt.mpr hnew)
  · have := Store.getAll_append (fun at' hat => (h at' hat).1) objects
    rwa [← hs] at this

/-! ### Delivering -/

/-- The caller is given what is kept. -/
theorem content_deliver (s : Session) (kept : List Address) (log : List Log.Row) :
    (s.deliver kept log).2.content = s.store.getAll kept := by
  have hcopies : (s.deliver kept log).2.content =
      (s.store.addAll (s.store.getAll kept)).1.getAll (s.store.addAll (s.store.getAll kept)).2 :=
    (Store.content_append_list _ _).trans
      (Store.getAll_append (fun _ hat => (Store.lt_of_mem_addAll hat).2) _)
  rw [hcopies, Store.getAll_addAll]

/-- A caller is given new objects only. -/
theorem mem_given_deliver {kept : List Address} {log : List Log.Row} {at' : Address}
    (h : at' ∈ (s.deliver kept log).1.given) :
    at' ∈ s.given ∨ (s.store.objects.length ≤ at' ∧
      at' < (s.deliver kept log).1.store.objects.length) := by
  rcases List.mem_append.mp h with h | h
  · refine Or.inr ?_
    rcases List.mem_cons.mp h with rfl | h
    · simp [deliver, Store.addAll]
    · have hlt := Store.lt_of_mem_addAll h
      exact ⟨hlt.1, Nat.lt_of_lt_of_le hlt.2 (by simp [deliver])⟩
  · exact Or.inl h

theorem keeps_deliver (s : Session) (kept : List Address) (log : List Log.Row) :
    s.Keeps (s.deliver kept log).1 :=
  Keeps.of_append (List.append_assoc ..) fun _ h => (mem_given_deliver h).imp_right (·.1)

theorem guarded_deliver (kept : List Address) (log : List Log.Row) (h : s.Guarded) :
    (s.deliver kept log).1.Guarded := by
  intro at' hat
  rcases mem_given_deliver hat with hold | hnew
  · refine Nat.lt_of_lt_of_le (h at' hold) ?_
    simp only [deliver, Store.addAll, List.length_append, Nat.add_assoc]
    exact Nat.le_add_right _ _
  · exact hnew.2

/-! ### Loading -/

section Loading

variable {dir : DataDirectory} {kind : OptionKind} {kept : List Address} {loading : Loading}

theorem load_of_find? (h : s.cache.find? ⟨kind, dir⟩ = some kept) :
    s.load dir kind =
      (({ s with cache := s.cache.hit ⟨kind, dir⟩ kept }.deliver kept []).1,
        .ok ({ s with cache := s.cache.hit ⟨kind, dir⟩ kept }.deliver kept []).2) := by
  simp only [load, h]

/-- The session in which a list that was read is kept. -/
def keeping (s : Session) (key : CacheKey) (loading : Loading) : Session :=
  { s with
    store := (s.store.addAll (loading.choices.map .ofChoice)).1
    cache := s.cache.keep key (s.store.addAll (loading.choices.map .ofChoice)).2 }

theorem load_of_ok (h : s.cache.find? ⟨kind, dir⟩ = none)
    (hl : Options.load s.files dir kind = .ok loading) :
    s.load dir kind =
      (((s.keeping ⟨kind, dir⟩ loading).deliver
          (s.store.addAll (loading.choices.map .ofChoice)).2 loading.log).1,
        .ok ((s.keeping ⟨kind, dir⟩ loading).deliver
          (s.store.addAll (loading.choices.map .ofChoice)).2 loading.log).2) := by
  simp only [load, h, hl]
  rfl

theorem load_of_error {t : Trouble} (h : s.cache.find? ⟨kind, dir⟩ = none)
    (hl : Options.load s.files dir kind = .error t) :
    s.load dir kind = ({ s with cache := s.cache.miss }, .error t) := by
  simp only [load, h, hl]

theorem KeptAs.mono {Q : Loading → Prop} (h : s.KeptAs key P)
    (hPQ : ∀ loading, P loading → Q loading) : s.KeptAs key Q := by
  intro kept hkept
  obtain ⟨hhidden, loading, hP, hall⟩ := h kept hkept
  exact ⟨hhidden, loading, hPQ loading hP, hall⟩

/-- What is kept comes from the same loading while hidden objects stay. -/
theorem KeptAs.of_keeps (h : s.KeptAs key P) (hk : s.Keeps s')
    (hc : ∀ kept, s'.cache.find? key = some kept → s.cache.find? key = some kept) :
    s'.KeptAs key P := by
  intro kept hkept
  obtain ⟨hhidden, loading, hP, hall⟩ := h kept (hc kept hkept)
  obtain ⟨hhidden', hsame⟩ := hk kept hhidden
  exact ⟨hhidden', loading, hP, hsame.trans hall⟩

theorem KeptAs.deliver (h : s.KeptAs key P) (kept : List Address) (log : List Log.Row) :
    (s.deliver kept log).1.KeptAs key P :=
  h.of_keeps (keeps_deliver s kept log) fun _ hkept => hkept

theorem guarded_keeping (h : s.Guarded) : (s.keeping key loading).Guarded := by
  intro at' hat
  have hlt := h at' hat
  simp only [keeping, Store.addAll, List.length_append]
  exact Nat.lt_add_right _ hlt

/-- A list that was read is kept in objects that no caller was given. -/
theorem keptAs_keeping {other : CacheKey} (hg : s.Guarded) (h : s.KeptAs key P)
    (hP : other = key → P loading) : (s.keeping other loading).KeptAs key P := by
  intro kept hkept
  rcases LruCache.find?_keep hkept with ⟨rfl, rfl⟩ | hold
  · refine ⟨fun at' hat => ⟨(Store.lt_of_mem_addAll hat).2, fun hgiven => ?_⟩, loading, hP rfl,
      Store.getAll_addAll _ _⟩
    exact absurd (hg at' hgiven) (Nat.not_lt.mpr (Store.lt_of_mem_addAll hat).1)
  · obtain ⟨hhidden, old, hold, hall⟩ := h kept hold
    have hk : s.Keeps (s.keeping other loading) := Keeps.of_append rfl fun _ hat => Or.inl hat
    exact ⟨(hk kept hhidden).1, old, hold, (hk kept hhidden).2.trans hall⟩

theorem guarded_load (dir : DataDirectory) (kind : OptionKind) (h : s.Guarded) :
    (s.load dir kind).1.Guarded := by
  cases hfind : s.cache.find? ⟨kind, dir⟩ with
  | some kept =>
    rw [load_of_find? hfind]
    exact guarded_deliver kept [] h
  | none =>
    cases hl : Options.load s.files dir kind with
    | ok loading =>
      rw [load_of_ok hfind hl]
      exact guarded_deliver _ loading.log (guarded_keeping h)
    | error t =>
      rw [load_of_error hfind hl]
      exact h

/-- A load leaves every list that is kept as it is, and keeps what it read. -/
theorem keptAs_load (dir : DataDirectory) (kind : OptionKind) (hg : s.Guarded)
    (h : s.KeptAs key P)
    (hP : ∀ loading, Options.load s.files key.directory key.kind = .ok loading → P loading) :
    (s.load dir kind).1.KeptAs key P := by
  cases hfind : s.cache.find? ⟨kind, dir⟩ with
  | some kept =>
    rw [load_of_find? hfind]
    have hhit : { s with cache := s.cache.hit ⟨kind, dir⟩ kept }.KeptAs key P :=
      h.of_keeps (fun _ hh => ⟨hh, rfl⟩) fun _ hkept => (LruCache.find?_hit hfind).symm ▸ hkept
    exact hhit.deliver kept []
  | none =>
    cases hl : Options.load s.files dir kind with
    | ok loading =>
      rw [load_of_ok hfind hl]
      have hread : (⟨kind, dir⟩ : CacheKey) = key → P loading := by
        rintro rfl
        exact hP loading hl
      exact (keptAs_keeping hg h hread).deliver _ loading.log
    | error t =>
      rw [load_of_error hfind hl]
      exact h.of_keeps (fun _ hh => ⟨hh, rfl⟩) fun _ hkept => hkept

/-- A load gives what reading the file gives. -/
theorem content_load (h : s.Current ⟨kind, dir⟩) :
    (s.load dir kind).2.map Delivery.content =
      (Options.load s.files dir kind).map fun loading => loading.choices.map .ofChoice := by
  cases hfind : s.cache.find? ⟨kind, dir⟩ with
  | some kept =>
    obtain ⟨-, loading, hl, hall⟩ := h kept hfind
    rw [load_of_find? hfind, hl]
    exact congrArg Except.ok ((content_deliver _ kept []).trans hall)
  | none =>
    cases hl : Options.load s.files dir kind with
    | ok loading =>
      rw [load_of_ok hfind hl]
      exact congrArg Except.ok ((content_deliver _ _ _).trans (Store.getAll_addAll _ _))
    | error t => rw [load_of_error hfind hl]; rfl

end Loading

/-! ### Steps -/

/-- The step writes or removes the file at a location: its path leads there once it is done. -/
def Touches (s : Session) (a : Step) (here : Location) : Prop :=
  ∃ p, a.target? = some p ∧ (s.step a).1.files.locate p = .ok here

/-- None of the steps writes or removes the file at a location. -/
def Untouched (s : Session) (here : Location) : List Step → Prop
  | [] => True
  | a :: rest => ¬ s.Touches a here ∧ Untouched (s.step a).1 here rest

theorem files_load (s : Session) (dir : DataDirectory) (kind : OptionKind) :
    (s.load dir kind).1.files = s.files := by
  cases hfind : s.cache.find? ⟨kind, dir⟩ with
  | some kept => rw [load_of_find? hfind]; rfl
  | none =>
    cases hl : Options.load s.files dir kind with
    | ok loading => rw [load_of_ok hfind hl]; rfl
    | error t => rw [load_of_error hfind hl]

/-- A change to the files changes nothing else. -/
theorem changeFiles_eq (s : Session) (change : FileTree → Except InternalError FileTree) :
    s.changeFiles change = { s with files := (s.changeFiles change).files } := by
  unfold changeFiles
  cases change s.files <;> rfl

theorem files_changeFiles (s : Session) (change : FileTree → Except InternalError FileTree) :
    (∃ files, change s.files = .ok files ∧ (s.changeFiles change).files = files) ∨
      (s.changeFiles change).files = s.files := by
  unfold changeFiles
  cases change s.files with
  | ok files => exact Or.inl ⟨files, rfl, rfl⟩
  | error e => exact Or.inr rfl

/-- A change to the files that takes no directory away and leaves the file at a location alone
unless the step touches it. -/
def Allows (s : Session) (a : Step) (here : Location) : Prop :=
  s.files.Grows (s.step a).1.files ∧
    (¬ s.Touches a here → FileTree.Spares here s.files (s.step a).1.files)

theorem allows_of_same (h : (s.step a).1.files = s.files) : s.Allows a here := by
  unfold Allows
  rw [h]
  exact ⟨.refl _, fun _ => .refl _ _⟩

theorem allows (s : Session) (a : Step) (here : Location) : s.Allows a here := by
  cases a with
  | write p bytes =>
    rcases s.files_changeFiles (·.write p bytes) with ⟨files, hw, hs⟩ | hs
    · have hfiles : (s.step (.write p bytes)).1.files = files := hs
      have hspares := FileTree.write_spares here hw
      refine ⟨hfiles ▸ hspares.1, fun ht => ?_⟩
      rw [hfiles]
      exact hspares.2 fun hl => ht ⟨p, rfl, hfiles ▸ hl⟩
    · exact allows_of_same hs
  | makeDirectory p =>
    rcases s.files_changeFiles (·.makeDirectory p) with ⟨files, hm, hs⟩ | hs
    · have hfiles : (s.step (.makeDirectory p)).1.files = files := hs
      have hspares := FileTree.makeAlong_spares here hm
      exact ⟨hfiles ▸ hspares.1, fun _ => hfiles ▸ hspares.2⟩
    · exact allows_of_same hs
  | remove p =>
    have hgrows := FileTree.grows_remove s.files p
    exact ⟨hgrows, fun ht => FileTree.spares_remove fun hl => ht ⟨p, rfl, hgrows.locate hl⟩⟩
  | clear => exact allows_of_same rfl
  | load dir name =>
    apply allows_of_same
    cases hr : OptionKind.resolve name with
    | error f => simp only [step, hr]
    | ok kind => simp only [step, hr, files_load]
  | change address object =>
    apply allows_of_same
    simp only [step]
    split <;> rfl

/-- With an empty cache nothing is kept that could be old. -/
theorem current_clear (s : Session) (key : CacheKey) : (s.step .clear).1.Current key :=
  fun _ hkept => nomatch hkept

/-- The file of the list under a key is not touched by a step, wherever its path leads. -/
def Leaves (s : Session) (a : Step) (key : CacheKey) : Prop :=
  ∀ p, key.directory = .inDirectory p → ∀ here,
    s.files.locate (p.child key.kind.fileName) = .ok here → ¬ s.Touches a here

theorem guarded_step (a : Step) (h : s.Guarded) : (s.step a).1.Guarded := by
  cases a with
  | write p bytes =>
    show (s.changeFiles _).Guarded
    rw [changeFiles_eq]
    exact h
  | makeDirectory p =>
    show (s.changeFiles _).Guarded
    rw [changeFiles_eq]
    exact h
  | remove p => exact h
  | clear => exact h
  | load dir name =>
    cases hr : OptionKind.resolve name with
    | error f =>
      simp only [step, hr]
      exact h
    | ok kind =>
      simp only [step, hr]
      exact guarded_load dir kind h
  | change address object =>
    simp only [step]
    split
    · exact fun at' hat => by simpa [Store.set] using h at' hat
    · exact h

/-- A caller changes only what it was given. -/
theorem keeps_change (address : Address) (object : Object) :
    s.Keeps (s.step (.change address object)).1 := by
  intro addresses h
  simp only [step]
  split
  · rename_i hgiven
    refine ⟨fun at' hat => ?_, Store.getAll_set (fun hat => (h address hat).2 hgiven) object⟩
    simpa [Store.set] using h at' hat
  · exact ⟨h, rfl⟩

/-- A step leaves every list that is kept as it is, and keeps only what it read. -/
theorem keptAs_step (a : Step) (hg : s.Guarded) (h : s.KeptAs key P)
    (hP : ∀ loading, Options.load s.files key.directory key.kind = .ok loading → P loading) :
    (s.step a).1.KeptAs key P := by
  cases a with
  | write p bytes =>
    show (s.changeFiles _).KeptAs key P
    rw [changeFiles_eq]
    exact h
  | makeDirectory p =>
    show (s.changeFiles _).KeptAs key P
    rw [changeFiles_eq]
    exact h
  | remove p => exact h
  | clear => exact fun _ hkept => nomatch hkept
  | load dir name =>
    cases hr : OptionKind.resolve name with
    | error f =>
      simp only [step, hr]
      exact h
    | ok kind =>
      simp only [step, hr]
      exact keptAs_load dir kind hg h hP
  | change address object =>
    refine h.of_keeps (keeps_change address object) fun kept hkept => ?_
    simp only [step] at hkept
    split at hkept <;> exact hkept

/-- **One step.** What is kept under a key stays what reading the file gives. -/
theorem current_step (a : Step) (hg : s.Guarded) (h : s.Current key) (hl : s.Leaves a key) :
    (s.step a).1.Current key := by
  have hkept := keptAs_step a hg h fun _ hread => hread
  exact hkept.mono fun _ hread => load_of_spares (s.allows a []).1
    (fun p hp here hloc => (s.allows a here).2 (hl p hp here hloc)) hread

/-! ### Runs -/

theorem run_append (s : Session) (before since : List Step) :
    s.run (before ++ since) = (s.run before).run since :=
  List.foldl_append

theorem grows_run (s : Session) (steps : List Step) : s.files.Grows (s.run steps).files := by
  induction steps generalizing s with
  | nil => exact .refl _
  | cons a rest ih => exact (s.allows a []).1.trans (ih (s.step a).1)

theorem guarded_of_files (files : FileTree) : ({ files } : Session).Guarded :=
  fun _ hat => nomatch hat

theorem guarded_run (steps : List Step) (h : s.Guarded) : (s.run steps).Guarded := by
  induction steps generalizing s with
  | nil => exact h
  | cons a rest ih => exact ih (guarded_step a h)

/-- **A run.** What is kept under a key stays what reading the file gives, when no step touches the
file to which the path leads in the end. -/
theorem current_run (steps : List Step) (hg : s.Guarded) (h : s.Current key)
    (hu : ∀ p, key.directory = .inDirectory p → ∀ here,
      (s.run steps).files.locate (p.child key.kind.fileName) = .ok here → s.Untouched here steps) :
    (s.run steps).Current key := by
  induction steps generalizing s with
  | nil => exact h
  | cons a rest ih =>
    have hleaves : s.Leaves a key := fun p hp here hl =>
      (hu p hp here ((s.grows_run (a :: rest)).locate hl)).1
    exact ih (guarded_step a hg) (current_step a hg h hleaves)
      fun p hp here hl => (hu p hp here hl).2

/-- The session starts, or its cache was cleared by the last step. -/
def Begins (steps : List Step) : Prop :=
  steps = [] ∨ steps.getLast? = some .clear

/-- Whatever happened before, with an empty cache nothing is kept that could be old. -/
theorem current_of_begins {steps : List Step} (files : FileTree) (h : Begins steps) :
    (({ files } : Session).run steps).Current key := by
  rcases h with rfl | h
  · exact fun _ hkept => nomatch hkept
  · obtain ⟨before, rfl⟩ := List.getLast?_eq_some_iff.mp h
    rw [run_append]
    exact current_clear _ key

/-- **The cache cannot be seen while a file stays.** After any steps on any files, a load of a list
whose data file was neither written nor removed since the cache was cleared, or since the start,
gives what reading the file with an empty cache gives now: the same options, or the same error. -/
theorem load_of_untouched (files : FileTree) (before since : List Step) (dir : DataDirectory)
    (name : String) (hb : Begins before)
    (hu : ∀ p ∈ dataFile? dir name, ∀ here,
      (({ files } : Session).run (before ++ since)).files.locate p = .ok here →
        (({ files } : Session).run before).Untouched here since) :
    let s := ({ files } : Session).run (before ++ since)
    (s.step (.load dir name)).2.map (·.map Delivery.content) =
      some ((Cache.loadNamed {} s.files dir name).1.map fun loading =>
        loading.choices.map .ofChoice) := by
  intro s
  cases hr : OptionKind.resolve name with
  | error f =>
    simp only [step, Cache.loadNamed, hr]
    rfl
  | ok kind =>
    have hcurrent : s.Current ⟨kind, dir⟩ := by
      rw [show s = _ from run_append _ before since] at *
      refine current_run since (guarded_run before (guarded_of_files files))
        (current_of_begins files hb) ?_
      rintro p rfl
      rw [← run_append]
      exact hu _ (by simp [dataFile?, hr])
    have hfresh : (Cache.loadNamed {} s.files dir name).1 = Options.load s.files dir kind := by
      simp only [Cache.loadNamed, Cache.load, hr]
      cases Options.load s.files dir kind <;> rfl
    rw [hfresh, ← content_load hcurrent]
    simp only [step, hr]
    rfl

instance (s : Session) (a : Step) (here : Location) : Decidable (s.Touches a here) :=
  decidable_of_iff (∃ p ∈ a.target?, (s.step a).1.files.locate p = .ok here) (by simp [Touches])

instance decidableUntouched (s : Session) (here : Location) :
    (steps : List Step) → Decidable (s.Untouched here steps)
  | [] => .isTrue trivial
  | a :: rest =>
    have := decidableUntouched (s.step a).1 here rest
    inferInstanceAs (Decidable (_ ∧ _))

/-- A data file with one severity. -/
def oneSeverity : List UInt8 := "[\x7b\"value\": \"1\", \"label\": \"One\"\x7d]".toUTF8.toList

/-- A data file is written. -/
def settled : List Step := [.write (.ofText "d/severity.json") oneSeverity, .clear]

/-- Its list is loaded, the caller empties the record that it was given, and the same file is
written in another directory and removed there. -/
def unrelated : List Step := [
  .load (.inDirectory (.ofText "./d")) "severity",
  .change 1 (.record []),
  .write (.ofText "e/severity.json") oneSeverity,
  .remove (.ofText "d/../e/severity.json")]

/-- The next load of the list still finds the severity. -/
theorem load_of_untouched_after_change :
    Begins settled ∧
      (({} : Session).run (settled ++ unrelated)).files.locate (.ofText "d/severity.json") =
        .ok ["work", "d", "severity.json"] ∧
      (({} : Session).run settled).Untouched ["work", "d", "severity.json"] unrelated ∧
      ((({} : Session).run (settled ++ unrelated)).step
          (.load (.inDirectory (.ofText "d/")) "severity")).2.map (·.map Delivery.content) =
        some (.ok [.ofChoice { value := "1", label := "One" }]) := by
  have hbegins : Begins settled := Or.inr rfl
  have hlocate : (({} : Session).run (settled ++ unrelated)).files.locate
      (.ofText "d/severity.json") = .ok ["work", "d", "severity.json"] := by decide +kernel
  have huntouched : (({} : Session).run settled).Untouched ["work", "d", "severity.json"]
      unrelated := by decide +kernel
  refine ⟨hbegins, hlocate, huntouched, ?_⟩
  refine (load_of_untouched {} settled unrelated (.inDirectory (.ofText "d/")) "severity" hbegins
    fun p hp here hl => ?_).trans ?_
  · have hfile : dataFile? (.inDirectory (.ofText "d/")) "severity" =
        some (.ofText "d/severity.json") := by decide +kernel
    rw [hfile] at hp
    rw [← Option.some.inj hp, hlocate] at hl
    exact Except.ok.inj hl ▸ huntouched
  · have hread : (Cache.loadNamed {} (({} : Session).run (settled ++ unrelated)).files
        (.inDirectory (.ofText "d/")) "severity").1.toOption.map Loading.choices =
          some [{ value := "1", label := "One" }] := by decide +kernel
    obtain ⟨loading, hloading, hchoices⟩ := Option.map_eq_some_iff.mp hread
    cases hl : (Cache.loadNamed {} (({} : Session).run (settled ++ unrelated)).files
        (.inDirectory (.ofText "d/")) "severity").1 with
    | error t =>
      rw [hl] at hloading
      exact absurd hloading (by simp [Except.toOption])
    | ok l =>
      rw [hl] at hloading
      rw [← Option.some.inj hloading] at hchoices
      show some (Except.ok (l.choices.map Object.ofChoice)) = _
      rw [hchoices]
      rfl

end Session

end HealthAlert.Options
