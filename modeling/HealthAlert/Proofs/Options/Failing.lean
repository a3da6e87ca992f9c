import HealthAlert.Proofs.Options.Reading
import Mathlib.Data.List.Induction

/-!
# Loads that fail

A load that fails is not kept: it counts as a miss and leaves the lists that are kept as they are,
in their order. So a list whose loads have failed is read from its file by the next load, and is
given as soon as the file holds it.

* `Session.cache_load`, `Session.cache_step`: what a load and a step do to the cache.
* `Session.find?_run_of_onlyFails`: a list whose loads all fail is not kept.
* `Session.size_run`, `Session.asked_run`: the bound on the lists that are kept, and the count of
  loads.
* **`Session.failures_leave_cache`**: failed loads, the load after them, and the counts in any
  session.
-/

namespace HealthAlert.Options

/-! ## The cache -/

namespace LruCache

variable {α : Type} {c : LruCache α} {key : CacheKey} {kept : α}

/-- How often a list was asked for. -/
def asked (c : LruCache α) : Nat := c.hits + c.misses

theorem asked_hit (c : LruCache α) (key : CacheKey) (kept : α) :
    (c.hit key kept).asked = c.asked + 1 :=
  Nat.add_right_comm ..

theorem asked_keep (c : LruCache α) (key : CacheKey) (kept : α) :
    (c.keep key kept).asked = c.asked + 1 := rfl

theorem asked_miss (c : LruCache α) : c.miss.asked = c.asked + 1 := rfl

/-- A list that is found only moves to the front. -/
theorem size_hit_le (h : c.find? key = some kept) : (c.hit key kept).size ≤ c.size := by
  obtain ⟨e, he, -⟩ := Option.map_eq_some_iff.mp h
  have hlt : (c.entries.filter (·.1 != key)).length < c.entries.length := by
    refine List.length_filter_lt_length_iff_exists.mpr ⟨e, List.mem_of_find?_eq_some he, ?_⟩
    simpa using List.find?_some he
  exact hlt

theorem size_keep_le (c : LruCache α) (key : CacheKey) (kept : α) :
    (c.keep key kept).size ≤ capacity :=
  List.length_take_le _ _

end LruCache

/-! ## Steps -/

namespace Step

/-- The step asks for the list under a key. -/
def AsksFor (a : Step) (key : CacheKey) : Prop :=
  ∃ name, a = .load key.directory name ∧ OptionKind.resolve name = .ok key.kind

/-- The step asks for one of the lists that there are. -/
def asksForList : Step → Bool
  | .load _ name => (OptionKind.ofName? name).isSome
  | _ => false

/-- The step clears the cache. -/
def clears : Step → Bool
  | .clear => true
  | _ => false

end Step

/-- How often one of the lists was asked for since the cache was cleared, or since the start. -/
def askedSinceClear (steps : List Step) : Nat :=
  (steps.reverse.takeWhile fun a => !a.clears).countP Step.asksForList

theorem askedSinceClear_concat (steps : List Step) (a : Step) :
    askedSinceClear (steps ++ [a]) =
      if a.clears then 0 else askedSinceClear steps + if a.asksForList then 1 else 0 := by
  unfold askedSinceClear
  rw [List.reverse_concat]
  cases ha : a.clears with
  | true => simp [ha]
  | false => simp [ha, List.countP_cons]

namespace Session

variable {s : Session} {dir : DataDirectory} {kind : OptionKind} {key : CacheKey}

/-- What a load does to the cache: it finds the list, or reads and keeps it, or fails. -/
theorem cache_load (s : Session) (dir : DataDirectory) (kind : OptionKind) :
    (∃ kept, s.cache.find? ⟨kind, dir⟩ = some kept ∧
        (s.load dir kind).1.cache = s.cache.hit ⟨kind, dir⟩ kept) ∨
      (∃ kept, (s.load dir kind).1.cache = s.cache.keep ⟨kind, dir⟩ kept) ∨
      (s.cache.find? ⟨kind, dir⟩ = none ∧ (s.load dir kind).1.cache = s.cache.miss) := by
  cases hfind : s.cache.find? ⟨kind, dir⟩ with
  | some kept =>
    rw [load_of_find? hfind]
    exact Or.inl ⟨kept, rfl, rfl⟩
  | none =>
    cases hl : Options.load s.files dir kind with
    | ok loading =>
      rw [load_of_ok hfind hl]
      exact Or.inr (Or.inl ⟨_, rfl⟩)
    | error t =>
      rw [load_of_error hfind hl]
      exact Or.inr (Or.inr ⟨rfl, rfl⟩)

/-- What a step does to the cache. -/
theorem cache_step (s : Session) (a : Step) :
    (a.clears = true ∧ (s.step a).1.cache = {}) ∨
      (a.clears = false ∧ a.asksForList = false ∧ (s.step a).1.cache = s.cache) ∨
      (a.clears = false ∧ a.asksForList = true ∧ ∃ dir name kind, a = .load dir name ∧
        OptionKind.resolve name = .ok kind ∧ (s.step a).1 = (s.load dir kind).1) := by
  cases a with
  | write p bytes => exact Or.inr (Or.inl ⟨rfl, rfl, by simp only [step]; rw [changeFiles_eq]⟩)
  | makeDirectory p => exact Or.inr (Or.inl ⟨rfl, rfl, by simp only [step]; rw [changeFiles_eq]⟩)
  | remove p => exact Or.inr (Or.inl ⟨rfl, rfl, rfl⟩)
  | clear => exact Or.inl ⟨rfl, rfl⟩
  | load dir name =>
    cases hname : OptionKind.ofName? name with
    | none =>
      have hr : OptionKind.resolve name = .error (OptionKind.unknown name) := by
        simp only [OptionKind.resolve, hname]
      exact Or.inr (Or.inl ⟨rfl, by simp [Step.asksForList, hname], by simp only [step, hr]⟩)
    | some kind =>
      have hr : OptionKind.resolve name = .ok kind := by simp only [OptionKind.resolve, hname]
      exact Or.inr (Or.inr ⟨rfl, by simp [Step.asksForList, hname], dir, name, kind, rfl, hr,
        by simp only [step, hr]⟩)
  | change address object =>
    refine Or.inr (Or.inl ⟨rfl, rfl, ?_⟩)
    simp only [step]
    split <;> rfl

/-- A step keeps the bound on the lists that are kept. -/
theorem size_step (a : Step) (h : s.cache.size ≤ LruCache.capacity) :
    (s.step a).1.cache.size ≤ LruCache.capacity := by
  rcases s.cache_step a with ⟨-, hc⟩ | ⟨-, -, hc⟩ | ⟨-, -, dir, name, kind, -, -, hs⟩
  · rw [hc]
    exact Nat.zero_le _
  · rwa [hc]
  · rw [hs]
    rcases s.cache_load dir kind with ⟨kept, hfind, hc⟩ | ⟨kept, hc⟩ | ⟨-, hc⟩
    · rw [hc]
      exact (LruCache.size_hit_le hfind).trans h
    · rw [hc]
      exact LruCache.size_keep_le _ _ _
    · rw [hc]
      exact h

/-- A step counts a load of one of the lists, and nothing else. -/
theorem asked_step (s : Session) (a : Step) :
    (s.step a).1.cache.asked =
      if a.clears then 0 else s.cache.asked + if a.asksForList then 1 else 0 := by
  rcases s.cache_step a with ⟨hclears, hc⟩ | ⟨hclears, hasks, hc⟩ |
    ⟨hclears, hasks, dir, name, kind, -, -, hs⟩
  · rw [hc, hclears]
    rfl
  · rw [hc, hclears, hasks]
    rfl
  · rw [hs, hclears, hasks]
    rcases s.cache_load dir kind with ⟨kept, -, hc⟩ | ⟨kept, hc⟩ | ⟨-, hc⟩
    · rw [hc, LruCache.asked_hit]
      rfl
    · rw [hc, LruCache.asked_keep]
      rfl
    · rw [hc, LruCache.asked_miss]
      rfl

/-! ## Loads that fail -/

/-- A load that fails counts as a miss and changes nothing else. -/
theorem load_of_failed {t : Trouble} (h : (s.load dir kind).2 = .error t) :
    (s.load dir kind).1 = { s with cache := { s.cache with misses := s.cache.misses + 1 } } := by
  obtain ⟨hfind, hl⟩ := load_eq_error_iff.mp h
  rw [load_of_error hfind hl]
  rfl

theorem step_load_of_resolve {name : String} (hr : OptionKind.resolve name = .ok kind) :
    s.step (.load dir name) = ((s.load dir kind).1, some (s.load dir kind).2) := by
  simp only [step, hr]

theorem step_load_of_unknown {name : String} {f : Failure}
    (hr : OptionKind.resolve name = .error f) :
    s.step (.load dir name) = (s, some (.error (.failure f))) := by
  simp only [step, hr]

/-- All loads of the list under a key fail. -/
def OnlyFails (s : Session) (key : CacheKey) : List Step → Prop
  | [] => True
  | a :: rest =>
    (a.AsksFor key → ∃ t, (s.step a).2 = some (.error t)) ∧ OnlyFails (s.step a).1 key rest

/-- A list whose load fails is not kept then. -/
theorem find?_of_failed {a : Step} {t : Trouble} (ha : a.AsksFor key)
    (h : (s.step a).2 = some (.error t)) : s.cache.find? key = none := by
  obtain ⟨name, rfl, hr⟩ := ha
  rw [step_load_of_resolve hr] at h
  exact (load_eq_error_iff.mp (Option.some.inj h)).1

/-- A list that is not kept is kept after a step only if the step is a load of it that succeeds. -/
theorem find?_step (a : Step) (hnone : s.cache.find? key = none)
    (hfails : a.AsksFor key → ∃ t, (s.step a).2 = some (.error t)) :
    (s.step a).1.cache.find? key = none := by
  rcases s.cache_step a with ⟨-, hc⟩ | ⟨-, -, hc⟩ | ⟨-, -, dir, name, kind, rfl, hr, hs⟩
  · rw [hc]
    rfl
  · rw [hc, hnone]
  · rw [hs]
    by_cases hkey : key = ⟨kind, dir⟩
    · subst hkey
      obtain ⟨t, ht⟩ := hfails ⟨name, rfl, hr⟩
      rw [step_load_of_resolve hr] at ht
      rw [load_of_failed (Option.some.inj ht)]
      exact hnone
    · rcases s.cache_load dir kind with ⟨kept, hfind, hc⟩ | ⟨kept, hc⟩ | ⟨-, hc⟩
      · rw [hc, LruCache.find?_hit hfind, hnone]
      · rw [hc, Option.eq_none_iff_forall_ne_some]
        intro v hv
        rcases LruCache.find?_keep hv with ⟨heq, -⟩ | hold
        · exact hkey heq
        · exact absurd (hnone.symm.trans hold) (by simp)
      · rw [hc]
        exact hnone

/-! ## Runs -/

/-- A list that is not kept stays so while its loads fail. -/
theorem find?_run (steps : List Step) (hnone : s.cache.find? key = none)
    (h : s.OnlyFails key steps) : (s.run steps).cache.find? key = none := by
  induction steps generalizing s with
  | nil => exact hnone
  | cons a rest ih => exact ih (find?_step a hnone h.1) h.2

/-- **A list whose loads all fail is not kept**, whatever was kept before the first of them. -/
theorem find?_run_of_onlyFails (steps : List Step) (h : s.OnlyFails key steps)
    (hasked : ∃ a ∈ steps, a.AsksFor key) : (s.run steps).cache.find? key = none := by
  induction steps generalizing s with
  | nil =>
    obtain ⟨a, ha, -⟩ := hasked
    exact absurd ha List.not_mem_nil
  | cons a rest ih =>
    by_cases hfirst : a.AsksFor key
    · obtain ⟨t, ht⟩ := h.1 hfirst
      exact find?_run (a :: rest) (find?_of_failed hfirst ht) h
    · refine ih h.2 ?_
      obtain ⟨b, hb, hasks⟩ := hasked
      rcases List.mem_cons.mp hb with rfl | hb
      · exact absurd hasks hfirst
      · exact ⟨b, hb, hasks⟩

/-- A list that is not kept is read from its file, and logged. -/
theorem load_of_not_kept (h : s.cache.find? ⟨kind, dir⟩ = none) :
    (s.load dir kind).2.map (fun d => (d.content, d.log)) =
      (Options.load s.files dir kind).map fun loading =>
        (loading.choices.map .ofChoice, loading.log) := by
  cases hl : Options.load s.files dir kind with
  | ok loading =>
    rw [load_of_ok h hl]
    have hcontent := (content_deliver (s.keeping ⟨kind, dir⟩ loading)
      (s.store.addAll (loading.choices.map .ofChoice)).2 loading.log).trans
        (Store.getAll_addAll _ _)
    exact congrArg (fun content => Except.ok (content, loading.log)) hcontent
  | error t =>
    rw [load_of_error h hl]
    rfl

/-- No session keeps more lists than the cache may hold. -/
theorem size_run (steps : List Step) (h : s.cache.size ≤ LruCache.capacity) :
    (s.run steps).cache.size ≤ LruCache.capacity := by
  induction steps generalizing s with
  | nil => exact h
  | cons a rest ih => exact ih (size_step a h)

/-- Hits and misses are the loads of the lists since the cache was cleared. -/
theorem asked_run (files : FileTree) (steps : List Step) :
    (({ files } : Session).run steps).cache.asked = askedSinceClear steps := by
  induction steps using List.reverseRecOn with
  | nil => rfl
  | append_singleton steps a ih =>
    rw [run_append, askedSinceClear_concat, ← ih]
    exact asked_step _ a

/-- **Failed loads leave the cache as it was.** In any session, a load that fails counts as a miss
and changes nothing else, and asking for a list that does not exist changes nothing at all. However
often the loads of a list have failed, the next one reads its file, and gives the list if the file
holds an array with entries. At most 32 lists are kept, and hits and misses are the loads of
existing lists since the cache was cleared. -/
theorem failures_leave_cache (files : FileTree) (steps : List Step) (dir : DataDirectory)
    (name : String) :
    let s := ({ files } : Session).run steps
    (∀ f, OptionKind.resolve name = .error f →
        s.step (.load dir name) = (s, some (.error (.failure f)))) ∧
      (∀ kind, OptionKind.resolve name = .ok kind →
        (∀ t, (s.step (.load dir name)).2 = some (.error t) →
          (s.step (.load dir name)).1 =
            { s with cache := { s.cache with misses := s.cache.misses + 1 } }) ∧
        ∀ since, s.OnlyFails ⟨kind, dir⟩ since → (∃ a ∈ since, a.AsksFor ⟨kind, dir⟩) →
          let later := s.run since
          (later.step (.load dir name)).2.map (·.map fun d => (d.content, d.log)) =
              some ((Options.load later.files dir kind).map fun loading =>
                (loading.choices.map .ofChoice, loading.log)) ∧
            ∀ p entries lone, dir = .inDirectory p → entries ≠ [] →
              HoldsEntries later.files p kind entries lone →
              ∃ d, (later.step (.load dir name)).2 = some (.ok d) ∧
                d.content = (entries.filterMap choiceOf?).map .ofChoice) ∧
      s.cache.size ≤ 32 ∧ s.cache.hits + s.cache.misses = askedSinceClear steps := by
  intro s
  refine ⟨fun f hr => step_load_of_unknown hr, fun kind hr => ⟨fun t ht => ?_, ?_⟩, ?_, ?_⟩
  · rw [step_load_of_resolve hr] at ht ⊢
    exact load_of_failed (Option.some.inj ht)
  · intro since hfails hasked later
    have hread := load_of_not_kept (find?_run_of_onlyFails since hfails hasked)
    rw [step_load_of_resolve hr]
    refine ⟨congrArg some hread, ?_⟩
    rintro p entries lone rfl hne hholds
    rw [load_eq_ok_iff.mpr ⟨entries, lone, hne, hholds, rfl⟩] at hread
    cases hd : (later.load (.inDirectory p) kind).2 with
    | error t =>
      rw [hd] at hread
      exact nomatch hread
    | ok d =>
      rw [hd] at hread
      exact ⟨d, rfl, (congrArg Prod.fst (Except.ok.inj hread)).trans
        (map_ofChoice_ofEntries _ _ _ _)⟩
  · exact size_run steps (Nat.zero_le _)
  · exact asked_run files steps

/-- A list is asked for before its data file is written. -/
def writtenLate : List Step := [
  .load (.inDirectory (.ofText "d")) "severity",
  .write (.ofText "d/severity.json") oneSeverity]

/-- The entry of the file. -/
def oneSeverityEntry : Value := .record [("value", .text "1"), ("label", .text "One")]

/-- The first load fails, and the next one gives the list, although the cache was not cleared. -/
theorem failures_leave_cache_writtenLate :
    ({} : Session).OnlyFails ⟨.severity, .inDirectory (.ofText "d")⟩ writtenLate ∧
      ∃ d, ((({} : Session).run writtenLate).step
          (.load (.inDirectory (.ofText "d")) "severity")).2 = some (.ok d) ∧
        d.content = [.ofChoice { value := "1", label := "One" }] := by
  have hr : OptionKind.resolve "severity" = .ok .severity :=
    OptionKind.resolve_eq_ok_iff.mpr rfl
  have hload : Options.load {} (.inDirectory (.ofText "d")) .severity =
      .error (.failure (Fault.failure .severity .missing)) := rfl
  have hfails : ({} : Session).OnlyFails ⟨.severity, .inDirectory (.ofText "d")⟩ writtenLate := by
    refine ⟨fun _ => ⟨.failure (Fault.failure .severity .missing), ?_⟩, fun hasks => ?_, trivial⟩
    · rw [step_load_of_resolve hr]
      exact congrArg some (load_eq_error_iff.mpr ⟨rfl, hload⟩)
    · obtain ⟨name, ha, -⟩ := hasks
      exact nomatch ha
  have hlookup : (({} : Session).run writtenLate).files.lookup
      (Path.child (.ofText "d") "severity.json") = .file oneSeverity := by decide +kernel
  have htext : Text.ofFile oneSeverity =
      .ok "[\x7b\"value\": \"1\", \"label\": \"One\"\x7d]".toList := by decide +kernel
  have hholds : HoldsEntries (({} : Session).run writtenLate).files (.ofText "d") .severity
      [oneSeverityEntry] [] := by
    refine ⟨_, _, hlookup, htext, ?_⟩
    rw [Json.openText_of_whole (by decide)]
    rfl
  have hasked : ∃ a ∈ writtenLate, a.AsksFor ⟨.severity, .inDirectory (.ofText "d")⟩ :=
    ⟨_, List.mem_cons_self, "severity", rfl, hr⟩
  obtain ⟨d, hd, hcontent⟩ :=
    (((failures_leave_cache {} [] (.inDirectory (.ofText "d")) "severity").2.1 .severity hr).2
      writtenLate hfails hasked).2 _ _ _ rfl (List.cons_ne_nil _ _) hholds
  exact ⟨hfails, d, hd, hcontent⟩

end Session

end HealthAlert.Options
