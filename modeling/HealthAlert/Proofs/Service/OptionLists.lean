import HealthAlert.Proofs.Options.Outcomes
import HealthAlert.Proofs.Service.Passage

/-!
# Requests for a list of options

A request for a list is answered with its choices, or with a report: that there is no such list, or
that its data file holds none. There is a further end, an error that nothing handles, where the data
file has to be read and cannot be (`Options.Obstructs`), or where a lone surrogate stands in a
choice, which then does not fit the form of an option.

* `AsksForOptions.target_eq`: where such a request goes.
* `Shows`: how the choices of a list are answered.
* `AsksForOptions.ends`: how the exchange ends, from how the load ends.
* **`options_ends`**: the ends of a load and of a request for a list, and when there is no answer.
* `undecodable_options_fail`: a data file that is not UTF-8.
-/

namespace HealthAlert.Service

open Http (Request Response)

/-! ## Requests -/

/-- The path of the lists, up to the name of one. -/
def optionsPath : String := "/api/v1/options/"

/-- The request asks for the list with a name, and is not refused for its size. -/
structure AsksForOptions (site : Site) (r : Request) (name : String) : Prop where
  method : r.method = "GET"
  path : r.path = optionsPath ++ name
  named : name ≠ ""
  simple : '/' ∉ name.toList
  size : Http.SizeLimit.check site.sizeLimit r = .ok none

section Target

variable {name : String}

/-- The parts of the path of a list. -/
theorem parts?_options (h : '/' ∉ name.toList) :
    Route.parts? (optionsPath ++ name) = some ["api", "v1", "options", name] := by
  have hpath : (optionsPath ++ name).toList =
      ['/'].intercalate ["".toList, "api".toList, "v1".toList, "options".toList, name.toList] := by
    simp [optionsPath, List.intercalate]
  have hslash : ∀ part ∈ ["".toList, "api".toList, "v1".toList, "options".toList, name.toList],
      '/' ∉ part := by
    simp only [List.forall_mem_cons, List.not_mem_nil, false_implies, implies_true, and_true]
    exact ⟨by decide, by decide, by decide, by decide, h⟩
  unfold Route.parts?
  rw [hpath, List.splitOn_intercalate '/' hslash (List.cons_ne_nil _ _)]
  simp only [List.map_cons, List.map_nil, String.ofList_toList]

/-- Of all routes, only that of the lists fits the path of a list. -/
theorem fits_options_iff (hne : name ≠ "") (h : '/' ∉ name.toList) (route : Route) :
    route.fits (optionsPath ++ name) = (route == .options) := by
  unfold Route.fits Route.parameters?
  rw [parts?_options h, Option.bind_some]
  cases route with
  | document d => cases d <;> rfl
  | options =>
    simp [Route.segments, Route.interfaceStart, Route.fit, hne]
  | _ => rfl

end Target

/-! ## Answers -/

namespace Endpoint

variable {choices : List Choice}

theorem allUnpaired_eq_zero_iff :
    Choice.allUnpaired choices = 0 ↔ ∀ c ∈ choices, c.unpaired = 0 := by
  induction choices with
  | nil => simp [Choice.allUnpaired]
  | cons c cs ih => rw [Choice.allUnpaired, Nat.add_eq_zero_iff, ih, List.forall_mem_cons]

theorem shown_of_paired (h : ∀ c ∈ choices, c.unpaired = 0) :
    shown choices = .response (Response.ofValue 200 (choicesValue choices)) := by
  unfold shown
  rw [allUnpaired_eq_zero_iff.mpr h]
  rfl

theorem shown_of_unpaired (h : ∃ c ∈ choices, c.unpaired ≠ 0) :
    shown choices = .error (.unfitAnswer (Choice.allUnpaired choices)) := by
  obtain ⟨c, hc, hne⟩ := h
  unfold shown
  split
  · exact absurd (allUnpaired_eq_zero_iff.mp ‹_› c hc) hne
  · rfl

end Endpoint

/-- The choices are answered when they fit the form of an option, and the exchange fails when a lone
surrogate stands in one of them. -/
structure Shows (choices : List Choice) (exchange : Exchange) : Prop where
  paired : (∀ c ∈ choices, c.unpaired = 0) →
    exchange.Answers 200 (Json.write Json.compact (Endpoint.choicesValue choices))
  unpaired : (∃ c ∈ choices, c.unpaired ≠ 0) →
    exchange.Failed (.unfitAnswer (Choice.allUnpaired choices))

namespace AsksForOptions

variable {site : Site} {r : Request} {name : String}

theorem admits (h : AsksForOptions site r name) : site.Admits r := by
  refine ⟨h.size, ?_⟩
  unfold Http.Sharing.isPreflight
  rw [h.method]
  rfl

theorem target_eq (h : AsksForOptions site r name) :
    Routing.target site r = .found .options [name] := by
  have hfilter : (Route.all site.settings.observabilityEnabled).filter
      (·.fits (optionsPath ++ name)) = [.options] := by
    rw [List.filter_congr fun route _ => fits_options_iff h.named h.simple route]
    cases site.settings.observabilityEnabled <;> decide
  have hparameters : Route.options.parameters? (optionsPath ++ name) = some [name] := by
    unfold Route.parameters?
    rw [parts?_options h.simple, Option.bind_some]
    simp [Route.segments, Route.interfaceStart, Route.fit, h.named]
  unfold Routing.target Route.resolve
  rw [h.method, h.path, hfilter]
  simp [Route.methods, hparameters]

/-- The exchange ends as the load does: with the choices that fit, with a report of the failure, or
in an error that nothing handles. -/
theorem ends (h : AsksForOptions site r name) (s : State) (fresh : String) :
    let load := (s.cache.loadNamed site.files site.settings.optionsDirectory name).1
    let exchange := (site.handle s fresh r).1
    (∀ loading, load = .ok loading → Shows loading.choices exchange) ∧
      (∀ f, load = .error (.failure f) →
        exchange.Answers f.status (Routing.failureResponse site f).body) ∧
      ∀ e, load = .error (.internal e) → exchange.Failed e := by
  obtain ⟨s', id, headers, hcache, hserve⟩ := site.serve_result s fresh r
  have hrun : Routing.run site s' id r =
      Routing.settle site r id (Endpoint.options site s' name) := by
    unfold Routing.run
    rw [h.target_eq]
    rfl
  rw [hrun, Routing.settle_result] at hserve
  unfold Endpoint.options at hserve
  rw [hcache] at hserve
  refine ⟨fun loading hl => ?_, fun f hl => ?_, fun e hl => ?_⟩
  · simp only [hl] at hserve
    refine ⟨fun hpaired => ?_, fun hunpaired => ?_⟩
    · rw [Endpoint.shown_of_paired hpaired] at hserve
      exact answers_of_served h.admits hserve
    · rw [Endpoint.shown_of_unpaired hunpaired] at hserve
      exact failed_of_served h.admits hserve
  · simp only [hl] at hserve
    exact answers_of_served h.admits hserve
  · simp only [hl] at hserve
    exact failed_of_served h.admits hserve

end AsksForOptions

/-! ## How loads and requests end -/

/-- **How a load of a list ends, and a request for one.** A load that fails does so because no list
has the name, or because the data file of the list holds none; it ends in another error exactly when
it has to read a data file that cannot be read. A request is answered with the choices unless a lone
surrogate stands in one of them, with 404 or 500 and a report of the failure, or fails with that
error. -/
theorem options_ends (site : Site) (s : State) (name : String) :
    let load := (s.cache.loadNamed site.files site.settings.optionsDirectory name).1
    (∀ f, load = .error (.failure f) →
        (f.kind = .notFound ∧ f.status = 404 ∧ ∀ kind : OptionKind, name ≠ kind.name) ∨
          (f.kind = .optionData ∧ f.status = 500 ∧ ∃ kind : OptionKind, name = kind.name)) ∧
      (∀ e, load = .error (.internal e) ↔
        s.cache.Escapes site.files site.settings.optionsDirectory name e) ∧
      ∀ fresh r, AsksForOptions site r name →
        let exchange := (site.handle s fresh r).1
        (∀ loading, load = .ok loading → Shows loading.choices exchange) ∧
          (∀ f, load = .error (.failure f) →
            exchange.Answers f.status (Routing.failureResponse site f).body) ∧
          ∀ e, load = .error (.internal e) → exchange.Failed e := by
  intro load
  refine ⟨fun f hf => ?_, fun e => Options.Cache.loadNamed_eq_internal_iff,
    fun fresh r h => h.ends s fresh⟩
  rcases Options.Cache.loadNamed_eq_failure hf with ⟨hne, rfl⟩ | ⟨kind, fault, hname, rfl⟩
  · exact Or.inl ⟨rfl, rfl, hne⟩
  · exact Or.inr ⟨rfl, rfl, kind, hname⟩

/-- A request for the list with a name. -/
def askingForOptions (name : String) : Request where
  method := "GET"
  path := optionsPath ++ name
  server := "testserver"
  client := "testclient"

theorem asksForOptions_asking {name : String} (site : Site) (hne : name ≠ "")
    (h : '/' ∉ name.toList) : AsksForOptions site (askingForOptions name) name :=
  ⟨rfl, rfl, hne, h, check_of_undeclared rfl (by decide : "GET" ∉ Http.SizeLimit.methodsWithBody)⟩

/-- A load of a list that there is not. -/
theorem loadNamed_unlisted {name : String} (h : ∀ kind : OptionKind, name ≠ kind.name) :
    (Options.Cache.loadNamed {} {} .packaged name).1 =
      .error (.failure (OptionKind.unknown name)) := by
  rw [Options.Cache.loadNamed_of_unknown (OptionKind.resolve_eq_error_iff.mpr ⟨h, rfl⟩)]

theorem options_ends_of_packaged :
    (({} : Site).handle {} "1" (askingForOptions "severity")).1.Answers 200
        (Json.write Json.compact (Endpoint.choicesValue Catalog.severities)) ∧
      (({} : Site).handle {} "1" (askingForOptions "colors")).1.Answers 404
        (Routing.failureResponse {} (OptionKind.unknown "colors")).body := by
  have hknown : AsksForOptions {} (askingForOptions "severity") "severity" :=
    asksForOptions_asking {} (by decide) (by decide)
  have hunknown : AsksForOptions {} (askingForOptions "colors") "colors" :=
    asksForOptions_asking {} (by decide) (by decide)
  have hseverity : OptionKind.resolve "severity" = .ok .severity :=
    OptionKind.resolve_eq_ok_iff.mpr rfl
  have hlist : (Options.Cache.loadNamed {} {} .packaged "severity").1 =
      .ok ⟨Catalog.severities, [Options.report "data/severity.json" .severity 5]⟩ := by
    rw [Options.Cache.loadNamed_of_resolve hseverity]
    rfl
  have hpaired : ∀ c ∈ Catalog.severities, c.unpaired = 0 := by decide +kernel
  have hgiven := (((options_ends {} {} "severity").2.2 "1" _ hknown).1 _ hlist).paired hpaired
  have hreported := ((options_ends {} {} "colors").2.2 "1" _ hunknown).2.1 _
    (loadNamed_unlisted fun kind => by cases kind <;> decide)
  exact ⟨hgiven, hreported⟩

/-- A service whose data file of severities is one byte that starts no character. -/
def garbledSite : Site where
  settings := { optionsDirectory := .inDirectory (.ofText "d") }
  files := { files := [(["work", "d", "severity.json"], [0xFF])] }

/-- The fault of that byte. -/
def garbledFault : Text.Utf8.Fault := ⟨.invalidStart, 0, 1, 0xFF⟩

theorem loadNamed_garbledSite :
    (Options.Cache.loadNamed {} garbledSite.files garbledSite.settings.optionsDirectory
      "severity").1 = .error (.internal (.undecodable garbledFault)) := by
  have hlookup : garbledSite.files.lookup (Path.child (.ofText "d") "severity.json") =
      .file [0xFF] := by decide +kernel
  exact Options.Cache.loadNamed_eq_internal_iff.mpr
    ⟨.severity, _, rfl, rfl, rfl, .undecodable hlookup rfl⟩

/-- A data file that is not UTF-8: the load neither gives a list nor fails as loads do, and the
request for the list is told of no failure. -/
theorem undecodable_options_fail :
    (Options.Cache.loadNamed {} garbledSite.files garbledSite.settings.optionsDirectory
        "severity").1 = .error (.internal (.undecodable garbledFault)) ∧
      (garbledSite.handle {} "1" (askingForOptions "severity")).1.Failed
        (.undecodable garbledFault) := by
  have hasks : AsksForOptions garbledSite (askingForOptions "severity") "severity" :=
    asksForOptions_asking garbledSite (by decide) (by decide)
  exact ⟨loadNamed_garbledSite, (hasks.ends {} "1").2.2 _ loadNamed_garbledSite⟩

end HealthAlert.Service
