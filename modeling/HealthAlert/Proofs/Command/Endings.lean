import HealthAlert.Proofs.Options.Outcomes
import HealthAlert.Proofs.Service.FrontEnds

/-!
# How a run that renders ends

A run that renders to the standard output prints the template when its source holds a JSON document
which is accepted as a request, and otherwise complains and ends with a status of its own. Between
the two stands what the program does not expect of a source: it cannot be read as text, or an
integer in it is too long, or its path is none (`Baffles`), or a lone surrogate stands in the
template. Then the run ends in the error itself, without a word.

* `payloadAt_eq_ok_iff`, `payloadAt_eq_unreadable_iff`, `payloadAt_eq_internal_iff`: what a source
  gives.
* `Prints.run_ends`: the ways in which a run ends.
* **`render_ends`**: which way that is, from what the source holds.
* `undecodable_source_escapes`: a source that is no text.
-/

namespace HealthAlert

/-! ## Paths that are none -/

namespace FileTree

theorem follow_ne_unspeakable (t : FileTree) (here : Location) (parts : List String) :
    t.follow here parts ≠ .error .unspeakable := by
  induction parts generalizing here with
  | nil => exact nofun
  | cons part rest ih =>
    unfold follow
    split
    · split
      · exact nofun
      · split
        · exact ih _
        · split
          · exact nofun
          · exact ih _
    · exact nofun
    · exact nofun
    · exact nofun

/-- A path cannot be spoken of when it holds a null character, whatever the files are. -/
theorem read_eq_nullInPath_iff {t : FileTree} {p : Path} :
    t.read p = .error .nullInPath ↔ '\x00' ∈ p.text.toList := by
  have hlocate : t.locate p = .error .unspeakable ↔ '\x00' ∈ p.text.toList := by
    unfold locate
    split
    · rename_i hnull
      exact iff_of_true rfl (by simpa using hnull)
    · rename_i hnull
      refine iff_of_false ?_ (by simpa using hnull)
      split
      · exact nofun
      · exact t.follow_ne_unspeakable _ _
  rw [← hlocate]
  unfold read lookup
  cases hl : t.locate p with
  | ok there =>
    refine iff_of_false ?_ nofun
    cases hn : t.nodeAt there with
    | deadEnd d => exact absurd hn (nodeAt_ne_deadEnd d)
    | _ => simp [hn]
  | error d => cases d <;> simp [deadEndError]

end FileTree

namespace Command

variable {s : Surroundings} {source : String} {d : Json.Document} {e : InternalError}

/-! ## Sources -/

/-- The source holds a JSON document. -/
def Holds (s : Surroundings) (source : String) (d : Json.Document) : Prop :=
  ∃ bytes cs, sourceBytes s source = .ok bytes ∧ Text.Utf8.decode bytes = .ok cs ∧
    Json.openText cs = .ok d

/-- Why no JSON can be read from a source, as the program reports it. -/
inductive Unreadable (s : Surroundings) (source : String) : String → Prop where
  /-- There is no file that can be opened. -/
  | noFile {e : InternalError} (hbytes : sourceBytes s source = .error e)
    (hpath : e ≠ .nullInPath) : Unreadable s source e.message
  /-- The text is not JSON. -/
  | malformed {bytes : List UInt8} {cs : List Char} {problem : Json.Problem} {position : Nat}
    (hbytes : sourceBytes s source = .ok bytes) (htext : Text.ofFile bytes = .ok cs)
    (h : Json.openText cs = .error (.malformed problem position)) :
    Unreadable s source (problem.located cs position)

/-- Why a source cannot be read, where the program does not expect it, and the error that
follows. -/
inductive Baffles (s : Surroundings) (source : String) : InternalError → Prop where
  /-- It is named by a path with a null character. -/
  | nullInPath (hfile : source ≠ standardInput)
    (h : '\x00' ∈ (Path.ofText source).text.toList) : Baffles s source .nullInPath
  /-- Its bytes are not UTF-8. -/
  | undecodable {bytes : List UInt8} {fault : Text.Utf8.Fault}
    (hbytes : sourceBytes s source = .ok bytes) (h : Text.Utf8.decode bytes = .error fault) :
    Baffles s source (.undecodable fault)
  /-- The first thing in its text that cannot be read is an integer with too many digits. -/
  | longInteger {bytes : List UInt8} {cs : List Char} {digits : Nat}
    (hbytes : sourceBytes s source = .ok bytes) (htext : Text.ofFile bytes = .ok cs)
    (h : Json.openText cs = .error (.longInteger digits)) : Baffles s source (.longInteger digits)

/-- What a source has that the program does not expect, and the error that follows. -/
inductive Escapes (s : Surroundings) (source : String) : InternalError → Prop where
  /-- It cannot be read. -/
  | unread {e : InternalError} (h : Baffles s source e) : Escapes s source e
  /-- It holds a request that is accepted, and a lone surrogate of it stands in the template. -/
  | unencodable {d : Json.Document} {input : AlertInput} {t : Template} {f : Text.EncodingFault}
    (hd : Holds s source d) (hread : Request.read d.value d.lone = .accepted input)
    (ht : Template.render s.settings.templateOptions input = .ok t)
    (h : Text.encodingFault? d.lone t.text = some f) : Escapes s source (.unencodable f)

theorem sourceBytes_eq_nullInPath_iff : sourceBytes s source = .error .nullInPath ↔
    source ≠ standardInput ∧ '\x00' ∈ (Path.ofText source).text.toList := by
  unfold sourceBytes
  split
  · simp [*]
  · simp [*, FileTree.read_eq_nullInPath_iff]

theorem payloadOf_eq_internal_iff {bytes : List UInt8} :
    payloadOf bytes = .error (.internal e) ↔
      (∃ fault, Text.Utf8.decode bytes = .error fault ∧ e = .undecodable fault) ∨
        ∃ cs digits, Text.ofFile bytes = .ok cs ∧
          Json.openText cs = .error (.longInteger digits) ∧ e = .longInteger digits := by
  simp only [← Options.ofFile_eq_error_iff]
  unfold payloadOf
  cases Text.ofFile bytes with
  | error fault => simp [eq_comm]
  | ok cs =>
    cases hread : Json.openText cs with
    | error problem => cases problem <;> simp [hread, eq_comm]
    | ok v => simp [hread]

theorem payloadOf_eq_unreadable_iff {bytes : List UInt8} {reason : String} :
    payloadOf bytes = .error (.unreadable reason) ↔
      ∃ cs problem position, Text.ofFile bytes = .ok cs ∧
        Json.openText cs = .error (.malformed problem position) ∧
          reason = problem.located cs position := by
  unfold payloadOf
  cases Text.ofFile bytes with
  | error fault => simp
  | ok cs =>
    cases hread : Json.openText cs with
    | error problem => cases problem <;> simp [hread, eq_comm]
    | ok v => simp [hread]

theorem payloadAt_of_bytes {bytes : List UInt8} (h : sourceBytes s source = .ok bytes) :
    payloadAt s source = payloadOf bytes := by
  unfold payloadAt
  rw [h]

theorem payloadAt_of_nullInPath (h : sourceBytes s source = .error .nullInPath) :
    payloadAt s source = .error (.internal .nullInPath) := by
  unfold payloadAt
  rw [h]

/-- Whatever else keeps a file from being opened is reported. -/
theorem payloadAt_of_error (h : sourceBytes s source = .error e) (hpath : e ≠ .nullInPath) :
    payloadAt s source = .error (.unreadable e.message) := by
  unfold payloadAt
  rw [h]
  cases e with
  | nullInPath => exact absurd rfl hpath
  | _ => rfl

theorem payloadAt_eq_ok_iff : payloadAt s source = .ok d ↔ Holds s source d := by
  unfold Holds
  cases hbytes : sourceBytes s source with
  | error e =>
    by_cases hpath : e = .nullInPath
    · subst hpath
      simp [payloadAt_of_nullInPath hbytes]
    · simp [payloadAt_of_error hbytes hpath]
  | ok bytes => simp [payloadAt_of_bytes hbytes, payloadOf_eq_ok_iff]

/-- Reading a source ends in an internal error exactly when it cannot be read so. -/
theorem payloadAt_eq_internal_iff :
    payloadAt s source = .error (.internal e) ↔ Baffles s source e := by
  constructor
  · intro h
    cases hbytes : sourceBytes s source with
    | ok bytes =>
      rw [payloadAt_of_bytes hbytes, payloadOf_eq_internal_iff] at h
      rcases h with ⟨fault, hdecode, rfl⟩ | ⟨cs, digits, htext, hread, rfl⟩
      · exact .undecodable hbytes hdecode
      · exact .longInteger hbytes htext hread
    | error fault =>
      by_cases hpath : fault = .nullInPath
      · subst hpath
        obtain ⟨hfile, hchar⟩ := sourceBytes_eq_nullInPath_iff.mp hbytes
        obtain rfl := SourceFault.internal.inj
          (Except.error.inj ((payloadAt_of_nullInPath hbytes).symm.trans h))
        exact .nullInPath hfile hchar
      · exact absurd ((payloadAt_of_error hbytes hpath).symm.trans h) (by simp)
  · rintro (⟨hfile, hchar⟩ | ⟨hbytes, hdecode⟩ | ⟨hbytes, htext, hread⟩)
    · exact payloadAt_of_nullInPath (sourceBytes_eq_nullInPath_iff.mpr ⟨hfile, hchar⟩)
    · rw [payloadAt_of_bytes hbytes, payloadOf_eq_internal_iff]
      exact Or.inl ⟨_, hdecode, rfl⟩
    · rw [payloadAt_of_bytes hbytes, payloadOf_eq_internal_iff]
      exact Or.inr ⟨_, _, htext, hread, rfl⟩

theorem payloadAt_eq_unreadable_iff {reason : String} :
    payloadAt s source = .error (.unreadable reason) ↔ Unreadable s source reason := by
  constructor
  · intro h
    cases hbytes : sourceBytes s source with
    | ok bytes =>
      rw [payloadAt_of_bytes hbytes, payloadOf_eq_unreadable_iff] at h
      obtain ⟨cs, problem, position, htext, hread, rfl⟩ := h
      exact .malformed hbytes htext hread
    | error fault =>
      by_cases hpath : fault = .nullInPath
      · subst hpath
        exact absurd ((payloadAt_of_nullInPath hbytes).symm.trans h) (by simp)
      · obtain rfl := SourceFault.unreadable.inj
          (Except.error.inj ((payloadAt_of_error hbytes hpath).symm.trans h))
        exact .noFile hbytes hpath
  · rintro (⟨hbytes, hpath⟩ | ⟨hbytes, htext, hread⟩)
    · exact payloadAt_of_error hbytes hpath
    · rw [payloadAt_of_bytes hbytes, payloadOf_eq_unreadable_iff]
      exact ⟨_, _, _, htext, hread, rfl⟩

theorem Holds.unique {d' : Json.Document} (h : Holds s source d) (h' : Holds s source d') :
    d = d' :=
  Except.ok.inj ((payloadAt_eq_ok_iff.mpr h).symm.trans (payloadAt_eq_ok_iff.mpr h'))

theorem Holds.not_baffles (h : Holds s source d) : ¬ Baffles s source e := fun he =>
  absurd ((payloadAt_eq_ok_iff.mpr h).symm.trans (payloadAt_eq_internal_iff.mpr he)) (by simp)

theorem Baffles.unique {e' : InternalError} (h : Baffles s source e) (h' : Baffles s source e') :
    e = e' := by
  have herror := (payloadAt_eq_internal_iff.mpr h).symm.trans (payloadAt_eq_internal_iff.mpr h')
  exact SourceFault.internal.inj (Except.error.inj herror)

/-- A request that is accepted escapes only by what stands in its template. -/
theorem Holds.escapes_iff (h : Holds s source d) {input : AlertInput} {t : Template}
    (hread : Request.read d.value d.lone = .accepted input)
    (ht : Template.render s.settings.templateOptions input = .ok t) :
    Escapes s source e ↔
      ∃ f, Text.encodingFault? d.lone t.text = some f ∧ e = .unencodable f := by
  constructor
  · rintro (hbaffles | ⟨hd', hread', ht', htext⟩)
    · exact absurd hbaffles h.not_baffles
    · obtain rfl := h.unique hd'
      obtain rfl := Checked.accepted.inj (hread.symm.trans hread')
      obtain rfl := Except.ok.inj (ht.symm.trans ht')
      exact ⟨_, htext, rfl⟩
  · rintro ⟨f, htext, rfl⟩
    exact .unencodable h hread ht htext

theorem Escapes.unique {e' : InternalError} (h : Escapes s source e) (h' : Escapes s source e') :
    e = e' := by
  rcases h with hbaffles | ⟨hd, hread, ht, htext⟩
  · rcases h' with hbaffles' | ⟨hd', -, -, -⟩
    · exact hbaffles.unique hbaffles'
    · exact absurd hbaffles hd'.not_baffles
  · obtain ⟨f', htext', rfl⟩ := (hd.escapes_iff hread ht).mp h'
    rw [Option.some.inj (htext.symm.trans htext')]

/-- A request that is refused does not escape. -/
theorem Holds.not_escapes (h : Holds s source d)
    (hnot : ∀ input, Request.read d.value d.lone ≠ .accepted input) : ¬ Escapes s source e := by
  rintro (hbaffles | ⟨hd', hread', -, -⟩)
  · exact h.not_baffles hbaffles
  · obtain rfl := h.unique hd'
    exact hnot _ hread'

/-! ## Runs -/

/-- The arguments ask for the template of the request at a source, perhaps with what is known about
it, on the standard output. -/
def Prints (arguments : List String) (source : String) (withDescription : Bool) : Prop :=
  ∃ verbose output,
    Invocation.ofArguments arguments = .ok ⟨verbose, .render source output withDescription⟩ ∧
      output.getD "" = ""

/-- The program says what is wrong with the source: why it cannot be read as JSON, or what keeps the
value in it from being a request. -/
def Complains (s : Surroundings) (source errors : String) : Prop :=
  (∃ reason, Unreadable s source reason ∧
      errors = "Cannot read " ++ source ++ ": " ++ reason ++ "\n") ∨
    ∃ d issues, Holds s source d ∧ Request.read d.value d.lone = .refused issues ∧
      errors = issuesText issues

/-- How a run ends that asks for a template on the standard output; the files stay as they are. -/
inductive Ends (s : Surroundings) (source : String) (withDescription : Bool) : Outcome → Prop where
  | printed {d : Json.Document} {input : AlertInput} {t : Template} (errors : String)
    (hd : Holds s source d) (hread : Request.read d.value d.lone = .accepted input)
    (ht : Template.render s.settings.templateOptions input = .ok t)
    (htext : Text.encodingFault? d.lone t.text = none) :
    Ends s source withDescription
      { ending := .ok 0, output := written withDescription t, errors, files := s.files }
  | complained {errors : String} (h : Complains s source errors)
    (hexpected : ∀ e, ¬ Escapes s source e)
    (hnot : ∀ d input, Holds s source d → Request.read d.value d.lone ≠ .accepted input) :
    Ends s source withDescription { ending := .ok invalidInputStatus, errors, files := s.files }
  | escaped {e : InternalError} (h : Escapes s source e) :
    Ends s source withDescription { ending := .error e, files := s.files }

variable {arguments : List String} {withDescription : Bool}

theorem Prints.exists_run (h : Prints arguments source withDescription) (s : Surroundings) :
    ∃ verbose output,
      Invocation.ofArguments arguments = .ok ⟨verbose, .render source output withDescription⟩ ∧
        output.getD "" = "" ∧
        run s arguments = runRender s verbose source output withDescription := by
  obtain ⟨verbose, output, harguments, houtput⟩ := h
  refine ⟨verbose, output, harguments, houtput, ?_⟩
  unfold run
  rw [harguments]
  rfl

/-- Without JSON at its source a run complains, or the error at the source escapes. -/
theorem Prints.run_ends_of_error (h : Prints arguments source withDescription)
    {fault : SourceFault} (hpayload : payloadAt s source = .error fault) :
    Ends s source withDescription (run s arguments) := by
  obtain ⟨verbose, output, -, -, hrun⟩ := h.exists_run s
  rw [hrun]
  unfold runRender
  rw [hpayload]
  cases fault with
  | internal e => exact .escaped (.unread (payloadAt_eq_internal_iff.mp hpayload))
  | unreadable reason =>
    have hnone (d : Json.Document) : ¬ Holds s source d := fun hd =>
      absurd ((payloadAt_eq_ok_iff.mpr hd).symm.trans hpayload) (by simp)
    have hexpected (e : InternalError) : ¬ Escapes s source e := by
      rintro (hbaffles | ⟨hd, -, -, -⟩)
      · exact absurd ((payloadAt_eq_internal_iff.mpr hbaffles).symm.trans hpayload) (by simp)
      · exact hnone _ hd
    exact .complained (Or.inl ⟨reason, payloadAt_eq_unreadable_iff.mp hpayload, rfl⟩) hexpected
      fun d _ hd => absurd hd (hnone d)

/-- A refused request ends a run with its issues. -/
theorem Prints.run_ends_of_refused (h : Prints arguments source withDescription)
    (hd : Holds s source d) {issues : List Issue}
    (hread : Request.read d.value d.lone = .refused issues) :
    Ends s source withDescription (run s arguments) := by
  obtain ⟨verbose, output, -, -, hrun⟩ := h.exists_run s
  have hnot (input : AlertInput) : Request.read d.value d.lone ≠ .accepted input := by
    rw [hread]
    exact nofun
  rw [hrun]
  unfold runRender
  rw [payloadAt_eq_ok_iff.mpr hd]
  dsimp only
  rw [hread]
  refine .complained (Or.inr ⟨d, issues, hd, hread, rfl⟩) (fun _ => hd.not_escapes hnot) ?_
  intro d' input hd'
  obtain rfl := hd.unique hd'
  exact hnot input

/-- An accepted request has a template, so only its text can keep it from being printed. -/
theorem Prints.run_ends_of_accepted (h : Prints arguments source withDescription)
    (hd : Holds s source d) {input : AlertInput}
    (hread : Request.read d.value d.lone = .accepted input) :
    Ends s source withDescription (run s arguments) := by
  obtain ⟨verbose, output, harguments, houtput, -⟩ := h.exists_run s
  obtain ⟨bytes, cs, hbytes, hdecode, hopen⟩ := id hd
  have hrenders : Renders s arguments output withDescription bytes :=
    ⟨verbose, source, harguments, hbytes⟩
  have hpayload := payloadOf_of_decode hdecode hopen
  have ht := Template.render_accepted hread s.settings.templateOptions
  have hcompose := Template.compose_of_accepted hread ht
  cases htext : Text.encodingFault? d.lone
      (Template.withReference s.settings.templateOptions input input.reference).text with
  | some f =>
    rw [hrenders.run_of_unencodable hpayload hread hcompose htext]
    exact .escaped (.unencodable hd hread ht htext)
  | none =>
    obtain ⟨verbose', log, hdelivered⟩ := hrenders.run_of_accepted hpayload hread hcompose htext
    rw [hdelivered, deliver_of_no_output houtput]
    exact .printed _ hd hread ht htext

theorem Prints.run_ends (h : Prints arguments source withDescription) (s : Surroundings) :
    Ends s source withDescription (run s arguments) := by
  cases hpayload : payloadAt s source with
  | error fault => exact h.run_ends_of_error hpayload
  | ok d =>
    have hd := payloadAt_eq_ok_iff.mp hpayload
    cases hread : Request.read d.value d.lone with
    | refused issues => exact h.run_ends_of_refused hd hread
    | accepted input => exact h.run_ends_of_accepted hd hread

/-- What is not expected of a source ends the run without a word. -/
theorem Prints.run_of_escapes (h : Prints arguments source withDescription)
    (he : Escapes s source e) : run s arguments = { ending := .error e, files := s.files } := by
  have hends := h.run_ends s
  generalize run s arguments = outcome at hends ⊢
  cases hends with
  | printed _ hd hread ht htext =>
    obtain ⟨f, hsome, -⟩ := (hd.escapes_iff hread ht).mp he
    exact absurd (htext.symm.trans hsome) (by simp)
  | complained _ hexpected => exact absurd he (hexpected e)
  | escaped he' => rw [he.unique he']

/-- **How a run that renders to the standard output ends.** It prints the template and succeeds when
its source holds a JSON document that is accepted as a request, unless a lone surrogate stands in
the template. It ends in an error that nothing handles exactly when the source has something that is
not expected, and then prints nothing. In every other case it prints nothing, complains, and ends
with the status for such input. -/
theorem render_ends (h : Prints arguments source withDescription) (s : Surroundings) :
    let outcome := run s arguments
    (∀ d input, Holds s source d → Request.read d.value d.lone = .accepted input →
        ∃ t, Template.render s.settings.templateOptions input = .ok t ∧
          match Text.encodingFault? d.lone t.text with
          | none => outcome.ending = .ok 0 ∧ outcome.output = written withDescription t
          | some f => outcome.ending = .error (.unencodable f)) ∧
      (∀ e, outcome.ending = .error e ↔ Escapes s source e) ∧
      (∀ e, Escapes s source e → outcome = { ending := .error e, files := s.files }) ∧
      ((∀ d input, Holds s source d → Request.read d.value d.lone ≠ .accepted input) →
        outcome.output = "" ∧
          ((∀ e, ¬ Escapes s source e) →
            outcome.ending = .ok 2 ∧ Complains s source outcome.errors)) := by
  have hescaped (e : InternalError) (he : Escapes s source e) :
      run s arguments = { ending := .error e, files := s.files } := h.run_of_escapes he
  have hends := h.run_ends s
  generalize run s arguments = outcome at hends hescaped
  have herror (e : InternalError) (he : Escapes s source e) : outcome.ending = .error e := by
    rw [hescaped e he]
  cases hends with
  | @printed d input t errors hd hread ht htext =>
    refine ⟨fun d' input' hd' hread' => ?_, fun e => ⟨fun he => by simp at he, herror e⟩, hescaped,
      fun hnot => absurd hread (hnot d input hd)⟩
    obtain rfl := hd.unique hd'
    obtain rfl := Checked.accepted.inj (hread.symm.trans hread')
    refine ⟨t, ht, ?_⟩
    rw [htext]
    exact ⟨rfl, rfl⟩
  | complained hc hexpected hnot =>
    exact ⟨fun d input hd hread => absurd hread (hnot d input hd),
      fun e => iff_of_false (by simp) (hexpected e), hescaped, fun _ => ⟨rfl, fun _ => ⟨rfl, hc⟩⟩⟩
  | @escaped e he =>
    refine ⟨fun d input hd hread => ?_, fun e' => ⟨fun h => ?_, herror e'⟩, hescaped,
      fun _ => ⟨rfl, fun hnone => absurd he (hnone e)⟩⟩
    · have ht := Template.render_accepted hread s.settings.templateOptions
      obtain ⟨f, htext, rfl⟩ := (hd.escapes_iff hread ht).mp he
      refine ⟨_, ht, ?_⟩
      rw [htext]
    · obtain rfl := Except.error.inj h
      exact he

/-! ## Runs on a file -/

open FrontEnds (among briefBytes briefInput briefRequest briefText decode_briefBytes
  ofArguments_request openText_briefText sourceBytes_among)

theorem prints_request : Prints ["render", "request.json"] "request.json" false :=
  ⟨false, none, ofArguments_request, rfl⟩

theorem render_ends_briefText :
    Holds (among briefBytes) "request.json" ⟨briefRequest, []⟩ ∧
      ∃ t, Template.render {} briefInput = .ok t ∧
        (run (among briefBytes) ["render", "request.json"]).ending = .ok 0 ∧
        (run (among briefBytes) ["render", "request.json"]).output = t.text := by
  have hholds : Holds (among briefBytes) "request.json" ⟨briefRequest, []⟩ :=
    ⟨briefBytes, briefText.toList, sourceBytes_among _, decode_briefBytes, openText_briefText⟩
  obtain ⟨t, ht, hprinted⟩ :=
    (render_ends prints_request (among briefBytes)).1 _ briefInput hholds rfl
  rw [Text.encodingFault?_nil] at hprinted
  exact ⟨hholds, t, ht, hprinted⟩

/-- A file that is not UTF-8 is a file that can be read, and no JSON document: the run neither
succeeds nor complains. -/
theorem undecodable_source_escapes :
    Prints ["render", "request.json"] "request.json" false ∧
      sourceBytes (among [0xFF]) "request.json" = .ok [0xFF] ∧
      (∀ d, ¬ Holds (among [0xFF]) "request.json" d) ∧
      run (among [0xFF]) ["render", "request.json"] =
        { ending := .error (.undecodable ⟨.invalidStart, 0, 1, 0xFF⟩)
          files := (among [0xFF]).files } := by
  have hbytes : sourceBytes (among [0xFF]) "request.json" = .ok [0xFF] := sourceBytes_among _
  have hbaffles : Baffles (among [0xFF]) "request.json"
      (.undecodable ⟨.invalidStart, 0, 1, 0xFF⟩) := .undecodable hbytes rfl
  exact ⟨prints_request, hbytes, fun _ hd => hd.not_baffles hbaffles,
    prints_request.run_of_escapes (.unread hbaffles)⟩

end Command

end HealthAlert
