import HealthAlert.Command.Run
import HealthAlert.Proofs.Alert.Results
import HealthAlert.Proofs.Files.Growth
import HealthAlert.Proofs.Json.Settling

/-!
# How the program renders a request

The program reads the same JSON as the service, although the line ends of its file are made alike
first (`payloadOf_eq_ok_iff`). A run that renders then ends in one of three ways: with status 2,
with what was asked for on the standard output or in a file, or in an error because the text of
the template has no UTF-8.

* `Renders`: the arguments ask for the template of a request in these bytes.
* `Renders.run_of_refused`, `Renders.run_of_accepted`, `Renders.run_of_unencodable`: how the run
  ends, from what the request says.
* `deliver_of_no_output`, `deliver_of_output`: where the template goes.
-/

namespace HealthAlert.Command

/-- The arguments ask to render the request that is in these bytes, into a file or not, and perhaps
with what is known about the template. -/
def Renders (s : Surroundings) (arguments : List String) (output : Option String)
    (withDescription : Bool) (bytes : List UInt8) : Prop :=
  ∃ verbose source,
    Invocation.ofArguments arguments = .ok ⟨verbose, .render source output withDescription⟩ ∧
      sourceBytes s source = .ok bytes

/-- A file can be written at the path that a text spells, and can be read there. -/
def Writable (files : FileTree) (output : String) : Prop :=
  output ≠ "" ∧ ∃ there, files.locate (Path.ofText output) = .ok there ∧
    files.hasDirectory there = false ∧ files.barred.contains there = false

section Payloads

variable {bytes : List UInt8} {cs : List Char} {d : Json.Document}

/-- The line ends of a file make no difference to the JSON in it. -/
theorem payloadOf_eq_ok_iff :
    payloadOf bytes = .ok d ↔ ∃ cs, Text.Utf8.decode bytes = .ok cs ∧ Json.openText cs = .ok d := by
  unfold payloadOf Text.ofFile
  cases Text.Utf8.decode bytes with
  | error fault => simp [Except.map]
  | ok cs =>
    simp only [Except.map, Except.ok.injEq, exists_eq_left']
    rw [← Json.openText_unifyLineEnds_iff]
    cases Json.openText (Text.unifyLineEnds cs) with
    | ok d' => simp
    | error e => cases e <;> simp

theorem payloadOf_of_decode (hd : Text.Utf8.decode bytes = .ok cs) (h : Json.openText cs = .ok d) :
    payloadOf bytes = .ok d :=
  payloadOf_eq_ok_iff.mpr ⟨cs, hd, h⟩

end Payloads

section Delivery

variable {s : Surroundings} {verbose withDescription : Bool} {log : List Log.Row} {t : Template}

theorem deliver_of_no_output {output : Option String} (h : output.getD "" = "") :
    deliver s verbose log output withDescription t =
      { ending := .ok 0
        output := written withDescription t
        errors := logText verbose log
        files := s.files } := by
  unfold deliver
  rw [h]
  rfl

/-- **The file holds what was asked for.** -/
theorem deliver_of_output {output : String} (h : Writable s.files output) :
    (deliver s verbose log (some output) withDescription t).ending = .ok 0 ∧
      (deliver s verbose log (some output) withDescription t).files.read (Path.ofText output) =
        .ok (written withDescription t).toUTF8.toList := by
  obtain ⟨hne, there, hl, hd, hreadable⟩ := h
  obtain ⟨files, hsave⟩ : ∃ files, s.files.save (Path.ofText output)
      (written withDescription t).toUTF8.toList = .ok files := by
    unfold FileTree.save
    rw [hl]
    exact ⟨_, if_neg (by simp [hd])⟩
  unfold deliver
  rw [Option.getD_some]
  split
  · exact absurd rfl hne
  · dsimp only
    rw [hsave]
    exact ⟨rfl, FileTree.read_save hsave hl hreadable⟩

end Delivery

section Runs

variable {s : Surroundings} {arguments : List String} {output : Option String}
  {withDescription : Bool} {bytes : List UInt8} {d : Json.Document}

theorem Renders.run_eq (h : Renders s arguments output withDescription bytes) :
    ∃ verbose source, run s arguments = runRender s verbose source output withDescription ∧
      payloadAt s source = payloadOf bytes := by
  obtain ⟨verbose, source, harguments, hbytes⟩ := h
  refine ⟨verbose, source, ?_, ?_⟩
  · unfold run
    rw [harguments]
    rfl
  · unfold payloadAt
    rw [hbytes]

/-- A request that is refused ends the run with a status of its own. -/
theorem Renders.run_of_refused (h : Renders s arguments output withDescription bytes)
    (hd : payloadOf bytes = .ok d) {issues : List Issue}
    (hread : Request.read d.value d.lone = .refused issues) :
    (run s arguments).ending = .ok invalidInputStatus := by
  obtain ⟨verbose, source, hrun, hpayload⟩ := h.run_eq
  rw [hrun]
  unfold runRender
  rw [hpayload, hd]
  dsimp only
  rw [hread]

section Accepted

variable {input : AlertInput} {t : Template}

/-- The template of a request that is accepted is delivered. -/
theorem Renders.run_of_accepted (h : Renders s arguments output withDescription bytes)
    (hd : payloadOf bytes = .ok d) (hread : Request.read d.value d.lone = .accepted input)
    (ht : Rendering.compose s.settings.templateOptions input = .ok t)
    (htext : Text.encodingFault? d.lone t.text = none) :
    ∃ verbose log, run s arguments = deliver s verbose log output withDescription t := by
  obtain ⟨verbose, source, hrun, hpayload⟩ := h.run_eq
  refine ⟨verbose, Rendering.logRows s.duration input (.ok t), ?_⟩
  have hencoded : (Except.ok t >>= Rendering.encoded d.lone) = .ok t :=
    Rendering.encoded_of_none htext
  rw [hrun]
  unfold runRender Rendering.run
  rw [hpayload, hd]
  dsimp only
  rw [hread]
  dsimp only
  rw [ht, hencoded]

/-- A template whose text has no UTF-8 ends the run without a word. -/
theorem Renders.run_of_unencodable (h : Renders s arguments output withDescription bytes)
    (hd : payloadOf bytes = .ok d) (hread : Request.read d.value d.lone = .accepted input)
    (ht : Rendering.compose s.settings.templateOptions input = .ok t) {f : Text.EncodingFault}
    (htext : Text.encodingFault? d.lone t.text = some f) :
    run s arguments = { ending := .error (.unencodable f), files := s.files } := by
  obtain ⟨verbose, source, hrun, hpayload⟩ := h.run_eq
  have hencoded : (Except.ok t >>= Rendering.encoded d.lone) = .error (.unencodable f) :=
    Rendering.encoded_of_some htext
  rw [hrun]
  unfold runRender Rendering.run
  rw [hpayload, hd]
  dsimp only
  rw [hread]
  dsimp only
  rw [ht, hencoded]
  rfl

end Accepted

end Runs

end HealthAlert.Command
