import BundleInspect.Program.Run
import BundleInspect.Proofs.Files.Checks
import BundleInspect.Proofs.Steps

/-!
# When the extractor is asked

An extraction passes five steps, each of which may fail. `execute_first_failure`: it ends with the
error of the first step that fails, the extractor is asked once if the steps before it pass and
never otherwise, and what is printed is the list of the paths that it returned.
-/

namespace BundleInspect.Extract

open Log Files

/-! ## Steps and their failures -/

inductive Step where
  | archive
  | deviceSpec
  | output
  | reading
  | extractor

def Step.rank : Step → Nat
  | .archive => 0
  | .deviceSpec => 1
  | .output => 2
  | .reading => 3
  | .extractor => 4

/-- Its own archive and directory, and the spec that the file holds now. -/
structure Asks (view : View) (c : Command) (request : ExtractRequest) : Prop where
  archive : request.archive = c.archive
  outputDirectory : request.outputDirectory = c.outputDirectory
  spec : ∃ contents text, view c.deviceSpec = some (.file contents) ∧
    contents.text? = some text ∧ DeviceSpec.decode text = .ok request.spec

/-- Why a file that can be opened holds no device spec. -/
inductive NoSpec (view : View) (path : Path) : Reason → Prop where
  | directory : view path = some .directory → NoSpec view path .isDirectory
  | bytes (contents : Bytes) :
    view path = some (.file contents) → contents.text? = none → NoSpec view path .notText
  | text (contents : Bytes) (text : String) (error : DeviceSpec.DecodeError) :
    view path = some (.file contents) → contents.text? = some text →
      DeviceSpec.decode text = .error error → NoSpec view path (.badSpec error)

/-- A step fails whatever becomes of the steps before it. -/
inductive Fails (view : View) (extractor : Extractor) (c : Command) : Step → Error → Prop where
  | archive (e : Error) : Unreadable view c.archive e → Fails view extractor c .archive e
  | deviceSpec (e : Error) : Unreadable view c.deviceSpec e → Fails view extractor c .deviceSpec e
  | output (e : Error) : NoDirectory view c.outputDirectory e → Fails view extractor c .output e
  | reading (reason : Reason) :
    NoSpec view c.deviceSpec reason →
      Fails view extractor c .reading (.deviceSpecReadFailed c.deviceSpec reason)
  | extractor (request : ExtractRequest) (reason : Reason) :
    Asks view c request → (extractor request).result = .error reason →
      Fails view extractor c .extractor (.extractionFailed reason)

def FirstFails (view : View) (extractor : Extractor) (c : Command) : Step → Error → Prop :=
  First Step.rank (Fails view extractor c)

/-- No step up to the reading of the spec fails. -/
def Ready (view : View) (extractor : Extractor) (c : Command) : Prop :=
  ∀ step e, step.rank < Step.extractor.rank → ¬ Fails view extractor c step e

/-- Each path as it is shown, in their order, or nothing after an error. -/
inductive Prints : Except Error (List Path) → String → Prop where
  | error (e : Error) : Prints (.error e) ""
  | nil : Prints (.ok []) ""
  | cons (path : Path) (paths : List Path) (rest : String) :
    Prints (.ok paths) rest → Prints (.ok (path :: paths)) (path.display ++ "\n" ++ rest)

variable {view : View} {extractor : Extractor} {c : Command}

/-! ## Reading the spec -/

theorem readSpec_of_noSpec {path : Path} {reason : Reason} (h : NoSpec view path reason) :
    Command.readSpec view path = .error reason := by
  unfold Command.readSpec Command.readText
  cases h with
  | directory hview => rw [hview]
  | bytes contents hview htext => rw [hview]; simp [htext]
  | text contents text error hview htext hdecode =>
    rw [hview]
    simp [htext, hdecode, Except.mapError]

theorem asks_or_noSpec (h : ∀ e, ¬ Unreadable view c.deviceSpec e) :
    (∃ request, Asks view c request) ∨ ∃ reason, NoSpec view c.deviceSpec reason := by
  cases hview : view c.deviceSpec with
  | none => exact absurd (.missing hview) (h _)
  | some item =>
    cases item with
    | closedDirectory => exact absurd (.closed .closedDirectory hview rfl) (h _)
    | socket => exact absurd (.closed .socket hview rfl) (h _)
    | directory => exact .inr ⟨_, .directory hview⟩
    | file contents =>
      cases htext : contents.text? with
      | none => exact .inr ⟨_, .bytes contents hview htext⟩
      | some text =>
        cases hdecode : DeviceSpec.decode text with
        | error error => exact .inr ⟨_, .text contents text error hview htext hdecode⟩
        | ok spec =>
          exact .inl ⟨⟨c.archive, spec, c.outputDirectory⟩, rfl, rfl, contents, text, hview, htext,
            hdecode⟩

theorem readSpec_of_asks {request : ExtractRequest} (h : Asks view c request) :
    Command.readSpec view c.deviceSpec = .ok request.spec := by
  obtain ⟨contents, text, hview, htext, hdecode⟩ := h.spec
  unfold Command.readSpec Command.readText
  rw [hview]
  simp [htext, hdecode, Except.mapError]

/-! ## The stages of an extraction -/

theorem prepare_result :
    (c.prepare view).result =
      (checkReadable view c.archive).result.bind fun _ =>
      (checkReadable view c.deviceSpec).result.bind fun _ =>
      (checkOutput view c.outputDirectory).result.bind fun _ =>
      ((Command.readSpec view c.deviceSpec).mapError (.deviceSpecReadFailed c.deviceSpec)).map
        fun spec => ⟨c.archive, spec, c.outputDirectory⟩ := by
  simp only [Command.prepare, Command.validate, Stage.result_bind, Stage.result_ofExcept,
    Stage.result_log, Stage.result_pure]
  cases (checkReadable view c.archive).result <;> cases (checkReadable view c.deviceSpec).result <;>
    rfl

theorem archive_passes (h : ∀ e, ¬ Fails view extractor c .archive e) :
    (checkReadable view c.archive).result = .ok () :=
  checkReadable_of_not_unreadable fun e he => h e (.archive e he)

theorem deviceSpec_passes (h : ∀ e, ¬ Fails view extractor c .deviceSpec e) :
    (checkReadable view c.deviceSpec).result = .ok () :=
  checkReadable_of_not_unreadable fun e he => h e (.deviceSpec e he)

theorem output_passes (h : ∀ e, ¬ Fails view extractor c .output e) :
    (checkOutput view c.outputDirectory).result = .ok () :=
  checkOutput_of_not_noDirectory fun e he => h e (.output e he)

theorem prepare_of_firstFails {step : Step} {e : Error} (h : FirstFails view extractor c step e)
    (hstep : step.rank < Step.extractor.rank) : (c.prepare view).result = .error e := by
  obtain ⟨hfails, hfirst⟩ := h
  rw [prepare_result]
  cases hfails with
  | archive e hfails =>
    rw [checkReadable_eq_error_iff.mpr hfails]
    rfl
  | deviceSpec e hfails =>
    rw [archive_passes (hfirst .archive · (by decide)), checkReadable_eq_error_iff.mpr hfails]
    rfl
  | output e hfails =>
    rw [archive_passes (hfirst .archive · (by decide)),
      deviceSpec_passes (hfirst .deviceSpec · (by decide)), checkOutput_eq_error_iff.mpr hfails]
    rfl
  | reading reason hfails =>
    rw [archive_passes (hfirst .archive · (by decide)),
      deviceSpec_passes (hfirst .deviceSpec · (by decide)),
      output_passes (hfirst .output · (by decide)), readSpec_of_noSpec hfails]
    rfl
  | extractor => exact absurd hstep (by decide)

theorem asks_of_ready (h : Ready view extractor c) : ∃ request, Asks view c request := by
  rcases asks_or_noSpec fun e he => h .deviceSpec e (by decide) (.deviceSpec e he) with
    hasks | ⟨reason, hreason⟩
  · exact hasks
  · exact absurd (.reading reason hreason) (h .reading _ (by decide))

theorem prepare_of_ready {request : ExtractRequest} (h : Ready view extractor c)
    (hasks : Asks view c request) : (c.prepare view).result = .ok request := by
  rw [prepare_result, archive_passes (h .archive · (by decide)),
    deviceSpec_passes (h .deviceSpec · (by decide)), output_passes (h .output · (by decide)),
    readSpec_of_asks hasks]
  obtain ⟨archive, spec, outputDirectory⟩ := request
  obtain ⟨harchive, houtput, -⟩ := hasks
  cases harchive
  cases houtput
  rfl

/-! ## Runs -/

theorem conclude_result (answer : Extraction) :
    (c.conclude answer).result = answer.result.mapError .extractionFailed := by
  simp only [Command.conclude, Stage.result_bind, Stage.result_ofExcept, Stage.result_log,
    Stage.result_pure]
  cases answer.result <;> rfl

theorem execute_of_unprepared (extractor : Extractor) {e : Error}
    (h : (c.prepare view).result = .error e) :
    c.execute view extractor = ⟨.error e, (c.prepare view).events, []⟩ := by
  simp only [Command.execute, h]

theorem execute_of_prepared (extractor : Extractor) {request : ExtractRequest}
    (h : (c.prepare view).result = .ok request) :
    (c.execute view extractor).result = (extractor request).result.mapError .extractionFailed ∧
      (c.execute view extractor).requests = [request] := by
  simp only [Command.execute, h, conclude_result, and_self]

theorem asks_unique {request request' : ExtractRequest} (h : Asks view c request)
    (h' : Asks view c request') : request = request' := by
  obtain ⟨archive, spec, outputDirectory⟩ := request
  obtain ⟨archive', spec', outputDirectory'⟩ := request'
  have hspec := (readSpec_of_asks h).symm.trans (readSpec_of_asks h')
  obtain ⟨harchive, houtput, -⟩ := h
  obtain ⟨harchive', houtput', -⟩ := h'
  simp_all

theorem result_of_firstFails {step : Step} {e : Error} (h : FirstFails view extractor c step e) :
    (c.execute view extractor).result = .error e := by
  by_cases hstep : step.rank < Step.extractor.rank
  · rw [execute_of_unprepared extractor (prepare_of_firstFails h hstep)]
  obtain ⟨hfails, hfirst⟩ := h
  have hready : Ready view extractor c := fun earlier e' hlt => hfirst earlier e' (by omega)
  cases hfails with
  | extractor request reason hasks hresult =>
    rw [(execute_of_prepared extractor (prepare_of_ready hready hasks)).1, hresult]
    rfl
  | archive | deviceSpec | output | reading => exact absurd (by decide) hstep

theorem result_of_not_fails (h : ∀ step e, ¬ Fails view extractor c step e) :
    ∃ request paths, Asks view c request ∧ (extractor request).result = .ok paths ∧
      (c.execute view extractor).result = .ok paths := by
  have hready : Ready view extractor c := fun step e _ => h step e
  obtain ⟨request, hasks⟩ := asks_of_ready hready
  cases hresult : (extractor request).result with
  | error reason => exact absurd (.extractor request reason hasks hresult) (h _ _)
  | ok paths =>
    refine ⟨request, paths, hasks, hresult, ?_⟩
    rw [(execute_of_prepared extractor (prepare_of_ready hready hasks)).1, hresult]
    rfl

theorem result_eq_error_iff (e : Error) :
    (c.execute view extractor).result = .error e ↔
      ∃ step, FirstFails view extractor c step e := by
  refine eq_error_iff_first (fun step e h => result_of_firstFails h) (fun hnever => ?_) e
  obtain ⟨request, paths, -, -, hok⟩ := result_of_not_fails hnever
  exact ⟨paths, hok⟩

theorem prepare_ne_extractionFailed (reason : Reason) :
    (c.prepare view).result ≠ .error (.extractionFailed reason) := by
  intro h
  -- An extractor that never fails leaves only the earlier steps to blame.
  have hrun := execute_of_unprepared (fun _ => { result := .ok [] }) h
  obtain ⟨step, hfails, -⟩ := (result_eq_error_iff _).mp (congrArg Report.result hrun)
  cases hfails with
  | archive _ hfails | deviceSpec _ hfails | output _ hfails => cases hfails
  | extractor request _ _ hresult => cases hresult

theorem prints_listing (paths : List Path) : Prints (.ok paths) (listing paths) := by
  induction paths with
  | nil => exact .nil
  | cons path paths ih =>
    have hcons : listing (path :: paths) = path.display ++ "\n" ++ listing paths := by
      simp [listing]
    rw [hcons]
    exact .cons path paths _ ih

theorem prints_toRun (r : Report) : Prints r.result r.toRun.output := by
  unfold Report.toRun
  cases r.result with
  | ok paths => exact prints_listing paths
  | error e => exact .error e

theorem result_toRun (r : Report) : r.toRun.result = r.result.map fun _ => () := by
  unfold Report.toRun
  cases r.result <;> rfl

theorem requests_of_not_ready (h : ¬ Ready view extractor c) :
    (c.execute view extractor).requests = [] := by
  simp only [Ready, not_forall, not_not] at h
  obtain ⟨step, e, hlt, hfails⟩ := h
  obtain ⟨first, e', hfirst, hle⟩ := exists_first Step.rank hfails
  rw [execute_of_unprepared extractor (prepare_of_firstFails hfirst (by omega))]

theorem result_eq_ok_iff {paths : List Path} :
    (c.execute view extractor).result = .ok paths ↔
      (∀ step e, ¬ Fails view extractor c step e) ∧
        ∃ request, Asks view c request ∧ (extractor request).result = .ok paths := by
  constructor
  · intro hok
    have hnever := not_fails_of_ok (fun step e h => result_of_firstFails h) hok
    obtain ⟨request, paths', hasks, hresult, hok'⟩ := result_of_not_fails hnever
    rw [hok'] at hok
    cases hok
    exact ⟨hnever, request, hasks, hresult⟩
  · rintro ⟨hnever, request, hasks, hresult⟩
    obtain ⟨request', paths', hasks', hresult', hok⟩ := result_of_not_fails hnever
    rw [asks_unique hasks hasks', hresult'] at hresult
    cases hresult
    exact hok

/-- An extraction ends with the error of the first step that fails. -/
theorem execute_first_failure (view : View) (extractor : Extractor) (c : Command) :
    (∀ e, (c.execute view extractor).result = .error e ↔
      ∃ step, FirstFails view extractor c step e) ∧
    (∀ paths, (c.execute view extractor).result = .ok paths ↔
      (∀ step e, ¬ Fails view extractor c step e) ∧
        ∃ request, Asks view c request ∧ (extractor request).result = .ok paths) ∧
    (Ready view extractor c → ∃ request, Asks view c request ∧
      (c.execute view extractor).requests = [request]) ∧
    (¬ Ready view extractor c → (c.execute view extractor).requests = []) ∧
    (∀ dump script args, Command.ofArgs args = c →
      (Command.run view ⟨dump, extractor⟩ script (.extract args)).result =
        (c.execute view extractor).result.map (fun _ => ()) ∧
      Prints (c.execute view extractor).result
        (Command.run view ⟨dump, extractor⟩ script (.extract args)).output) := by
  refine ⟨result_eq_error_iff, fun paths => result_eq_ok_iff, ?_, requests_of_not_ready, ?_⟩
  · intro hready
    obtain ⟨request, hasks⟩ := asks_of_ready hready
    exact ⟨request, hasks, (execute_of_prepared extractor (prepare_of_ready hready hasks)).2⟩
  · rintro dump script args rfl
    exact ⟨result_toRun _, prints_toRun _⟩

end BundleInspect.Extract
