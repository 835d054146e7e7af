import BundleInspect.Proofs.Dump.Dispatch
import BundleInspect.Proofs.Extract.Dispatch

/-!
# How far a run got

Each line of the log stands for a step of a run that passed. `execute_log_truthful`: what a dump or an
extraction logs by itself is the beginning of a fixed sequence of lines, and each of them is there if
and only if its step passed.
-/

namespace BundleInspect

open Log Files

/-! ## Dumps -/

namespace Dump

/-- What a backend logs by itself when it serves requests. -/
def emitted (backend : DumpBackend) (sink : Sink) (requests : List DumpRequest) : List Event :=
  requests.flatMap fun request => ((backend request).play sink).events

/-- The last line is for resources only. -/
def Command.lines (c : Command) (p : Resource.Predicate) : List Event :=
  .inputReadable c.bundle :: .dumping c.target c.bundle ::
    if c.target = .resources then [.compiledPredicate p] else []

structure Command.Tells (view : View) (c : Command) (r : Report Unit) (own : List Event) : Prop where
  readable : .inputReadable c.bundle ∈ own ↔ (checkReadable view c.bundle).result = .ok ()
  dumping : .dumping c.target c.bundle ∈ own ↔ (c.validate view).result = .ok ()
  compiled : ∀ p, .compiledPredicate p ∈ own ↔ ∃ bundle values, .resources bundle p values ∈ r.requests
  order : ∃ p, own <+: c.lines p

variable {view : View} {c : Command}

theorem prepare_cases (view : View) (c : Command) :
    (∃ e, (checkReadable view c.bundle).result = .error e ∧ (c.validate view).result = .error e ∧
      c.prepare view = ⟨[], .error e⟩) ∨
    (∃ e, (checkReadable view c.bundle).result = .ok () ∧ (c.validate view).result = .error e ∧
      c.prepare view = ⟨[.inputReadable c.bundle], .error e⟩) ∨
    ((checkReadable view c.bundle).result = .ok () ∧ (c.validate view).result = .ok () ∧
      c.prepare view =
        ⟨.inputReadable c.bundle :: .dumping c.target c.bundle :: c.request.events,
          c.request.result⟩) := by
  unfold Command.prepare Command.validate
  cases hcheck : (checkReadable view c.bundle).result with
  | error e =>
    rw [checkReadable_of_error hcheck]
    exact .inl ⟨e, rfl, rfl, rfl⟩
  | ok =>
    rw [checkReadable_of_ok hcheck]
    cases c.complaint? with
    | some complaint => exact .inr (.inl ⟨.invalidCommand complaint, rfl, rfl, rfl⟩)
    | none => exact .inr (.inr ⟨rfl, rfl, rfl⟩)

theorem request_cases (c : Command) :
    (c.target ≠ .resources ∧ ∃ request, c.request = ⟨[], .ok request⟩ ∧
      ∀ bundle p values, request ≠ .resources bundle p values) ∨
    (c.target = .resources ∧ ∃ e, c.request = ⟨[], .error e⟩) ∨
    (c.target = .resources ∧ ∃ p values,
      c.request = ⟨[.compiledPredicate p], .ok (.resources c.bundle p values)⟩) := by
  unfold Command.request
  cases htarget : c.target with
  | config => exact .inl ⟨by simp, _, rfl, by simp⟩
  | manifest => exact .inl ⟨by simp, _, rfl, by simp⟩
  | resources =>
    cases Resource.Predicate.compile c.resourceId c.resourceName with
    | error e => exact .inr (.inl ⟨rfl, e, rfl⟩)
    | ok p => exact .inr (.inr ⟨rfl, p, _, rfl⟩)

theorem requests_eq (view : View) (backend : DumpBackend) (c : Command) (sink : Sink) :
    (c.execute view backend sink).requests = (c.prepare view).result.toOption.toList := by
  cases hprepare : (c.prepare view).result with
  | error e =>
    rw [Command.execute, bind_stage_error _ _ _ _ hprepare]
    rfl
  | ok request => exact (execute_of_prepared hprepare).1

theorem execute_events (view : View) (backend : DumpBackend) (c : Command) (sink : Sink) :
    (c.execute view backend sink).events =
      (c.prepare view).events ++ emitted backend sink (c.execute view backend sink).requests := by
  rw [requests_eq]
  cases hprepare : (c.prepare view).result with
  | error e =>
    rw [Command.execute, bind_stage_error _ _ _ _ hprepare]
    simp [emitted, Except.toOption]
  | ok request =>
    rw [Command.execute, bind_stage_ok _ _ _ _ hprepare]
    -- Neither the answer of the backend nor the flush is logged.
    have hanswer : (emitted backend sink [request]) = ((backend request).play sink).events := by
      simp [emitted]
    simp only [bind_ask, Except.toOption, Option.toList_some, hanswer]
    congr 1
    cases hplayed : ((backend request).play sink).result with
    | error reason =>
      rw [bind_stage_error _ _ _ _ rfl]
      simp [Stage.ofExcept]
    | ok =>
      rw [bind_stage_ok _ _ _ _ rfl]
      simp [Stage.ofExcept, Act.flush]

theorem tells_of_no_predicate {r : Report Unit} {own : List Event}
    (horder : own <+: [.inputReadable c.bundle, .dumping c.target c.bundle])
    (hreadable : .inputReadable c.bundle ∈ own ↔ (checkReadable view c.bundle).result = .ok ())
    (hdumping : .dumping c.target c.bundle ∈ own ↔ (c.validate view).result = .ok ())
    (hnone : ∀ bundle p values, .resources bundle p values ∉ r.requests) : c.Tells view r own where
  readable := hreadable
  dumping := hdumping
  compiled := by
    intro p
    have hnot : .compiledPredicate p ∉ own := by
      intro hmem
      simpa using horder.subset hmem
    simp [hnot, hnone]
  order := ⟨.any, horder.trans (List.prefix_append _ _)⟩

theorem tells_of_requests {r : Report Unit}
    (hrequests : r.requests = (c.prepare view).result.toOption.toList) :
    c.Tells view r (c.prepare view).events := by
  rcases prepare_cases view c with
    ⟨e, hcheck, hvalidate, hprepare⟩ | ⟨e, hcheck, hvalidate, hprepare⟩ | ⟨hcheck, hvalidate, hprepare⟩
  · rw [hprepare] at hrequests ⊢
    apply tells_of_no_predicate
    · simp
    · simp [hcheck]
    · simp [hvalidate]
    · simp [hrequests, Except.toOption]
  · rw [hprepare] at hrequests ⊢
    apply tells_of_no_predicate
    · simp
    · simp [hcheck]
    · simp [hvalidate]
    · simp [hrequests, Except.toOption]
  · rcases request_cases c with
      ⟨-, request, hrequest, hother⟩ | ⟨-, e, hrequest⟩ | ⟨htarget, p, values, hrequest⟩
    all_goals rw [hprepare, hrequest] at hrequests ⊢
    · apply tells_of_no_predicate
      · simp
      · simp [hcheck]
      · simp [hvalidate]
      · intro bundle p values hmem
        rw [hrequests] at hmem
        exact hother bundle p values (List.mem_singleton.mp hmem).symm
    · apply tells_of_no_predicate
      · simp
      · simp [hcheck]
      · simp [hvalidate]
      · simp [hrequests, Except.toOption]
    · constructor
      · simp [hcheck]
      · simp [hvalidate]
      · simp [hrequests, Except.toOption]
      · exact ⟨p, by simp [Command.lines, htarget]⟩

end Dump

/-! ## Extractions -/

namespace Extract

def emitted (extractor : Extractor) (requests : List ExtractRequest) : List Event :=
  requests.flatMap fun request => (extractor request).events

def Command.lines (c : Command) (spec : DeviceSpec) (count : Nat) : List Event :=
  [.inputReadable c.archive, .inputReadable c.deviceSpec,
    .decodedSpec spec.supportedAbis spec.sdkVersion, .extracted count c.outputDirectory]

/-- The archive and the spec may be the same file. -/
structure Command.Tells (view : View) (c : Command) (r : Report) (own : List Event) : Prop where
  archive : [.inputReadable c.archive] <+: own ↔ (checkReadable view c.archive).result = .ok ()
  deviceSpec :
    [.inputReadable c.archive, .inputReadable c.deviceSpec] <+: own ↔
      (checkReadable view c.archive).result = .ok () ∧
        (checkReadable view c.deviceSpec).result = .ok ()
  decoded :
    ∀ abis version, .decodedSpec abis version ∈ own ↔
      ∃ request ∈ r.requests, abis = request.spec.supportedAbis ∧ version = request.spec.sdkVersion
  extracted :
    ∀ count directory, .extracted count directory ∈ own ↔
      directory = c.outputDirectory ∧ ∃ paths, r.result = .ok paths ∧ count = paths.length
  order : ∃ spec count, own <+: c.lines spec count

variable {view : View} {c : Command}

theorem prepare_cases (view : View) (c : Command) :
    (∃ e, (checkReadable view c.archive).result = .error e ∧ c.prepare view = ⟨[], .error e⟩) ∨
    (∃ e, (checkReadable view c.archive).result = .ok () ∧
      (checkReadable view c.deviceSpec).result = .error e ∧
      c.prepare view = ⟨[.inputReadable c.archive], .error e⟩) ∨
    ((checkReadable view c.archive).result = .ok () ∧
      (checkReadable view c.deviceSpec).result = .ok () ∧
      ∃ e, c.prepare view = ⟨[.inputReadable c.archive, .inputReadable c.deviceSpec], .error e⟩) ∨
    ((checkReadable view c.archive).result = .ok () ∧
      (checkReadable view c.deviceSpec).result = .ok () ∧
      ∃ request, c.prepare view =
        ⟨[.inputReadable c.archive, .inputReadable c.deviceSpec,
          .decodedSpec request.spec.supportedAbis request.spec.sdkVersion], .ok request⟩) := by
  unfold Command.prepare Command.validate
  cases harchive : (checkReadable view c.archive).result with
  | error e =>
    rw [checkReadable_of_error harchive]
    exact .inl ⟨e, rfl, rfl⟩
  | ok =>
    rw [checkReadable_of_ok harchive]
    cases hspec : (checkReadable view c.deviceSpec).result with
    | error e =>
      rw [checkReadable_of_error hspec]
      exact .inr (.inl ⟨e, rfl, rfl, rfl⟩)
    | ok =>
      rw [checkReadable_of_ok hspec, checkOutput_eq]
      cases (checkOutput view c.outputDirectory).result with
      | error e => exact .inr (.inr (.inl ⟨rfl, rfl, e, rfl⟩))
      | ok =>
        cases Command.readSpec view c.deviceSpec with
        | error reason => exact .inr (.inr (.inl ⟨rfl, rfl, _, rfl⟩))
        | ok spec =>
          exact .inr (.inr (.inr ⟨rfl, rfl, ⟨c.archive, spec, c.outputDirectory⟩, rfl⟩))

theorem conclude_of_error {answer : Extraction} {reason : Reason}
    (h : answer.result = .error reason) :
    c.conclude answer = ⟨[], .error (.extractionFailed reason)⟩ := by
  unfold Command.conclude
  rw [h]
  rfl

theorem conclude_of_ok {answer : Extraction} {paths : List Path} (h : answer.result = .ok paths) :
    c.conclude answer = ⟨[.extracted paths.length c.outputDirectory], .ok paths⟩ := by
  unfold Command.conclude
  rw [h]
  rfl

theorem tells_of_no_request {r : Report} {e : Error} {own : List Event}
    (horder : own <+: [.inputReadable c.archive, .inputReadable c.deviceSpec])
    (harchive : [.inputReadable c.archive] <+: own ↔ (checkReadable view c.archive).result = .ok ())
    (hspec : [.inputReadable c.archive, .inputReadable c.deviceSpec] <+: own ↔
      (checkReadable view c.archive).result = .ok () ∧
        (checkReadable view c.deviceSpec).result = .ok ())
    (hrequests : r.requests = []) (hresult : r.result = .error e) : c.Tells view r own where
  archive := harchive
  deviceSpec := hspec
  decoded := by
    intro abis version
    have hnot : .decodedSpec abis version ∉ own := by
      intro hmem
      simpa using horder.subset hmem
    simp [hnot, hrequests]
  extracted := by
    intro count directory
    have hnot : .extracted count directory ∉ own := by
      intro hmem
      simpa using horder.subset hmem
    simp [hnot, hresult]
  order := ⟨{}, 0, horder.trans (by simp [Command.lines])⟩

theorem tells_of_error {r : Report} {e : Error} (hprepare : (c.prepare view).result = .error e)
    (hrequests : r.requests = []) (hresult : r.result = .error e) :
    c.Tells view r (c.prepare view).events := by
  rcases prepare_cases view c with
    ⟨e', harchive, heq⟩ | ⟨e', harchive, hspec, heq⟩ | ⟨harchive, hspec, e', heq⟩ |
      ⟨-, -, request, heq⟩
  · rw [heq]
    exact tells_of_no_request (by simp) (by simp [harchive]) (by simp [harchive]) hrequests hresult
  · rw [heq]
    exact tells_of_no_request (by simp) (by simp [harchive]) (by simp [hspec]) hrequests hresult
  · rw [heq]
    exact tells_of_no_request (by simp) (by simp [harchive]) (by simp [harchive, hspec]) hrequests
      hresult
  · rw [heq] at hprepare
    cases hprepare

theorem tells_of_request {r : Report} {request : ExtractRequest}
    (hprepare : (c.prepare view).result = .ok request) (hrequests : r.requests = [request])
    (answer : Extraction) (hresult : r.result = (c.conclude answer).result) :
    c.Tells view r ((c.prepare view).events ++ (c.conclude answer).events) := by
  rcases prepare_cases view c with
    ⟨e', -, heq⟩ | ⟨e', -, -, heq⟩ | ⟨-, -, e', heq⟩ | ⟨harchive, hspec, request', heq⟩
  · rw [heq] at hprepare
    cases hprepare
  · rw [heq] at hprepare
    cases hprepare
  · rw [heq] at hprepare
    cases hprepare
  · rw [heq] at hprepare ⊢
    cases hprepare
    cases hanswer : answer.result with
    | error reason =>
      rw [conclude_of_error hanswer] at hresult ⊢
      constructor
      · simp [harchive]
      · simp [harchive, hspec]
      · simp [hrequests]
      · simp [hresult]
      · exact ⟨request.spec, 0, by simp [Command.lines]⟩
    | ok paths =>
      rw [conclude_of_ok hanswer] at hresult ⊢
      constructor
      · simp [harchive]
      · simp [harchive, hspec]
      · simp [hrequests]
      · intro count directory
        simp [hresult, and_comm]
      · exact ⟨request.spec, paths.length, by simp [Command.lines]⟩

end Extract

/-- A log is the beginning of the lines, as far as the run got. -/
theorem execute_log_truthful :
    (∀ view (c : Dump.Command), ∃ own, ∀ backend sink,
      (c.execute view backend sink).events =
        own ++ Dump.emitted backend sink (c.execute view backend sink).requests ∧
      c.Tells view (c.execute view backend sink) own) ∧
    (∀ view (c : Extract.Command), ∃ before, ∀ extractor, ∃ after,
      (c.execute view extractor).events =
        before ++ Extract.emitted extractor (c.execute view extractor).requests ++ after ∧
      c.Tells view (c.execute view extractor) (before ++ after)) := by
  refine ⟨?_, ?_⟩
  · intro view c
    refine ⟨(c.prepare view).events, ?_⟩
    intro backend sink
    exact ⟨Dump.execute_events view backend c sink,
      Dump.tells_of_requests (Dump.requests_eq view backend c sink)⟩
  · intro view c
    refine ⟨(c.prepare view).events, ?_⟩
    intro extractor
    cases hprepare : (c.prepare view).result with
    | error e =>
      rw [Extract.execute_of_unprepared extractor hprepare]
      refine ⟨[], by simp [Extract.emitted], ?_⟩
      rw [List.append_nil]
      exact Extract.tells_of_error hprepare rfl rfl
    | ok request =>
      refine ⟨(c.conclude (extractor request)).events, ?_, ?_⟩
      · simp [Extract.Command.execute, hprepare, Extract.emitted]
      · apply Extract.tells_of_request hprepare
        · exact (Extract.execute_of_prepared extractor hprepare).2
        · simp [Extract.Command.execute, hprepare]

end BundleInspect
