import BundleInspect.Dump.Run
import BundleInspect.Proofs.Steps

/-!
# When the backend is asked

A dump passes five steps, each of which may fail. `run_first_failure`: the run ends with the error
of the first step that fails, the backend is asked once if the steps before it pass and never
otherwise, and a run that did not ask it leaves the sink alone.
-/

namespace BundleInspect.Dump

open Log

/-! ## Acts after a stage -/

theorem bind_stage_ok {α β : Type} (s : Stage α) (next : α → Act β) (sink : Sink) (a : α)
    (h : s.result = .ok a) :
    (Act.stage s >>= next) sink =
      { next a sink with events := s.events ++ (next a sink).events } := by
  show (Act.stage s).andThen next sink = _
  simp [Act.andThen, Act.stage, h]

theorem bind_stage_error {α β : Type} (s : Stage α) (next : α → Act β) (sink : Sink) (e : Error)
    (h : s.result = .error e) :
    (Act.stage s >>= next) sink = ⟨.error e, s.events, [], sink⟩ := by
  show (Act.stage s).andThen next sink = _
  simp [Act.andThen, Act.stage, h]

theorem bind_ask {β : Type} (backend : DumpBackend) (request : DumpRequest)
    (next : Except Reason Unit → Act β) (sink : Sink) :
    (Act.ask backend request >>= next) sink =
      let played := (backend request).play sink
      let after := next played.result played.sink
      ⟨after.result, played.events ++ after.events, request :: after.requests, after.sink⟩ :=
  rfl

/-! ## What arguments ask for -/

def resourceIdOf (raw : String) : Option Int32 :=
  match Resource.Selector.parse raw with
  | .id value => some value
  | .name _ => none

def resourceNameOf (raw : String) : Option String :=
  match Resource.Selector.parse raw with
  | .id _ => none
  | .name name => some name

/-- The command that arguments describe, once the target is known. -/
def described (args : DumpArgs) (target : Target) : Command where
  bundle := args.bundle
  target := target
  xpath := args.xpath
  resourceId := args.resource.bind resourceIdOf
  resourceName := args.resource.bind resourceNameOf
  printValues := args.values

inductive Asks (args : DumpArgs) : Target → DumpRequest → Prop where
  | config : args.target = some "config" → Asks args .config (.config args.bundle)
  | manifest :
    args.target = some "manifest" → Asks args .manifest (.manifest args.bundle args.xpath)
  | resources (predicate : Resource.Predicate) :
    args.target = some "resources" → Resource.Predicate.ofFlag args.resource = .ok predicate →
      Asks args .resources (.resources args.bundle predicate (args.values.getD false))

/-! ## Steps and their failures -/

/-- What a dump goes through, in this order. -/
inductive Step where
  | target
  | rules
  | predicate
  | backend
  | flush

def Step.rank : Step → Nat
  | .target => 0
  | .rules => 1
  | .predicate => 2
  | .backend => 3
  | .flush => 4

/-- A step fails whatever becomes of the steps before it. -/
inductive Fails (view : View) (backend : DumpBackend) (args : DumpArgs) (sink : Sink) :
    Step → Error → Prop where
  | noTarget : args.target = none → Fails view backend args sink .target .missingDumpTarget
  | unknownTarget (given : String) :
    args.target = some given → given ∉ Target.names →
      Fails view backend args sink .target (.unknownDumpTarget given Target.names)
  | rules (target : Target) (e : Error) :
    args.target = some target.name → ((described args target).validate view).result = .error e →
      Fails view backend args sink .rules e
  | badName (raw : String) :
    args.target = some "resources" → args.resource = some raw →
      Resource.Predicate.ofFlag (some raw) = .error (.invalidResourceName raw) →
      Fails view backend args sink .predicate (.invalidResourceName raw)
  | backend (target : Target) (request : DumpRequest) (reason : Reason) :
    Asks args target request → ((backend request).play sink).result = .error reason →
      Fails view backend args sink .backend (.dumpFailed target.name reason)
  | flush (target : Target) (request : DumpRequest) (message : String) :
    Asks args target request → ((backend request).play sink).sink.flush.2 = .error message →
      Fails view backend args sink .flush (.io message)

def FirstFails (view : View) (backend : DumpBackend) (args : DumpArgs) (sink : Sink) (step : Step)
    (e : Error) : Prop :=
  Fails view backend args sink step e ∧
    ∀ earlier e', earlier.rank < step.rank → ¬ Fails view backend args sink earlier e'

variable {view : View} {backend : DumpBackend} {args : DumpArgs} {sink : Sink}

/-! ## The stages of a dump -/

theorem resolve_of_fails (e : Error) (h : Fails view backend args sink .target e) :
    Target.resolve args.target = .error e := by
  rw [Target.resolve_eq_error_iff]
  cases h with
  | noTarget h => exact .inl ⟨h, rfl⟩
  | unknownTarget given h hnames => exact .inr ⟨given, h, hnames, rfl⟩

theorem target_of_not_fails (h : ∀ e, ¬ Fails view backend args sink .target e) :
    ∃ target : Target, args.target = some target.name := by
  cases hgiven : args.target with
  | none => exact absurd (.noTarget hgiven) (h _)
  | some given =>
    by_cases hnames : given ∈ Target.names
    · obtain ⟨target, -, rfl⟩ := List.mem_map.mp hnames
      exact ⟨target, rfl⟩
    · exact absurd (.unknownTarget given hgiven hnames) (h _)

theorem build_settings (target : Target) :
    (Draft.ofSettings (Command.settings args target)).build = .ok (described args target) := by
  obtain ⟨given, bundle, xpath, resource, values⟩ := args
  cases resource with
  | none => cases xpath <;> cases values <;> rfl
  | some raw =>
    simp only [described, Option.bind_some, resourceIdOf, resourceNameOf]
    cases hraw : Resource.Selector.parse raw <;> cases xpath <;> cases values <;>
      simp [Command.settings, Draft.ofSettings, Draft.set, Draft.build, hraw]

theorem ofArgs_result_eq :
    (Command.ofArgs args).result = (Target.resolve args.target).map (described args) := by
  simp only [Command.ofArgs, Stage.result_bind, Stage.result_ofExcept, Stage.result_log,
    build_settings]
  cases Target.resolve args.target <;> rfl

theorem ofArgs_result (target : Target) (h : args.target = some target.name) :
    (Command.ofArgs args).result = .ok (described args target) := by
  rw [ofArgs_result_eq, Target.resolve_eq_ok_iff.mpr h]
  rfl

theorem ofArgs_eq_error_iff {e : Error} :
    (Command.ofArgs args).result = .error e ↔ Target.resolve args.target = .error e := by
  rw [ofArgs_result_eq]
  cases Target.resolve args.target <;> simp [Except.map]

theorem described_of_ofArgs {c : Command} (h : (Command.ofArgs args).result = .ok c) :
    ∃ target : Target, args.target = some target.name ∧ c = described args target := by
  rw [ofArgs_result_eq] at h
  cases hresolve : Target.resolve args.target with
  | error e =>
    rw [hresolve] at h
    cases h
  | ok target =>
    rw [hresolve] at h
    cases h
    exact ⟨target, Target.resolve_eq_ok_iff.mp hresolve, rfl⟩

theorem compile_described (target : Target) :
    Resource.Predicate.compile (described args target).resourceId
      (described args target).resourceName = Resource.Predicate.ofFlag args.resource := by
  cases hraw : args.resource with
  | none => simp [described, hraw, Resource.Predicate.compile, Resource.Predicate.ofFlag]
  | some raw =>
    cases hparse : Resource.Selector.parse raw <;>
      simp [described, hraw, resourceIdOf, resourceNameOf, hparse, Resource.Predicate.compile,
        Resource.Predicate.ofFlag]

theorem request_resources :
    (described args .resources).request.result =
      (Resource.Predicate.ofFlag args.resource).map fun predicate =>
        .resources args.bundle predicate (args.values.getD false) := by
  rw [← compile_described .resources]
  simp only [Command.request, described, Stage.result_bind, Stage.result_ofExcept]
  cases Resource.Predicate.compile _ _ <;> rfl

theorem request_of_asks (target : Target) (request : DumpRequest) (h : Asks args target request) :
    (described args target).request.result = .ok request := by
  cases h with
  | config => rfl
  | manifest => rfl
  | resources predicate _ hflag => rw [request_resources, hflag]; rfl

theorem validate_error_kind (c : Command) (e : Error) (h : (c.validate view).result = .error e) :
    e.kind = .invalidInput := by
  simp only [Command.validate, Stage.result_bind, Files.checkReadable] at h
  split at h
  · cases h; rfl
  · split at h
    · simp only [Stage.result_log, Except.bind] at h
      split at h <;> cases h
      rfl
    · cases h; rfl

theorem kind_of_fails (step : Step) (e : Error) (h : Fails view backend args sink step e) :
    e.kind = .invalidInput ↔ step.rank < Step.backend.rank := by
  cases h with
  | rules target e _ h => simp [validate_error_kind _ _ h, Step.rank]
  | noTarget | unknownTarget | badName | backend | flush => simp [Error.kind, Step.rank]

/-! ## Runs -/

/-- No step up to the predicate fails. -/
def Ready (view : View) (backend : DumpBackend) (args : DumpArgs) (sink : Sink) : Prop :=
  ∀ step e, step.rank < Step.backend.rank → ¬ Fails view backend args sink step e

theorem prepare_result (c : Command) :
    (c.prepare view).result = (c.validate view).result.bind fun _ => c.request.result := by
  simp only [Command.prepare, Stage.result_bind, Stage.result_log]
  rfl

theorem run_of_unprepared (target : Target) (e : Error) (h : args.target = some target.name)
    (hprepare : ((described args target).prepare view).result = .error e) :
    (run view backend args sink).result = .error e ∧ (run view backend args sink).requests = [] ∧
      (run view backend args sink).sink = sink := by
  rw [run, bind_stage_ok _ _ _ _ (ofArgs_result target h), Command.execute,
    bind_stage_error _ _ _ _ hprepare]
  exact ⟨rfl, rfl, rfl⟩

theorem run_of_refused (step : Step) (e : Error) (h : FirstFails view backend args sink step e)
    (hstep : step.rank < Step.backend.rank) :
    (run view backend args sink).result = .error e ∧ (run view backend args sink).requests = [] ∧
      (run view backend args sink).sink = sink := by
  obtain ⟨hfails, hfirst⟩ := h
  cases step with
  | target =>
    have hargs : (Command.ofArgs args).result = .error e :=
      ofArgs_eq_error_iff.mpr (resolve_of_fails e hfails)
    rw [run, bind_stage_error _ _ _ _ hargs]
    exact ⟨rfl, rfl, rfl⟩
  | rules =>
    cases hfails with
    | rules target _ htarget hvalidate =>
      refine run_of_unprepared target e htarget ?_
      rw [prepare_result, hvalidate]
      rfl
  | predicate =>
    cases hfails with
    | badName raw htarget hraw hflag =>
      refine run_of_unprepared .resources _ htarget ?_
      rw [prepare_result, request_resources, hraw, hflag]
      cases hvalidate : ((described args .resources).validate view).result with
      | ok => rfl
      | error e =>
        exact absurd (.rules .resources e htarget hvalidate) (hfirst .rules e (by decide))
  | backend | flush => exact absurd hstep (by decide)

theorem execute_of_prepared {c : Command} {request : DumpRequest}
    (h : (c.prepare view).result = .ok request) :
    (c.execute view backend sink).requests = [request] ∧
      (c.execute view backend sink).result =
        match ((backend request).play sink).result with
        | .error reason => .error (.dumpFailed c.target.name reason)
        | .ok () => ((backend request).play sink).sink.flush.2.mapError .io := by
  rw [Command.execute, bind_stage_ok _ _ _ _ h]
  simp only [bind_ask]
  cases hplayed : ((backend request).play sink).result with
  | error reason =>
    rw [bind_stage_error _ _ _ _ rfl]
    exact ⟨rfl, rfl⟩
  | ok =>
    rw [bind_stage_ok _ _ _ _ rfl]
    exact ⟨rfl, rfl⟩

theorem asks_of_ready (h : Ready view backend args sink) :
    ∃ target request, Asks args target request := by
  obtain ⟨target, htarget⟩ := target_of_not_fails (h .target · (by decide))
  cases target with
  | config => exact ⟨_, _, .config htarget⟩
  | manifest => exact ⟨_, _, .manifest htarget⟩
  | resources =>
    cases hflag : Resource.Predicate.ofFlag args.resource with
    | ok predicate => exact ⟨_, _, .resources predicate htarget hflag⟩
    | error e =>
      obtain ⟨raw, hraw, rfl⟩ := Resource.Predicate.ofFlag_eq_error hflag
      rw [hraw] at hflag
      exact absurd (.badName raw htarget hraw hflag) (h .predicate _ (by decide))

theorem target_of_asks (target : Target) (request : DumpRequest) (h : Asks args target request) :
    args.target = some target.name := by
  cases h <;> assumption

theorem run_of_ready (target : Target) (request : DumpRequest) (h : Ready view backend args sink)
    (hasks : Asks args target request) :
    (run view backend args sink).requests = [request] ∧
      (run view backend args sink).result =
        match ((backend request).play sink).result with
        | .error reason => .error (.dumpFailed target.name reason)
        | .ok () => ((backend request).play sink).sink.flush.2.mapError .io := by
  have htarget := target_of_asks target request hasks
  have hprepare : ((described args target).prepare view).result = .ok request := by
    rw [prepare_result, request_of_asks target request hasks]
    cases hvalidate : ((described args target).validate view).result with
    | ok => rfl
    | error e => exact absurd (.rules target e htarget hvalidate) (h .rules e (by decide))
  rw [run, bind_stage_ok _ _ _ _ (ofArgs_result target htarget)]
  exact execute_of_prepared hprepare

theorem result_of_firstFails (step : Step) (e : Error)
    (h : FirstFails view backend args sink step e) :
    (run view backend args sink).result = .error e := by
  by_cases hstep : step.rank < Step.backend.rank
  · exact (run_of_refused step e h hstep).1
  obtain ⟨hfails, hfirst⟩ := h
  have hready : Ready view backend args sink := fun earlier e' hlt =>
    hfirst earlier e' (by omega)
  cases hfails with
  | backend target request reason hasks hplayed =>
    rw [(run_of_ready target request hready hasks).2, hplayed]
  | flush target request message hasks hflush =>
    rw [(run_of_ready target request hready hasks).2]
    cases hplayed : ((backend request).play sink).result with
    | error reason =>
      exact absurd (.backend target request reason hasks hplayed) (hfirst .backend _ (by decide))
    | ok =>
      rw [hflush]
      rfl
  | noTarget | unknownTarget | rules | badName => exact absurd (by decide) hstep

theorem result_of_not_fails (h : ∀ step e, ¬ Fails view backend args sink step e) :
    (run view backend args sink).result = .ok () := by
  have hready : Ready view backend args sink := fun step e _ => h step e
  obtain ⟨target, request, hasks⟩ := asks_of_ready hready
  rw [(run_of_ready target request hready hasks).2]
  cases hplayed : ((backend request).play sink).result with
  | error reason => exact absurd (.backend target request reason hasks hplayed) (h _ _)
  | ok =>
    cases hflush : ((backend request).play sink).sink.flush.2 with
    | error message => exact absurd (.flush target request message hasks hflush) (h _ _)
    | ok => rfl

theorem run_of_not_ready (h : ¬ Ready view backend args sink) :
    (run view backend args sink).requests = [] ∧ (run view backend args sink).sink = sink := by
  simp only [Ready, not_forall, not_not] at h
  obtain ⟨step, e, hlt, hfails⟩ := h
  obtain ⟨first, e', hfirst, hle⟩ := exists_first Step.rank hfails
  exact (run_of_refused first e' hfirst (by omega)).2

theorem requests_eq_nil_iff :
    (run view backend args sink).requests = [] ↔ ¬ Ready view backend args sink := by
  refine ⟨?_, fun h => (run_of_not_ready h).1⟩
  intro hnone hready
  obtain ⟨target, request, hasks⟩ := asks_of_ready hready
  rw [(run_of_ready target request hready hasks).1] at hnone
  exact List.cons_ne_nil _ _ hnone

theorem ready_iff_of_firstFails (step : Step) (e : Error)
    (h : FirstFails view backend args sink step e) :
    Ready view backend args sink ↔ Step.backend.rank ≤ step.rank := by
  constructor
  · intro hready
    exact Nat.le_of_not_lt fun hlt => hready step e hlt h.1
  · intro hle earlier e' hlt
    exact h.2 earlier e' (by omega)

theorem result_eq_error_iff (e : Error) :
    (run view backend args sink).result = .error e ↔
      ∃ step, FirstFails view backend args sink step e :=
  eq_error_iff_first result_of_firstFails (fun h => ⟨(), result_of_not_fails h⟩) e

theorem kind_iff_of_error (e : Error) (h : (run view backend args sink).result = .error e) :
    e.kind = .invalidInput ↔ (run view backend args sink).requests = [] := by
  obtain ⟨step, hfirst⟩ := (result_eq_error_iff e).mp h
  rw [kind_of_fails step e hfirst.1, requests_eq_nil_iff, ready_iff_of_firstFails step e hfirst]
  omega

/-- A run ends with the error of the first step that fails. -/
theorem run_first_failure (view : View) (backend : DumpBackend) (args : DumpArgs) (sink : Sink) :
    (∀ e, (run view backend args sink).result = .error e ↔
      ∃ step, FirstFails view backend args sink step e) ∧
    ((run view backend args sink).result = .ok () ↔
      ∀ step e, ¬ Fails view backend args sink step e) ∧
    (Ready view backend args sink → ∃ target request, Asks args target request ∧
      (run view backend args sink).requests = [request]) ∧
    (¬ Ready view backend args sink → (run view backend args sink).requests = [] ∧
      (run view backend args sink).sink = sink) ∧
    (∀ e, (run view backend args sink).result = .error e →
      (e.kind = .invalidInput ↔ (run view backend args sink).requests = [])) := by
  refine ⟨result_eq_error_iff, ⟨not_fails_of_ok result_of_firstFails, result_of_not_fails⟩, ?_,
    run_of_not_ready, kind_iff_of_error⟩
  intro hready
  obtain ⟨target, request, hasks⟩ := asks_of_ready hready
  exact ⟨target, request, hasks, (run_of_ready target request hready hasks).1⟩

end BundleInspect.Dump
