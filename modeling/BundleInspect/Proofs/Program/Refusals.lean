import BundleInspect.Proofs.Dump.Dispatch
import BundleInspect.Proofs.Extract.Dispatch

/-!
# Refusals do not depend on the backends

A command either never asks a backend, and then its run is the same whatever the backends are, or
asks one once. `run_refusal_independent`: two pairs of backends refuse the same commands in the same
way, and a build without backends fails on exactly those that any other pair would be asked for.
-/

namespace BundleInspect

open Log

theorem Sink.written_empty : ({} : Sink).written = "" := by
  simp [written, bytes, Bytes.display, Bytes.heads]

/-! ## Dumps -/

namespace Dump

/-- Every backend is refused in the same way, or asked for the same thing. -/
theorem run_cases (view : View) (args : DumpArgs) (sink : Sink) :
    (∃ e events, ∀ backend, run view backend args sink = ⟨.error e, events, [], sink⟩) ∨
    ∃ (target : Target) (request : DumpRequest), args.target = some target.name ∧
      ∀ backend, (run view backend args sink).requests = [request] ∧
        (run view backend args sink).result =
          match ((backend request).play sink).result with
          | .error reason => .error (.dumpFailed target.name reason)
          | .ok () => ((backend request).play sink).sink.flush.2.mapError .io := by
  cases hargs : (Command.ofArgs args).result with
  | error e => exact .inl ⟨e, _, fun backend => bind_stage_error _ _ _ _ hargs⟩
  | ok c =>
    cases hprepare : (c.prepare view).result with
    | error e =>
      refine .inl ⟨e, (Command.ofArgs args).events ++ (c.prepare view).events, fun backend => ?_⟩
      rw [run, bind_stage_ok _ _ _ _ hargs, Command.execute, bind_stage_error _ _ _ _ hprepare]
    | ok request =>
      obtain ⟨target, htarget, rfl⟩ := described_of_ofArgs hargs
      refine .inr ⟨target, request, htarget, fun backend => ?_⟩
      rw [run, bind_stage_ok _ _ _ _ hargs]
      exact execute_of_prepared hprepare

end Dump

/-! ## Commands -/

/-- A run that failed before a backend was asked. -/
def RunReport.Refused (r : RunReport) : Prop :=
  r.requests = [] ∧ ∃ e, r.result = .error e

inductive Command.Unserved : Command → Error → Prop where
  | dump (args : DumpArgs) (target : Dump.Target) :
    args.target = some target.name →
      Unserved (.dump args) (.dumpFailed target.name (.unavailable .dump))
  | extract (args : ExtractArgs) :
    Unserved (.extract args) (.extractionFailed (.unavailable .extraction))

/-- The run asks no backend and is the same for all. -/
structure Command.Settled (view : View) (script : Shell → String) (c : Command) (r : RunReport) :
    Prop where
  run : ∀ backends, c.run view backends script = r
  requests : r.requests = []
  output : ∀ e, r.result = .error e → r.output = ""
  failure : ∀ e, r.result = .error e → ¬ c.Unserved e

/-- One of the backends is asked once, whatever they are. -/
structure Command.Served (view : View) (script : Shell → String) (c : Command) : Prop where
  once : ∀ backends, (c.run view backends script).requests.length = 1
  failure : ∀ backends e, (c.run view backends script).result = .error e → e.kind = .execution
  unlinked : ∃ e, (c.run view .unlinked script).result = .error e ∧ c.Unserved e

theorem Command.dump_cases (view : View) (script : Shell → String) (args : DumpArgs) :
    (∃ r, Settled view script (.dump args) r) ∨ Served view script (.dump args) := by
  rcases Dump.run_cases view args {} with ⟨e, events, hrun⟩ | ⟨target, request, htarget, hrun⟩
  · refine .inl ⟨⟨.error e, "", events, []⟩, fun backends => ?_, rfl, fun _ _ => rfl, ?_⟩
    · rw [Command.run, hrun, Dump.Report.toRun, Sink.written_empty]
      rfl
    · rintro e' he hunserved
      cases he
      have hkind := Dump.kind_iff_of_error e
        (congrArg Dump.Report.result (hrun Backends.unlinked.dump))
      rw [hrun Backends.unlinked.dump] at hkind
      cases hunserved
      cases hkind.mpr rfl
  · right
    constructor
    case once =>
      intro backends
      simp [Command.run, Dump.Report.toRun, (hrun backends.dump).1]
    case failure =>
      intro backends e h
      rw [Command.run, Dump.Report.toRun, (hrun backends.dump).2] at h
      dsimp only at h
      split at h
      · cases h
        rfl
      · cases hflush : ((backends.dump request).play {}).sink.flush.2 with
        | ok => rw [hflush] at h; cases h
        | error message => rw [hflush] at h; cases h; rfl
    case unlinked =>
      refine ⟨.dumpFailed target.name (.unavailable .dump), ?_, .dump args target htarget⟩
      rw [Command.run, Dump.Report.toRun, (hrun Backends.unlinked.dump).2]
      rfl

theorem Command.extract_cases (view : View) (script : Shell → String) (args : ExtractArgs) :
    (∃ r, Settled view script (.extract args) r) ∨ Served view script (.extract args) := by
  cases hprepare : ((Extract.Command.ofArgs args).prepare view).result with
  | error e =>
    refine .inl ⟨⟨.error e, "", ((Extract.Command.ofArgs args).prepare view).events, []⟩,
      fun backends => ?_, rfl, fun _ _ => rfl, ?_⟩
    · rw [Command.run, Extract.execute_of_unprepared backends.extract hprepare]
      rfl
    · rintro e' he hunserved
      cases he
      cases hunserved
      exact Extract.prepare_ne_extractionFailed _ hprepare
  | ok request =>
    right
    have hrun (backends : Backends) :=
      Extract.execute_of_prepared backends.extract hprepare
    constructor
    case once =>
      intro backends
      rw [Command.run, Extract.Report.toRun, (hrun backends).1, (hrun backends).2]
      cases (backends.extract request).result <;> rfl
    case failure =>
      intro backends e h
      rw [Command.run, Extract.result_toRun, (hrun backends).1] at h
      cases hresult : (backends.extract request).result with
      | ok => rw [hresult] at h; cases h
      | error reason => rw [hresult] at h; cases h; rfl
    case unlinked =>
      refine ⟨.extractionFailed (.unavailable .extraction), ?_, .extract args⟩
      rw [Command.run, Extract.result_toRun, (hrun .unlinked).1]
      rfl

theorem Command.run_cases (view : View) (script : Shell → String) (c : Command) :
    (∃ r, c.Settled view script r) ∨ c.Served view script := by
  cases c with
  | dump args => exact dump_cases view script args
  | extract args => exact extract_cases view script args
  | version => exact .inl ⟨_, fun _ => rfl, rfl, fun e h => (by cases h), fun _ _ h => by cases h⟩
  | completions name =>
    cases hshell : Shell.ofName name with
    | ok shell =>
      refine .inl ⟨.quiet (.ok ()) (script shell), fun backends => ?_, rfl,
        fun _ h => (by cases h), fun _ _ h => by cases h⟩
      simp only [Command.run, hshell]
    | error e =>
      refine .inl ⟨.quiet (.error e) "", fun backends => ?_, rfl, fun _ _ => rfl,
        fun _ _ h => by cases h⟩
      simp only [Command.run, hshell]

/-- A build without backends fails on exactly the commands that ask one. -/
theorem run_refusal_independent (view : View) (script : Shell → String) (c : Command) :
    (∀ backends backends',
      ((c.run view backends script).Refused ↔ (c.run view backends' script).Refused) ∧
      ((c.run view backends script).Refused →
        c.run view backends' script = c.run view backends script ∧
          (c.run view backends script).output = "")) ∧
    (∀ backends, (∃ e, (c.run view .unlinked script).result = .error e ∧ c.Unserved e) ↔
      (c.run view backends script).requests.length = 1) ∧
    (∀ backends e, (c.run view backends script).result = .error e → e.kind = .invalidInput →
      (c.run view backends script).requests = [] ∧ (c.run view backends script).output = "") := by
  rcases c.run_cases view script with ⟨r, hsettled⟩ | hserved
  case inl =>
    refine ⟨fun backends backends' => ?_, fun backends => ?_, fun backends e herror _ => ?_⟩
    · rw [hsettled.run, hsettled.run]
      exact ⟨Iff.rfl, fun ⟨_, e, herror⟩ => ⟨rfl, hsettled.output e herror⟩⟩
    · rw [hsettled.run, hsettled.run, hsettled.requests]
      refine iff_of_false ?_ (by decide)
      rintro ⟨e, herror, hunserved⟩
      exact hsettled.failure e herror hunserved
    · rw [hsettled.run] at herror ⊢
      exact ⟨hsettled.requests, hsettled.output e herror⟩
  case inr =>
    have hasked (backends : Backends) : ¬ (c.run view backends script).Refused := by
      rintro ⟨hnone, -⟩
      have honce := hserved.once backends
      rw [hnone] at honce
      cases honce
    refine ⟨fun backends backends' => ?_, fun backends => ?_, fun backends e herror hkind => ?_⟩
    · exact ⟨iff_of_false (hasked backends) (hasked backends'), fun h => absurd h (hasked backends)⟩
    · exact iff_of_true hserved.unlinked (hserved.once backends)
    · rw [hserved.failure backends e herror] at hkind
      cases hkind

end BundleInspect
