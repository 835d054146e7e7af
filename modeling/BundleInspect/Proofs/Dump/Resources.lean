import BundleInspect.Proofs.Dump.Dispatch
import BundleInspect.Proofs.Dump.Drafts
import BundleInspect.Proofs.Files.Checks

/-!
# Dumping resources

A flag for a resource is split into an ID or a name on its way into a command, and put together when
the command is executed. `run_resources`: the backend is asked for the predicate that the flag gives
by itself.
-/

namespace BundleInspect.Dump

open Log Files Resource

variable {args : DumpArgs} {target : Target}

/-! ## The parts of a flag -/

theorem resourceIdOf_isSome_iff (raw : String) :
    (resourceIdOf raw).isSome = true ↔ resourceNameOf raw = none := by
  unfold resourceIdOf resourceNameOf
  cases Selector.parse raw <;> simp

theorem not_idAndName_described :
    ¬ ((described args target).resourceId.isSome = true ∧
      (described args target).resourceName.isSome = true) := by
  simp only [described]
  cases args.resource with
  | none => simp
  | some raw =>
    rw [Option.bind_some, Option.bind_some, resourceIdOf_isSome_iff]
    cases resourceNameOf raw <;> simp

theorem idOrName_described_iff :
    (described args target).resourceId.isSome = true ∨
      (described args target).resourceName.isSome = true ↔ args.resource ≠ none := by
  simp only [described]
  cases args.resource with
  | none => simp
  | some raw =>
    rw [Option.bind_some, Option.bind_some, resourceIdOf_isSome_iff]
    cases resourceNameOf raw <;> simp

theorem complaint?_of_validate {view : View} {c : Command} {complaint : Complaint}
    (h : (c.validate view).result = .error (.invalidCommand complaint)) :
    c.complaint? = some complaint := by
  simp only [Command.validate, Stage.result_bind] at h
  cases hcheck : (checkReadable view c.bundle).result with
  | error e =>
    rw [hcheck] at h
    cases h
    cases checkReadable_eq_error_iff.mp hcheck
  | ok =>
    rw [hcheck] at h
    cases hcomplaint : c.complaint? with
    | none =>
      rw [hcomplaint] at h
      cases h
    | some complaint' =>
      rw [hcomplaint] at h
      cases h
      rfl

/-! ## Commands for resources -/

theorem complaint?_resources (hxpath : args.xpath = none) :
    (described args .resources).complaint? = none := by
  have hpick := @not_idAndName_described args .resources
  rw [← Bool.and_eq_true] at hpick
  rw [Command.complaint?, if_neg hpick]
  simp [described, hxpath]

section
variable {view : View} {item : Item}

theorem prepare_resources (hxpath : args.xpath = none) (hview : view args.bundle = some item)
    (hitem : Item.isReadable item = true) :
    ((described args .resources).prepare view).result =
      (Predicate.ofFlag args.resource).map fun predicate =>
        .resources args.bundle predicate (args.values.getD false) := by
  have hvalid : ((described args .resources).validate view).result = .ok () := by
    rw [validate_of_readable hview hitem, complaint?_resources hxpath]
  rw [prepare_result, hvalid, ← request_resources]
  rfl

theorem requests_resources (backend : DumpBackend) (sink : Sink)
    (htarget : args.target = some "resources") (hxpath : args.xpath = none)
    (hview : view args.bundle = some item) (hitem : Item.isReadable item = true) {p : Predicate}
    (hflag : Predicate.ofFlag args.resource = .ok p) :
    (run view backend args sink).requests =
      [.resources args.bundle p (args.values.getD false)] := by
  have hprepare := prepare_resources hxpath hview hitem
  rw [hflag] at hprepare
  rw [run, bind_stage_ok _ _ _ _ (ofArgs_result .resources htarget)]
  exact (execute_of_prepared hprepare).1

/-- The backend is asked for exactly the predicate that the flag gives. -/
theorem run_resources (view : View) (backend : DumpBackend) (args : DumpArgs) (sink : Sink)
    (item : Item) (htarget : args.target = some "resources") (hxpath : args.xpath = none)
    (hview : view args.bundle = some item) (hitem : Item.isReadable item = true) :
    (∀ p, Predicate.ofFlag args.resource = .ok p →
      (run view backend args sink).requests =
        [.resources args.bundle p (args.values.getD false)]) ∧
    (∀ e, Predicate.ofFlag args.resource = .error e →
      (run view backend args sink).result = .error e ∧
        (run view backend args sink).requests = [] ∧ (run view backend args sink).sink = sink) ∧
    (args.resource = none →
      Predicate.ofFlag args.resource = .ok .any ∧
        (run view backend args sink).requests =
          [.resources args.bundle .any (args.values.getD false)]) := by
  have hrequests (p : Predicate) (hflag : Predicate.ofFlag args.resource = .ok p) :=
    requests_resources backend sink htarget hxpath hview hitem hflag
  refine ⟨hrequests, ?_, ?_⟩
  · intro e hflag
    have hprepare := prepare_resources hxpath hview hitem
    rw [hflag] at hprepare
    exact run_of_unprepared .resources e htarget hprepare
  · intro hnone
    have hflag : Predicate.ofFlag args.resource = .ok .any := by
      rw [hnone]
      rfl
    exact ⟨hflag, hrequests .any hflag⟩

/-- An ID is cut to 32 bits; a name has one slash. -/
theorem run_resources_readable :
    let view : View := fun _ => some .directory
    let dump (raw : String) := run view Backends.unlinked.dump
      ⟨some "resources", Bytes.ofText "b", none, some raw, some true⟩ {}
    (dump "0xffffffff").requests = [.resources (Bytes.ofText "b") (.id (-1)) true] ∧
      (dump "string/app/name").result = .error (.invalidResourceName "string/app/name") ∧
      (dump "string/app/name").requests = [] := by
  intro view dump
  have hdump (raw : String) := run_resources view Backends.unlinked.dump
    ⟨some "resources", Bytes.ofText "b", none, some raw, some true⟩ {} .directory rfl rfl rfl rfl
  have hid : Predicate.ofFlag (some "0xffffffff") = .ok (.id (-1)) := by rfl
  have hname : Predicate.ofFlag (some "string/app/name") =
      .error (.invalidResourceName "string/app/name") := by rfl
  obtain ⟨hresult, hrequests, -⟩ := (hdump "string/app/name").2.1 _ hname
  exact ⟨(hdump "0xffffffff").1 _ hid, hresult, hrequests⟩

end

end BundleInspect.Dump
