import BundleInspect.Proofs.CommandLine.Accounts
import BundleInspect.Proofs.Dump.Resources

/-!
# Command lines that ask for a dump

What a command line can say about a dump leaves out nothing that a command needs but the target, and
sets nothing that contradicts itself. `ofArgs_consistent`: only the target can keep a command from
being made, and a command that is made has a bundle and never both an ID and a name.
-/

namespace BundleInspect.CommandLine

/-- Why no dump command is made of what occurs after its name. -/
inductive Unmade (os : List Occurrence) : Error → Prop where
  | noTarget : (∀ w, .piece (.word w) ∉ os) → Unmade os .missingDumpTarget
  | unknownTarget (given : String) :
    .piece (.word (Bytes.ofText given)) ∈ os → given ∉ Dump.Target.names →
      Unmade os (.unknownDumpTarget given Dump.Target.names)

/-- A dump command that can be made of what occurs. -/
structure Consistent (os : List Occurrence) (c : Dump.Command) : Prop where
  bundle : c.bundle ≠ []
  notBoth : ¬ (c.resourceId.isSome = true ∧ c.resourceName.isSome = true)
  either : c.resourceId.isSome = true ∨ c.resourceName.isSome = true ↔
    ∃ value, .piece (.setting .resource value) ∈ os
  valid : ∀ view, (c.validate view).result ≠ .error (.invalidCommand .idAndName)

theorem command_eq_dump {g : Given} {c : CommandName} {args : DumpArgs}
    (h : g.command c = .ok (.dump args)) :
    c = .dumpSdkBundle ∧ g.bundle = some args.bundle ∧ g.word = args.target ∧
      g.resource = args.resource := by
  unfold Given.command at h
  cases c with
  | dumpSdkBundle =>
    dsimp only at h
    split at h
    · next bundle hbundle =>
      cases h
      exact ⟨rfl, hbundle, rfl, rfl⟩
    · cases h
  | extractApk | completions =>
    dsimp only at h
    split at h <;> cases h
  | version => cases h

section
variable {os : List Occurrence} {g : Given} {args : DumpArgs}

theorem unmade_iff (hgathers : ({} : Given).Gathers os g) (hword : g.word = args.target)
    (e : Error) : (Dump.Command.ofArgs args).result = .error e ↔ Unmade os e := by
  have hmem (w : Word) : .piece (.word w) ∈ os ↔ args.target.map Bytes.ofText = some w := by
    rw [hgathers.mem_iff, ← hword]
    rfl
  rw [Dump.ofArgs_eq_error_iff, Dump.Target.resolve_eq_error_iff]
  constructor
  · rintro (⟨hnone, rfl⟩ | ⟨given, hgiven, hnames, rfl⟩)
    · exact .noTarget fun w => by simp [hmem, hnone]
    · exact .unknownTarget given (by simp [hmem, hgiven]) hnames
  · intro h
    cases h with
    | noTarget hnone =>
      refine .inl ⟨?_, rfl⟩
      cases htarget : args.target with
      | none => rfl
      | some given => exact absurd ((hmem (Bytes.ofText given)).mpr (by rw [htarget]; rfl)) (hnone _)
    | unknownTarget given hgiven hnames =>
      refine .inr ⟨given, ?_, hnames, rfl⟩
      rw [hmem, Option.map_eq_some_iff] at hgiven
      obtain ⟨given', hgiven', hbytes⟩ := hgiven
      rw [hgiven', Bytes.ofText_inj.mp hbytes]

theorem consistent_of_ofArgs {c : Dump.Command} (hgathers : ({} : Given).Gathers os g)
    (hbundle : g.bundle = some args.bundle) (hresource : g.resource = args.resource)
    (h : (Dump.Command.ofArgs args).result = .ok c) : Consistent os c := by
  obtain ⟨target, -, rfl⟩ := Dump.described_of_ofArgs h
  constructor
  case bundle =>
    have hoccurs : .piece (.setting .bundle args.bundle) ∈ os := (hgathers.mem_iff _).mpr hbundle
    exact hgathers.fits _ hoccurs
  case notBoth => exact Dump.not_idAndName_described
  case either =>
    rw [Dump.idOrName_described_iff, ← hresource]
    simp only [hgathers.mem_iff, Given.Holds, Given.content]
    cases g.resource <;> simp
  case valid =>
    intro view hinvalid
    have hboth := Dump.complaint?_eq_idAndName_iff.mp (Dump.complaint?_of_validate hinvalid)
    exact Dump.not_idAndName_described hboth

end

/-- Only the target can be missing or wrong, and what is made is consistent. -/
theorem ofArgs_consistent (env : Option Bytes) (words : List Word) (i : Invocation)
    (args : DumpArgs) (h : parse env words = .ok i) (hcommand : i.command = .dump args) :
    ∃ d, Divides words d ∧ (∀ d', Divides words d' → d' = d) ∧ d.command = .dumpSdkBundle ∧
      (∀ e, (Dump.Command.ofArgs args).result = .error e ↔ Unmade d.after e) ∧
      (Dump.Command.ofArgs args).result ≠ .error (.invalidCommand .noBundle) ∧
      (∀ c, (Dump.Command.ofArgs args).result = .ok c → Consistent d.after c) := by
  obtain ⟨d, outer, inner, hdivides, haccounts⟩ := accounts_of_parse h
  have hgiven := haccounts.command
  rw [hcommand] at hgiven
  obtain ⟨hname, hbundle, hword, hresource⟩ := command_eq_dump hgiven
  have hunmade := unmade_iff haccounts.after hword
  refine ⟨d, hdivides, fun d' h' => divides_unique h' hdivides, hname, hunmade, ?_,
    fun c => consistent_of_ofArgs haccounts.after hbundle hresource⟩
  rw [Ne, hunmade]
  rintro ⟨⟩

/-- A value is no second target, and a word after `--` is one. -/
theorem ofArgs_consistent_escaped :
    let words := [Bytes.ofText "dump-sdk-bundle", Setting.joined .bundle (Bytes.ofText "b"),
      Setting.word .resource, Bytes.ofText "config", escapeWord, Bytes.ofText "--bundle"]
    let args : DumpArgs := ⟨some "--bundle", Bytes.ofText "b", none, some "config", none⟩
    parse none words = .ok ⟨false, none, .dump args⟩ ∧
      ∃ d, Divides words d ∧ (∀ d', Divides words d' → d' = d) ∧ d.command = .dumpSdkBundle ∧
        (∀ e, (Dump.Command.ofArgs args).result = .error e ↔ Unmade d.after e) ∧
        (Dump.Command.ofArgs args).result ≠ .error (.invalidCommand .noBundle) ∧
        (∀ c, (Dump.Command.ofArgs args).result = .ok c → Consistent d.after c) := by
  intro words args
  have hparse : parse none words = .ok ⟨false, none, .dump args⟩ := by rfl
  exact ⟨hparse, ofArgs_consistent none words _ args hparse rfl⟩

end BundleInspect.CommandLine
