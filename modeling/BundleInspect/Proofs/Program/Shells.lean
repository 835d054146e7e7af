import BundleInspect.Program.Run
import BundleInspect.Proofs.Text.Casing

/-!
# Which shell a name means

`completions_ascii_case`: the names that the completions command knows are told apart up to the case
of ASCII letters, and only up to that. It refuses any other name as it was written.
-/

namespace BundleInspect

namespace Shell

def names : Shell → List String
  | bash => ["bash"]
  | elvish => ["elvish"]
  | fish => ["fish"]
  | powerShell => ["powershell", "pwsh"]
  | zsh => ["zsh"]

def allNames : List String :=
  ["bash", "elvish", "fish", "powershell", "pwsh", "zsh"]

/-! ## Names -/

theorem plain_names (shell : Shell) : ∀ n ∈ shell.names, ∀ c ∈ n.toList, Text.Plain c := by
  cases shell <;> simp [names, Text.Plain]

theorem mem_allNames_iff {n : String} : n ∈ allNames ↔ ∃ shell : Shell, n ∈ shell.names := by
  constructor
  · intro h
    have hall : ∀ n ∈ allNames, ∃ entry ∈ table, n ∈ entry.2.names := by decide
    obtain ⟨entry, -, hentry⟩ := hall n h
    exact ⟨entry.2, hentry⟩
  · rintro ⟨shell, h⟩
    have hall : ∀ n ∈ shell.names, n ∈ allNames := by cases shell <;> decide
    exact hall n h

theorem lookup_table_iff {n : String} {shell : Shell} :
    table.lookup n = some shell ↔ n ∈ shell.names := by
  constructor
  · intro h
    obtain ⟨before, after, htable, -⟩ := List.lookup_eq_some_iff.mp h
    have hmem : (n, shell) ∈ table := by
      rw [htable]
      simp
    have hall : ∀ entry ∈ table, entry.1 ∈ entry.2.names := by decide
    exact hall (n, shell) hmem
  · intro h
    have hall : ∀ n ∈ shell.names, table.lookup n = some shell := by cases shell <;> decide
    exact hall n h

/-! ## Names in any case -/

variable {name : String} {shell : Shell}

theorem lower_mem_names_iff : Text.lower name ∈ shell.names ↔ name.toLower ∈ shell.names := by
  have hsame (n : String) (hn : n ∈ shell.names) : Text.lower name = n ↔ name.toLower = n :=
    Text.lower_eq_iff (plain_names shell n hn)
  constructor
  · intro h
    rwa [(hsame _ h).mp rfl]
  · intro h
    rwa [(hsame _ h).mpr rfl]

theorem ofName_eq_ok_iff : ofName name = .ok shell ↔ name.toLower ∈ shell.names := by
  rw [← lower_mem_names_iff, ← lookup_table_iff]
  unfold ofName
  split
  · next shell' hlookup => rw [hlookup, Except.ok.injEq, Option.some.injEq]
  · next hlookup => simp [hlookup]

theorem ofName_eq_error (h : name.toLower ∉ allNames) :
    ofName name = .error (.invalidCommand (.unknownShell name)) := by
  unfold ofName
  split
  · next shell hlookup =>
    rw [lookup_table_iff, lower_mem_names_iff] at hlookup
    exact absurd (mem_allNames_iff.mpr ⟨shell, hlookup⟩) h
  · rfl

theorem ascii_of_mem_names (h : name.toLower ∈ shell.names) : ∀ c ∈ name.toList, c.toNat < 128 :=
  Text.ascii_of_plain (plain_names shell _ h) (.inr rfl)

end Shell

/-! ## The command -/

section
variable {name : String} {view : View} {backends : Backends} {script : Shell → String}

theorem run_completions_of_ok {shell : Shell} (h : Shell.ofName name = .ok shell) :
    Command.run view backends script (.completions name) = .quiet (.ok ()) (script shell) := by
  rw [Command.run, h]

theorem run_completions_of_error {e : Error} (h : Shell.ofName name = .error e) :
    Command.run view backends script (.completions name) = .quiet (.error e) "" := by
  rw [Command.run, h]

theorem run_completions_eq_ok_iff :
    (Command.run view backends script (.completions name)).result = .ok () ↔
      name.toLower ∈ Shell.allNames := by
  constructor
  · intro h
    by_contra hunknown
    rw [run_completions_of_error (Shell.ofName_eq_error hunknown)] at h
    cases h
  · intro h
    obtain ⟨shell, hshell⟩ := Shell.mem_allNames_iff.mp h
    rw [run_completions_of_ok (Shell.ofName_eq_ok_iff.mpr hshell)]
    rfl

end

/-- Names count up to the case of ASCII letters. -/
theorem completions_ascii_case (view : View) (backends : Backends) (script : Shell → String)
    (name : String) :
    (∀ shell, Shell.ofName name = .ok shell ↔ name.toLower ∈ shell.names) ∧
    ((Command.run view backends script (.completions name)).result = .ok () ↔
      name.toLower ∈ Shell.allNames) ∧
    ((Command.run view backends script (.completions name)).result = .ok () →
      ∀ c ∈ name.toList, c.toNat < 128) ∧
    (∀ shell, Shell.ofName name = .ok shell →
      Command.run view backends script (.completions name) = .quiet (.ok ()) (script shell)) ∧
    (∀ other : String, other.toLower = name.toLower →
      ∀ shell, Shell.ofName other = .ok shell ↔ Shell.ofName name = .ok shell) ∧
    (name.toLower ∉ Shell.allNames →
      Command.run view backends script (.completions name) =
        .quiet (.error (.invalidCommand (.unknownShell name))) "") ∧
    (Error.invalidCommand (.unknownShell name)).message =
      "Unknown shell: " ++ name ++ ". Supported shells: bash, elvish, fish, powershell, zsh" := by
  refine ⟨fun _ => Shell.ofName_eq_ok_iff, run_completions_eq_ok_iff, ?_,
    fun _ => run_completions_of_ok, ?_, ?_, rfl⟩
  · intro h
    obtain ⟨shell, hshell⟩ := Shell.mem_allNames_iff.mp (run_completions_eq_ok_iff.mp h)
    exact Shell.ascii_of_mem_names hshell
  · intro other hsame shell
    rw [Shell.ofName_eq_ok_iff, Shell.ofName_eq_ok_iff, hsame]
  · intro hunknown
    exact run_completions_of_error (Shell.ofName_eq_error hunknown)

end BundleInspect
