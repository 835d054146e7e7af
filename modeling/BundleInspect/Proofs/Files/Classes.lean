import BundleInspect.Files.Check
import BundleInspect.Proofs.Files.Trails

/-!
# What the two checks of a path say together

`checks_classify`: the results of both checks tell directories, something that can be opened, something
that cannot, and a path that resolves to nothing apart, and they never say anything else.
-/

namespace BundleInspect.Files

/-- As an input, and as an output directory. -/
def checks (view : View) (path : Path) : Except Error Unit × Except Error Unit :=
  ((checkReadable view path).result, (checkOutput view path).result)

/-! ## By what is seen -/

section
variable {view : View} {path : Path}

theorem checks_of_nothing (h : view path = none) :
    checks view path = (.error (.fileNotFound path), .ok ()) := by
  rw [checks, checkReadable, checkOutput, h]
  rfl

theorem checks_of_directory (h : view path = some .directory) :
    checks view path = (.ok (), .ok ()) := by
  rw [checks, checkReadable, checkOutput, h]
  rfl

theorem checks_of_closedDirectory (h : view path = some .closedDirectory) :
    checks view path = (.error (.fileNotReadable path), .ok ()) := by
  rw [checks, checkReadable, checkOutput, h]
  rfl

theorem checks_of_file {contents : Bytes} (h : view path = some (.file contents)) :
    checks view path = (.ok (), .error (.invalidOutputDirectory path)) := by
  rw [checks, checkReadable, checkOutput, h]
  rfl

theorem checks_of_socket (h : view path = some .socket) :
    checks view path =
      (.error (.fileNotReadable path), .error (.invalidOutputDirectory path)) := by
  rw [checks, checkReadable, checkOutput, h]
  rfl

theorem checks_iff_view (view : View) (path : Path) :
    (checks view path = (.ok (), .ok ()) ↔ view path = some .directory) ∧
    (checks view path = (.ok (), .error (.invalidOutputDirectory path)) ↔
      ∃ contents, view path = some (.file contents)) ∧
    (checks view path =
        (.error (.fileNotReadable path), .error (.invalidOutputDirectory path)) ↔
      view path = some .socket) ∧
    (checks view path = (.error (.fileNotFound path), .ok ()) ↔ view path = none) ∧
    (checks view path = (.error (.fileNotReadable path), .ok ()) ↔
      view path = some .closedDirectory) := by
  cases hview : view path with
  | none => simp [checks_of_nothing hview]
  | some item =>
    cases item with
    | directory => simp [checks_of_directory hview]
    | closedDirectory => simp [checks_of_closedDirectory hview]
    | file contents => simp [checks_of_file hview]
    | socket => simp [checks_of_socket hview]

end

/-! ## By what a path resolves to -/

theorem view_eq_none_iff {files : Files} {path : Path} :
    files.view path = none ↔ Unresolved files path := by
  rw [unresolved_iff, Option.eq_none_iff_forall_not_mem]
  exact forall_congr' fun item => not_congr view_eq_some_iff

/-- A path that is followed without end resolves to nothing. -/
theorem checks_classify (files : Files) (path : Path) :
    (checks files.view path = (.ok (), .ok ()) ↔ Resolves files path .directory) ∧
    (checks files.view path = (.ok (), .error (.invalidOutputDirectory path)) ↔
      ∃ contents, Resolves files path (.file contents)) ∧
    (checks files.view path =
        (.error (.fileNotReadable path), .error (.invalidOutputDirectory path)) ↔
      Resolves files path .socket) ∧
    (checks files.view path = (.error (.fileNotFound path), .ok ()) ↔ Unresolved files path) ∧
    (checks files.view path = (.error (.fileNotReadable path), .ok ()) ↔
      Resolves files path .closedDirectory) ∧
    (Unresolved files path ↔ ∀ item, ¬ Resolves files path item) ∧
    (Loops files path → Unresolved files path) ∧
    WellFounded fun later earlier => Step files earlier later ∧ later.links ≤ mostLinks := by
  obtain ⟨hdirectory, hfile, hsocket, hnothing, hclosed⟩ := checks_iff_view files.view path
  simp only [view_eq_some_iff] at hdirectory hfile hsocket hclosed
  rw [view_eq_none_iff] at hnothing
  exact ⟨hdirectory, hfile, hsocket, hnothing, hclosed, unresolved_iff, unresolved_of_loops,
    step_wellFounded files⟩

end BundleInspect.Files
