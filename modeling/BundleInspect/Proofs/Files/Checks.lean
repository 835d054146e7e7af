import BundleInspect.Files.Check

/-!
# When a path is refused

Which errors the two checks of paths end with, and when.
-/

namespace BundleInspect.Files

open Log

inductive Unreadable (view : View) (path : Path) : Error → Prop where
  | missing : view path = none → Unreadable view path (.fileNotFound path)
  | closed (item : Item) :
    view path = some item → Item.isReadable item = false → Unreadable view path (.fileNotReadable path)

inductive NoDirectory (view : View) (path : Path) : Error → Prop where
  | other (item : Item) :
    view path = some item → item.isDirectory = false →
      NoDirectory view path (.invalidOutputDirectory path)

variable {view : View} {path : Path}

theorem checkReadable_eq_error_iff {e : Error} :
    (checkReadable view path).result = .error e ↔ Unreadable view path e := by
  unfold checkReadable
  constructor
  · intro h
    split at h
    case h_1 hview =>
      cases h
      exact .missing hview
    case h_2 item hview =>
      split at h
      · cases h
      · next hitem =>
        cases h
        exact .closed item hview (Bool.not_eq_true _ ▸ hitem)
  · intro h
    cases h with
    | missing hview => rw [hview]; rfl
    | closed item hview hitem => rw [hview]; simp [hitem]

theorem checkOutput_eq_error_iff {e : Error} :
    (checkOutput view path).result = .error e ↔ NoDirectory view path e := by
  unfold checkOutput
  constructor
  · intro h
    split at h
    case h_1 => cases h
    case h_2 item hview =>
      split at h
      · cases h
      · next hitem =>
        cases h
        exact .other item hview (Bool.not_eq_true _ ▸ hitem)
  · rintro ⟨item, hview, hitem⟩
    rw [hview]
    simp [hitem]

theorem passes_of_never {check : Stage Unit} {Refused : Error → Prop}
    (hiff : ∀ e, check.result = .error e ↔ Refused e) (h : ∀ e, ¬ Refused e) :
    check.result = .ok () := by
  cases hresult : check.result with
  | ok => rfl
  | error e => exact absurd ((hiff e).mp hresult) (h e)

theorem checkReadable_of_not_unreadable (h : ∀ e, ¬ Unreadable view path e) :
    (checkReadable view path).result = .ok () :=
  passes_of_never (fun _ => checkReadable_eq_error_iff) h

theorem checkOutput_of_not_noDirectory (h : ∀ e, ¬ NoDirectory view path e) :
    (checkOutput view path).result = .ok () :=
  passes_of_never (fun _ => checkOutput_eq_error_iff) h

theorem checkReadable_of_ok (h : (checkReadable view path).result = .ok ()) :
    checkReadable view path = .log (.inputReadable path) := by
  unfold checkReadable at h ⊢
  split
  case h_1 hview => simp [hview] at h
  case h_2 item hview =>
    split
    case isTrue => rfl
    case isFalse hitem => simp [hview, hitem] at h

theorem checkReadable_of_error {e : Error} (h : (checkReadable view path).result = .error e) :
    checkReadable view path = .fail e := by
  unfold checkReadable
  cases checkReadable_eq_error_iff.mp h with
  | missing hview => rw [hview]
  | closed item hview hitem => rw [hview]; simp [hitem]

theorem checkOutput_eq : checkOutput view path = .ofExcept (checkOutput view path).result := by
  unfold checkOutput
  split
  · rfl
  · split <;> rfl

theorem isReadable_iff_not_unreadable :
    (∃ item, view path = some item ∧ Item.isReadable item = true) ↔ ∀ e, ¬ Unreadable view path e := by
  constructor
  · rintro ⟨item, hview, hitem⟩ e h
    cases h with
    | missing hnone => simp [hview] at hnone
    | closed item' hview' hitem' => simp_all
  · intro h
    cases hview : view path with
    | none => exact absurd (.missing hview) (h _)
    | some item =>
      cases hitem : Item.isReadable item with
      | true => exact ⟨item, rfl, hitem⟩
      | false => exact absurd (.closed item hview hitem) (h _)

end BundleInspect.Files
