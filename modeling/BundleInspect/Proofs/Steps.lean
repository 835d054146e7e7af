import BundleInspect.Error
import Mathlib.Order.WellFounded

/-!
# The first step that fails

A run goes through steps in the order of their ranks, and each of them may fail with an error. If
some step fails there is a first one. A run that ends with the error of the first, and well if there
is none, ends with no other errors.
-/

namespace BundleInspect

section
variable {Step : Type} {rank : Step → Nat} {Fails : Step → Error → Prop}

/-- Whether a step fails and no step before it does. -/
def First (rank : Step → Nat) (Fails : Step → Error → Prop) (step : Step) (e : Error) : Prop :=
  Fails step e ∧ ∀ earlier e', rank earlier < rank step → ¬ Fails earlier e'

theorem exists_first (rank : Step → Nat) {step : Step} {e : Error} (h : Fails step e) :
    ∃ first e', First rank Fails first e' ∧ rank first ≤ rank step := by
  have hstep : step ∈ {s : Step | rank s ≤ rank step ∧ ∃ e, Fails s e} := ⟨le_refl _, e, h⟩
  obtain ⟨first, ⟨hle, e', hfails⟩, hmin⟩ := (measure rank).wf.has_min _ ⟨step, hstep⟩
  refine ⟨first, e', ⟨hfails, ?_⟩, hle⟩
  intro earlier e'' hlt hearlier
  exact hmin earlier ⟨hlt.le.trans hle, e'', hearlier⟩ hlt

theorem not_fails_of_ok {α : Type} {result : Except Error α}
    (hfirst : ∀ step e, First rank Fails step e → result = .error e) {a : α}
    (hok : result = .ok a) (step : Step) (e : Error) : ¬ Fails step e := by
  intro hfails
  obtain ⟨first, e', hfirst', -⟩ := exists_first rank hfails
  rw [hfirst first e' hfirst'] at hok
  cases hok

theorem eq_error_iff_first {α : Type} {result : Except Error α}
    (hfirst : ∀ step e, First rank Fails step e → result = .error e)
    (hnever : (∀ step e, ¬ Fails step e) → ∃ a, result = .ok a) (e : Error) :
    result = .error e ↔ ∃ step, First rank Fails step e := by
  refine ⟨?_, fun ⟨step, h⟩ => hfirst step e h⟩
  intro herror
  by_cases hfails : ∃ step e', Fails step e'
  · obtain ⟨step, e', hfails⟩ := hfails
    obtain ⟨first, e'', hfirst', -⟩ := exists_first rank hfails
    have hsame := hfirst first e'' hfirst'
    rw [herror] at hsame
    cases hsame
    exact ⟨first, hfirst'⟩
  · obtain ⟨a, hok⟩ := hnever fun step e' h => hfails ⟨step, e', h⟩
    rw [herror] at hok
    cases hok

end
end BundleInspect
