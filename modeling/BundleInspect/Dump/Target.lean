import BundleInspect.Error

/-!
# Dump targets

The parts of a bundle that can be dumped, by their names.
-/

namespace BundleInspect.Dump

inductive Target where
  | manifest
  | resources
  | config
  deriving DecidableEq, Repr

namespace Target

def all : List Target :=
  [manifest, resources, config]

def name : Target → String
  | manifest => "manifest"
  | resources => "resources"
  | config => "config"

def names : List String :=
  all.map name

def ofName? (given : String) : Option Target :=
  all.find? (·.name == given)

def resolve : Option String → Except Error Target
  | none => .error .missingDumpTarget
  | some given =>
    match ofName? given with
    | some target => .ok target
    | none => .error (.unknownDumpTarget given names)

theorem ofName?_eq_some_iff {given : String} {t : Target} :
    ofName? given = some t ↔ given = t.name := by
  constructor
  · intro h
    unfold ofName? at h
    have hname := List.find?_some h
    exact (eq_of_beq hname).symm
  · rintro rfl
    cases t <;> decide

theorem resolve_eq_ok_iff {given : Option String} {t : Target} :
    resolve given = .ok t ↔ given = some t.name := by
  cases given with
  | none => simp [resolve]
  | some given =>
    simp only [resolve, Option.some.injEq, ← ofName?_eq_some_iff]
    cases ofName? given <;> simp

theorem ofName?_eq_none_iff {given : String} : ofName? given = none ↔ given ∉ names := by
  rw [ofName?, List.find?_eq_none, names, List.mem_map]
  constructor
  · rintro h ⟨t, ht, rfl⟩
    exact h t ht (beq_self_eq_true _)
  · intro h t ht hname
    exact h ⟨t, ht, eq_of_beq hname⟩

theorem resolve_eq_error_iff {given : Option String} {e : Error} :
    resolve given = .error e ↔
      given = none ∧ e = .missingDumpTarget ∨
      ∃ word, given = some word ∧ word ∉ names ∧ e = .unknownDumpTarget word names := by
  cases given with
  | none => simp [resolve, eq_comm]
  | some word =>
    simp only [resolve, reduceCtorEq, false_and, false_or, Option.some.injEq, exists_eq_left',
      ← ofName?_eq_none_iff]
    cases ofName? word <;> simp [eq_comm]

end Target
end BundleInspect.Dump
