import BundleInspect.Error
import BundleInspect.Resource.Literal

/-!
# Choosing resources

A resource is asked for by its ID, written as an integer literal, or by `<type>/<name>`. What is
asked for becomes a predicate over the entries of a resource table.
-/

namespace BundleInspect.Resource

structure Entry where
  typeName : String
  entryName : String
  id : UInt32
  deriving DecidableEq

/-! ## What is asked for -/

inductive Selector where
  | id (value : Int32)
  | name (raw : String)
  deriving DecidableEq

/-- Of the 64 bits of an integer literal the lower 32 count. -/
def Selector.parse (raw : String) : Selector :=
  match literal? raw with
  | some value => .id (Int32.ofInt value)
  | none => .name raw

inductive Predicate where
  | any
  | id (value : Int32)
  | name (typeName entryName : String)
  deriving DecidableEq

/-- The two parts around the only slash, neither of them empty. -/
def splitName? (name : String) : Option (String × String) :=
  let typeName := name.toList.takeWhile (· != '/')
  match name.toList.dropWhile (· != '/') with
  | '/' :: entryName =>
    if typeName = [] ∨ entryName = [] ∨ '/' ∈ entryName then none
    else some (String.ofList typeName, String.ofList entryName)
  | _ => none

namespace Predicate

/-- The ID counts if there are both. -/
def compile (byId : Option Int32) (byName : Option String) : Except Error Predicate :=
  match byId, byName with
  | some value, _ => .ok (.id value)
  | none, none => .ok .any
  | none, some raw =>
    match splitName? raw with
    | some (typeName, entryName) => .ok (.name typeName entryName)
    | none => .error (.invalidResourceName raw)

def ofFlag (raw : Option String) : Except Error Predicate :=
  match raw.map Selector.parse with
  | none => .ok .any
  | some (.id value) => .ok (.id value)
  | some (.name raw) => compile none (some raw)

/-- IDs are compared as 32 bits. -/
def selects (p : Predicate) (e : Entry) : Bool :=
  match p with
  | any => true
  | id value => e.id.toInt32 == value
  | name typeName entryName => e.typeName == typeName && e.entryName == entryName

def hex8 (n : UInt32) : String :=
  let digits := Nat.toDigits 16 n.toNat
  String.ofList (List.replicate (8 - digits.length) '0' ++ digits)

def display : Predicate → String
  | any => "all resources"
  | id value => "resource 0x" ++ hex8 value.toUInt32
  | name typeName entryName => s!"resource {typeName}/{entryName}"

theorem compile_eq_error {byId : Option Int32} {byName : Option String} {e : Error}
    (h : compile byId byName = .error e) :
    byId = none ∧ ∃ name, byName = some name ∧ e = .invalidResourceName name := by
  unfold compile at h
  split at h
  case h_1 | h_2 => cases h
  case h_3 name =>
    split at h
    case h_1 => cases h
    case h_2 =>
      cases h
      exact ⟨rfl, name, rfl, rfl⟩

theorem ofFlag_eq_error {raw : Option String} {e : Error} (h : ofFlag raw = .error e) :
    ∃ name, raw = some name ∧ e = .invalidResourceName name := by
  cases raw with
  | none => simp [ofFlag] at h
  | some raw =>
    simp only [ofFlag, Option.map_some, Selector.parse] at h
    cases hliteral : literal? raw with
    | some value => simp [hliteral] at h
    | none =>
      simp only [hliteral, compile] at h
      split at h <;> simp_all

end Predicate
end BundleInspect.Resource
