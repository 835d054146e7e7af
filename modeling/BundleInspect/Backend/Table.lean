import BundleInspect.Backend.Basic

/-!
# Backends over a table

Backends that hold what they answer with: a table of resources and a list of extracted paths. They
can be told to fail after the work is done.
-/

namespace BundleInspect

def Script.writeAll (bytes : Bytes) (next : Except String Unit → Script) : Script :=
  if bytes = [] then next (.ok ())
  else
    .write bytes fun
      | .ok count =>
        if count = 0 then next (.error "failed to write whole buffer")
        else Script.writeAll (bytes.drop count) next
      | .error message => next (.error message)
  termination_by bytes.length
  decreasing_by
    have := List.length_pos_iff.mpr ‹bytes ≠ []›
    simp only [List.length_drop]
    omega

structure TableBackend where
  table : List Resource.Entry := []
  extracted : List Path := []
  failure : Option String := none

namespace TableBackend

def outcome {α : Type} (b : TableBackend) (value : α) : Except Reason α :=
  match b.failure with
  | some message => .error (.stated message [])
  | none => .ok value

/-- A refused write ends the script with the refusal as the reason. -/
def writeTexts (b : TableBackend) : List String → Script
  | [] => .finish (b.outcome ())
  | text :: more => .writeAll (Bytes.ofText text) fun
    | .ok () => b.writeTexts more
    | .error message => .finish (.error (.stated message []))

def entryLine (e : Resource.Entry) : String :=
  s!"0x{Resource.Predicate.hex8 e.id} - {e.typeName}/{e.entryName}\n"

def dump (b : TableBackend) : DumpBackend
  | .config _ => b.writeTexts ["config\n"]
  | .manifest _ _ => b.writeTexts ["manifest\n"]
  | .resources _ predicate _ => b.writeTexts ((b.table.filter predicate.selects).map entryLine)

def extract (b : TableBackend) : Extractor := fun _ =>
  { result := b.outcome b.extracted }

def backends (b : TableBackend) : Backends :=
  ⟨b.dump, b.extract⟩

end TableBackend
end BundleInspect
