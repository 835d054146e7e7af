import BundleInspect.Json.Reader

/-!
# Reading the values of a JSON document

Readers for a value of one wanted kind, which tell what stands there instead, and a reader for a
value of any kind.
-/

namespace BundleInspect.Json

def start (cs : List Char) : Except Fault (List Char) :=
  match skipSpace cs with
  | [] => stopBefore .endInValue []
  | cs => .ok cs

/-! ## Values of another kind -/

/-- A list or an object is told by its bracket and not read. -/
def found (cs : List Char) : Except Fault (Found × List Char) :=
  match cs with
  | 'n' :: r => return (.null, ← word "ull".toList r)
  | 't' :: r => return (.boolean true, ← word "rue".toList r)
  | 'f' :: r => return (.boolean false, ← word "alse".toList r)
  | '"' :: r => do
    let (text, r) ← string r
    return (.string text, r)
  | '[' :: r => .ok (.sequence, '[' :: r)
  | '\x7b' :: r => .ok (.map, '\x7b' :: r)
  | c :: r =>
    if startsNumber c then do
      let (n, r) ← number (c :: r)
      return (.number n, r)
    else stopBefore .valueWanted (c :: r)
  | [] => stopBefore .valueWanted []

/-- Refuses what stands at `cs`, unless reading it already fails. -/
def refuse {α : Type} (wanted : Wanted) (cs : List Char) : Except Fault α := do
  let (what, rest) ← found cs
  stopAt (.wrongType what wanted) rest

theorem refuse_ne_ok {α : Type} (wanted : Wanted) (cs : List Char) (x : α) :
    refuse wanted cs ≠ .ok x := by
  unfold refuse
  intro h
  rw [bind_eq_ok] at h
  obtain ⟨⟨what, rest⟩, -, h⟩ := h
  exact stopAt_ne_ok _ _ _ h

/-! ## Values of a wanted kind -/

def text (cs : List Char) : Except Fault (String × List Char) := do
  match ← start cs with
  | '"' :: r => string r
  | r => refuse .string r

def boolean (cs : List Char) : Except Fault (Bool × List Char) := do
  match ← start cs with
  | 't' :: r => return (true, ← word "rue".toList r)
  | 'f' :: r => return (false, ← word "alse".toList r)
  | r => refuse .boolean r

def integer (wanted : Wanted) (low high : Int) (cs : List Char) :
    Except Fault (Int × List Char) := do
  match ← start cs with
  | c :: r =>
    if startsNumber c then
      match ← number (c :: r) with
      | (.integer i, rest) =>
        if low ≤ i ∧ i ≤ high then .ok (i, rest) else stopAt (.outOfRange i wanted) rest
      | (.real x, rest) => stopAt (.wrongType (.number (.real x)) wanted) rest
    else refuse wanted (c :: r)
  | [] => refuse wanted []

def unsigned32 (cs : List Char) : Except Fault (UInt32 × List Char) := do
  let (i, rest) ← integer .unsigned32 0 0xffffffff cs
  return (UInt32.ofNat i.toNat, rest)

def signed32 (cs : List Char) : Except Fault (Int32 × List Char) := do
  let (i, rest) ← integer .signed32 (-0x80000000) 0x7fffffff cs
  return (Int32.ofInt i, rest)

def texts (cs : List Char) : Except Fault (List String × List Char) := do
  match ← start cs with
  | '[' :: r => list text r
  | r => refuse .sequence r

def optional {α : Type} (item : List Char → Except Fault (α × List Char)) (cs : List Char) :
    Except Fault (Option α × List Char) :=
  match skipSpace cs with
  | 'n' :: r => return (none, ← word "ull".toList r)
  | r => do
    let (x, rest) ← item r
    return (some x, rest)

/-- Both readers start after the opening bracket. -/
def record {α : Type} (name : String) (ofObject ofList : List Char → Except Fault (α × List Char))
    (cs : List Char) : Except Fault (α × List Char) := do
  match ← start cs with
  | '\x7b' :: r => ofObject r
  | '[' :: r => ofList r
  | r => refuse (.record name) r

/-! ## Values of any kind -/

inductive Scanned where
  | integer (value : Int)
  | string (text : String)
  | other

def Number.scanned : Number → Scanned
  | .integer i => .integer i
  | .real _ => .other

def anyMember {α : Type} (item : List Char → Except Fault (α × List Char)) (_ : Unit) (_ : String)
    (cs : List Char) : Except Fault (Unit × List Char) := do
  let (_, rest) ← item (← colon cs)
  return ((), rest)

def scan : Nat → List Char → Except Fault (Scanned × List Char)
  | depth, cs => do
    match ← start cs with
    | 'n' :: r => return (.other, ← word "ull".toList r)
    | 't' :: r => return (.other, ← word "rue".toList r)
    | 'f' :: r => return (.other, ← word "alse".toList r)
    | '"' :: r =>
      let (text, r) ← string r
      return (.string text, r)
    | '[' :: r =>
      match depth with
      | 0 => stopBefore .tooDeep ('[' :: r)
      | depth + 1 =>
        let (_, r) ← list (scan depth) r
        return (.other, r)
    | '\x7b' :: r =>
      match depth with
      | 0 => stopBefore .tooDeep ('\x7b' :: r)
      | depth + 1 =>
        let (_, r) ← object (anyMember (scan depth)) () r
        return (.other, r)
    | c :: r =>
      if startsNumber c then
        let (n, r) ← number (c :: r)
        return (n.scanned, r)
      else stopBefore .valueWanted (c :: r)
    | [] => stopBefore .valueWanted []

def finish (cs : List Char) : Except Fault Unit :=
  match skipSpace cs with
  | [] => .ok ()
  | r => stopBefore .trailingCharacters r

end BundleInspect.Json
