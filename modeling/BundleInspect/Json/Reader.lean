import BundleInspect.Except
import BundleInspect.Json.Fault
import BundleInspect.Text.Digit

/-!
# Reading the pieces of a JSON document

Readers take the characters that are left and give back a value with the characters left after it,
or the fault they stop at.
-/

namespace BundleInspect.Json

def stopAt {α : Type} (cause : Cause) (rest : List Char) : Except Fault α :=
  .error ⟨cause, rest, 0⟩

/-- Stops at the next byte, which is looked at and not read. -/
def stopBefore {α : Type} (cause : Cause) (rest : List Char) : Except Fault α :=
  .error ⟨cause, rest, 1⟩

def stopAfter {α : Type} (cause : Cause) (rest : List Char) : Except Fault α :=
  .error ⟨cause, rest, 1⟩

/-! ## Outcomes of readers -/

section
variable {α β : Type}

@[simp] theorem ok_bind (a : α) (f : α → Except Fault β) : Except.ok a >>= f = f a :=
  rfl

@[simp] theorem pure_eq_ok (a : α) : (pure a : Except Fault α) = .ok a :=
  rfl

@[simp] theorem stopAt_ne_ok (cause : Cause) (rest : List Char) (a : α) :
    stopAt cause rest ≠ .ok a :=
  nofun

@[simp] theorem stopBefore_ne_ok (cause : Cause) (rest : List Char) (a : α) :
    stopBefore cause rest ≠ .ok a :=
  nofun

@[simp] theorem stopAfter_ne_ok (cause : Cause) (rest : List Char) (a : α) :
    stopAfter cause rest ≠ .ok a :=
  nofun

end

/-! ## Spaces and words -/

def isSpace (c : Char) : Bool :=
  c == ' ' || c == '\n' || c == '\t' || c == '\r'

def skipSpace (cs : List Char) : List Char :=
  cs.dropWhile isSpace

/-- Reads the rest of `null`, `true` or `false`. -/
def word : List Char → List Char → Except Fault (List Char)
  | [], cs => .ok cs
  | _ :: _, [] => stopAt .endInValue []
  | e :: es, c :: cs => if c = e then word es cs else stopAfter .badIdent (c :: cs)

/-! ## Numbers -/

def digitValue (c : Char) : Nat :=
  c.toNat - 48

/-- The digits after those that fit 64 bits are left over. -/
def absorb : Nat → List Char → Nat × List Char
  | value, [] => (value, [])
  | value, d :: ds =>
    if 10 * value + digitValue d < 0x10000000000000000 then absorb (10 * value + digitValue d) ds
    else (value, d :: ds)

/-- The double for `10 ^ n`, for `n` up to 308. -/
def tenTo (n : Nat) : Float :=
  Float.ofScientific 1 false n

def scaleDownBy (x : Float) : Nat → Float
  | 0 => x
  | steps + 1 => scaleDownBy (x / tenTo 308) steps

def scaleDown (x : Float) (n : Nat) : Float :=
  let steps := (n - 1) / 308
  scaleDownBy x steps / tenTo (n - 308 * steps)

def scaled? (significand : Nat) (exponent : Int) : Option Float :=
  let x := (UInt64.ofNat significand).toFloat
  if exponent < 0 then some (scaleDown x exponent.natAbs)
  else if exponent ≤ 308 then
    let y := x * tenTo exponent.toNat
    if y.isInf then none else some y
  else if x == 0 then some x
  else none

/-- Where the value leaves 32 bits, what follows the digit that it does at. -/
def exponentOf : Nat → List Char → Except (List Char) Nat
  | value, [] => .ok value
  | value, d :: ds =>
    if 10 * value + digitValue d < 0x80000000 then exponentOf (10 * value + digitValue d) ds
    else .error ds

def exponentSign : List Char → Bool × List Char
  | '+' :: cs => (false, cs)
  | '-' :: cs => (true, cs)
  | cs => (false, cs)

def real (negative : Bool) (significand : Nat) (exponent : Int) (rest : List Char) :
    Except Fault (Number × List Char) :=
  match scaled? significand exponent with
  | some x => .ok (.real (if negative then -x else x), rest)
  | none => stopAt .numberOutOfRange rest

def exponent (negative : Bool) (significand : Nat) (start : Int) (cs : List Char) :
    Except Fault (Number × List Char) :=
  let (down, cs) := exponentSign cs
  match cs with
  | [] => stopAt .endInValue []
  | c :: _ =>
    if c.isDigit then
      let digits := cs.takeWhile Char.isDigit
      let rest := cs.dropWhile Char.isDigit
      match exponentOf 0 digits with
      | .ok e => real negative significand (if down then start - e else start + e) rest
      | .error ds =>
        if significand = 0 ∨ down then real negative 0 0 rest
        else stopAt .numberOutOfRange (ds ++ rest)
    else stopAfter .badNumber cs

def afterFraction (negative : Bool) (significand : Nat) (start : Int) (cs : List Char) :
    Except Fault (Number × List Char) :=
  match cs with
  | 'e' :: r | 'E' :: r => exponent negative significand start r
  | cs => real negative significand start cs

/-- Digits beyond 64 bits do not count. -/
def fraction (negative : Bool) (significand : Nat) (start : Int) (cs : List Char) :
    Except Fault (Number × List Char) :=
  match cs with
  | [] => stopBefore .endInValue []
  | c :: _ =>
    if c.isDigit then
      let digits := cs.takeWhile Char.isDigit
      let (value, left) := absorb significand digits
      afterFraction negative value (start - (digits.length - left.length : Nat))
        (cs.dropWhile Char.isDigit)
    else stopBefore .badNumber cs

/-- Minus zero is a double. -/
def whole (negative : Bool) (value : Nat) : Number :=
  if negative then
    if value = 0 ∨ 0x8000000000000000 < value then .real (-(UInt64.ofNat value).toFloat)
    else .integer (-(value : Int))
  else .integer value

def afterWhole (negative : Bool) (value : Nat) (left : List Char) (cs : List Char) :
    Except Fault (Number × List Char) :=
  match cs with
  | '.' :: r => fraction negative value left.length r
  | 'e' :: r | 'E' :: r => exponent negative value left.length r
  | cs => if left = [] then .ok (whole negative value, cs) else real negative value left.length cs

def magnitude (negative : Bool) (cs : List Char) : Except Fault (Number × List Char) :=
  match cs with
  | [] => stopAt .endInValue []
  | '0' :: cs =>
    match cs with
    | d :: _ => if d.isDigit then stopBefore .badNumber cs else afterWhole negative 0 [] cs
    | [] => afterWhole negative 0 [] []
  | c :: _ =>
    if c.isDigit then
      let (value, left) := absorb 0 (cs.takeWhile Char.isDigit)
      afterWhole negative value left (cs.dropWhile Char.isDigit)
    else stopAfter .badNumber cs

def number : List Char → Except Fault (Number × List Char)
  | '-' :: cs => magnitude true cs
  | cs => magnitude false cs

def startsNumber (c : Char) : Bool :=
  c == '-' || c.isDigit

/-! ## Strings -/

def hexUnit? (a b c d : Char) : Option Nat := do
  let a ← Text.hexValue? a
  let b ← Text.hexValue? b
  let c ← Text.hexValue? c
  let d ← Text.hexValue? d
  return ((a * 16 + b) * 16 + c) * 16 + d

/-- Four bytes are taken before they are looked at. -/
def hexUnit (cs : List Char) : Except Fault (Nat × List Char) :=
  let refused := if size (cs.take 4) < 4 then stopAt .endInString [] else .error ⟨.badEscape, cs, 4⟩
  match cs with
  | a :: b :: c :: d :: rest =>
    match hexUnit? a b c d with
    | some n => .ok (n, rest)
    | none => refused
  | _ => refused

def isLowSurrogate (n : Nat) : Bool :=
  0xdc00 ≤ n && n ≤ 0xdfff

def isHighSurrogate (n : Nat) : Bool :=
  0xd800 ≤ n && n ≤ 0xdbff

/-- Reads the second half of a character outside the basic plane. -/
def secondHalf (high : Nat) (cs : List Char) : Except Fault (Char × List Char) :=
  match cs with
  | [] => stopAt .endInString []
  | '\\' :: cs =>
    match cs with
    | [] => stopAt .endInString []
    | 'u' :: cs => do
      let (low, rest) ← hexUnit cs
      if isLowSurrogate low then
        .ok (Char.ofNat (0x10000 + (high - 0xd800) * 0x400 + (low - 0xdc00)), rest)
      else stopAt .loneSurrogate rest
    | cs => stopAfter .unfinishedSurrogate cs
  | cs => stopAfter .unfinishedSurrogate cs

def unicodeEscape (cs : List Char) : Except Fault (Char × List Char) := do
  let (n, rest) ← hexUnit cs
  if isLowSurrogate n then stopAt .loneSurrogate rest
  else if isHighSurrogate n then secondHalf n rest
  else .ok (Char.ofNat n, rest)

def shortEscape? : Char → Option Char
  | '"' => some '"'
  | '\\' => some '\\'
  | '/' => some '/'
  | 'b' => some '\x08'
  | 'f' => some '\x0c'
  | 'n' => some '\n'
  | 'r' => some '\r'
  | 't' => some '\t'
  | _ => none

def escape (cs : List Char) : Except Fault (Char × List Char) :=
  match cs with
  | [] => stopAt .endInString []
  | 'u' :: rest => unicodeEscape rest
  | c :: rest =>
    match shortEscape? c with
    | some x => .ok (x, rest)
    | none => stopAfter .badEscape cs

def stringPiece (cs : List Char) : Except Fault (Option Char × List Char) :=
  match cs with
  | [] => stopAt .endInString []
  | '"' :: rest => .ok (none, rest)
  | '\\' :: rest => do
    let (c, rest) ← escape rest
    return (some c, rest)
  | c :: rest => if c.toNat < 0x20 then stopAfter .controlCharacter cs else .ok (some c, rest)

def stringPieces : Nat → List Char → Except Fault (List Char × List Char)
  | 0, cs => stopAt .endInString cs
  | fuel + 1, cs => do
    match ← stringPiece cs with
    | (none, rest) => return ([], rest)
    | (some c, rest) =>
      let (more, rest) ← stringPieces fuel rest
      return (c :: more, rest)

/-- There are no more pieces than characters are left. -/
def string (cs : List Char) : Except Fault (String × List Char) := do
  let (text, rest) ← stringPieces (cs.length + 1) cs
  return (String.ofList text, rest)

/-! ## Lists and objects -/

def nextElement (first : Bool) (cs : List Char) : Except Fault (Bool × List Char) :=
  match skipSpace cs with
  | [] => stopBefore .endInList []
  | ']' :: r => .ok (false, ']' :: r)
  | c :: r =>
    if first then .ok (true, c :: r)
    else if c = ',' then
      match skipSpace r with
      | [] => stopBefore .endInValue []
      | ']' :: r => stopBefore .trailingComma (']' :: r)
      | r => .ok (true, r)
    else stopBefore .listCommaWanted (c :: r)

def nextKey (first : Bool) (cs : List Char) : Except Fault (Bool × List Char) :=
  match skipSpace cs with
  | [] => stopBefore .endInObject []
  | '\x7d' :: r => .ok (false, '\x7d' :: r)
  | c :: r =>
    if first then
      if c = '"' then .ok (true, r) else stopBefore .keyWanted (c :: r)
    else if c = ',' then
      match skipSpace r with
      | [] => stopBefore .endInValue []
      | '"' :: r => .ok (true, r)
      | '\x7d' :: r => stopBefore .trailingComma ('\x7d' :: r)
      | r => stopBefore .keyWanted r
    else stopBefore .objectCommaWanted (c :: r)

def colon (cs : List Char) : Except Fault (List Char) :=
  match skipSpace cs with
  | [] => stopBefore .endInObject []
  | ':' :: r => .ok r
  | r => stopBefore .colonWanted r

def closeList (cs : List Char) : Except Fault (List Char) :=
  match skipSpace cs with
  | [] => stopBefore .endInList []
  | ']' :: r => .ok r
  | ',' :: r =>
    match skipSpace r with
    | ']' :: r => stopBefore .trailingComma (']' :: r)
    | r => stopBefore .trailingCharacters r
  | r => stopBefore .trailingCharacters r

def closeObject (cs : List Char) : Except Fault (List Char) :=
  match skipSpace cs with
  | [] => stopBefore .endInObject []
  | '\x7d' :: r => .ok r
  | ',' :: r => stopBefore .trailingComma (',' :: r)
  | r => stopBefore .trailingCharacters r

/-- A closing bracket is read if it is next, and so is a comma. -/
def leaveList (cs : List Char) : List Char :=
  match skipSpace cs with
  | ']' :: r => r
  | ',' :: r => skipSpace r
  | r => r

def leaveObject (cs : List Char) : List Char :=
  match skipSpace cs with
  | '\x7d' :: r => r
  | r => r

def elements {α : Type} (item : List Char → Except Fault (α × List Char)) :
    Nat → Bool → List Char → Except Fault (List α × List Char)
  | 0, _, cs => stopAt .endInList cs
  | fuel + 1, first, cs => do
    match ← nextElement first cs with
    | (false, rest) => return ([], rest)
    | (true, rest) =>
      let (x, rest) ← item rest
      let (xs, rest) ← elements item fuel false rest
      return (x :: xs, rest)

/-- A key is read here; `entry` reads the colon and the value. -/
def members {σ : Type} (entry : σ → String → List Char → Except Fault (σ × List Char)) :
    Nat → Bool → σ → List Char → Except Fault (σ × List Char)
  | 0, _, _, cs => stopAt .endInObject cs
  | fuel + 1, first, state, cs => do
    match ← nextKey first cs with
    | (false, rest) => return (state, rest)
    | (true, rest) =>
      let (key, rest) ← string rest
      let (state, rest) ← entry state key rest
      members entry fuel false state rest

def list {α : Type} (item : List Char → Except Fault (α × List Char)) (cs : List Char) :
    Except Fault (List α × List Char) := do
  let (xs, rest) ← elements item (cs.length + 1) true cs
  return (xs, ← closeList rest)

def object {σ : Type} (entry : σ → String → List Char → Except Fault (σ × List Char)) (state : σ)
    (cs : List Char) : Except Fault (σ × List Char) := do
  let (state, rest) ← members entry (cs.length + 1) true state cs
  return (state, ← closeObject rest)

end BundleInspect.Json
