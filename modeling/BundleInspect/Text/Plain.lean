/-!
# Plain text

What is left of a text when the control characters and the escape sequences for terminals are taken
out of it. White space that ends lines or moves within them stays.
-/

namespace BundleInspect.Text

inductive Sequence where
  | outside
  | opened
  /-- After characters that announce a last one. -/
  | announced
  /-- In a control sequence, which a letter or a sign from `@` on ends. -/
  | control
  /-- In a command to the system, which a bell ends as well. -/
  | command
  /-- In a string, which goes on up to the next escape. -/
  | string
  deriving DecidableEq, Repr

def isControl (c : Char) : Bool :=
  c.toNat < 0x20 || c.toNat == 0x7f

def isLayout (c : Char) : Bool :=
  c == '\t' || c == '\n' || c == '\x0c' || c == '\r'

def Sequence.next (s : Sequence) (c : Char) : Sequence :=
  if 0x80 ≤ c.toNat then s
  else match s with
    | outside => outside
    | opened =>
      if c.toNat < 0x30 then announced
      else if c = '[' then control
      else if c = ']' then command
      else if c = 'P' ∨ c = 'X' ∨ c = '^' ∨ c = '_' then string
      else outside
    | announced => if c.toNat < 0x30 then announced else outside
    | control => if c.toNat < 0x40 then control else outside
    | command => command
    | string => string

/-- An escape opens a new sequence anywhere. -/
def Sequence.step (s : Sequence) (c : Char) : Sequence × Bool :=
  if c = '\x1b' then (opened, false)
  else if c = '\x18' ∨ c = '\x1a' then (outside, false)
  else match s with
    | outside => (outside, !isControl c || isLayout c)
    | string => (string, false)
    | command => (if c = '\x07' then outside else command, false)
    | s => if isLayout c then (outside, true) else (if isControl c then s else s.next c, false)

def kept : Sequence → List Char → List Char
  | _, [] => []
  | s, c :: cs =>
    let (s, keep) := s.step c
    if keep then c :: kept s cs else kept s cs

def plain (text : String) : String :=
  String.ofList (kept .outside text.toList)

end BundleInspect.Text
