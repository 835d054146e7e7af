import BundleInspect.CommandLine.Given

/-!
# Reading command lines

The words of a level are read one after the other. What a word gives is taken into account when the
next one does, so that an unknown word is told before a value that does not fit.
-/

namespace BundleInspect.CommandLine

/-! ## Stops -/

inductive Topic where
  | brief
  | full
  | command (name : CommandName)
  | help
  deriving DecidableEq, Repr

inductive Stop where
  | help (topic : Topic)
  | version
  /-- Nothing was asked for. -/
  | overview
  | misuse (m : Misuse)
  deriving DecidableEq

def Level.topic (long : Bool) : Level → Topic
  | .root => if long then .full else .brief
  | .command c => .command c

def topicOf? (w : Word) : Option Topic :=
  if w = helpWord then some .help else (CommandName.ofWord? w).map .command

/-- A command has no commands of its own. -/
def helpStop : List Word → Stop
  | [] => .help .full
  | w :: more =>
    match topicOf? w, more with
    | none, _ => .misuse (.unknownCommand w.display)
    | some topic, [] => .help topic
    | some _, v :: _ => .misuse (.unknownCommand v.display)

/-! ## Shapes of words -/

def hyphen : UInt8 :=
  45

def equalsSign : UInt8 :=
  61

/-- The word after which no word is a setting or a switch. -/
def escapeWord : Word :=
  [hyphen, hyphen]

def longParts? : Word → Option (Bytes × Option Bytes)
  | a :: b :: c :: more =>
    if a = hyphen ∧ b = hyphen then
      let body := c :: more
      let name := body.takeWhile (· != equalsSign)
      match body.dropWhile (· != equalsSign) with
      | [] => some (name, none)
      | _ :: value => some (name, some value)
    else none
  | _ => none

def shortPart? : Word → Option Bytes
  | a :: b :: more => if a = hyphen ∧ b ≠ hyphen then some (b :: more) else none
  | _ => none

/-! ## Progress -/

/-- A word that was taken and not looked at yet. -/
inductive Pending where
  | waiting (s : Setting)
  | value (s : Setting) (value : Bytes)
  | word (w : Word)

structure Progress where
  given : Given := {}
  pending : Option Pending := none

namespace Progress

def waiting? (p : Progress) : Option Setting :=
  match p.pending with
  | some (.waiting s) => some s
  | _ => none

def hasWord (p : Progress) : Bool :=
  match p.pending with
  | some (.word _) => true
  | _ => p.given.word.isSome

def settle (p : Progress) : Except Misuse Given :=
  match p.pending with
  | none => .ok p.given
  | some (.waiting s) => .error (.noValue s)
  | some (.value s value) => p.given.add s value
  | some (.word w) => do return { p.given with word := some (← readText w) }

def fill (p : Progress) (s : Setting) (w : Word) : Progress :=
  { p with pending := some (.value s w) }

def occur (p : Progress) (s : Setting) (joined : Option Bytes) : Except Misuse Progress := do
  let given ← p.settle
  match joined with
  | some value => return { given := ← given.add s value }
  | none =>
    if s.takesNextWord then return { given, pending := some (.waiting s) }
    else return { given := ← given.add s (Bytes.ofText "true") }

def switch (p : Progress) (l : Level) (long : Bool) (s : Switch) : Except Stop Progress := do
  let given ← p.settle.mapError .misuse
  match s with
  | .verbose =>
    if given.verbose then .error (.misuse (.repeated (.switch .verbose)))
    else return { given := { given with verbose := true } }
  | .help => .error (.help (l.topic long))
  | .version => .error .version

/-- What the pending word gives does not matter if this one is unknown. -/
def long (p : Progress) (l : Level) (name : Bytes) (joined : Option Bytes) :
    Except Stop Progress :=
  match name.text? with
  | none => .error (.misuse (.unknownArgument ("--" ++ name.display)))
  | some text =>
    match l.setting? text, l.longSwitch? text, joined with
    | some s, _, _ => (p.occur s joined).mapError .misuse
    | none, some s, none => p.switch l true s
    | none, some s, some value => .error (.misuse (.needlessValue value.display s))
    | none, none, _ => .error (.misuse (.unknownArgument ("--" ++ text)))

def letters (l : Level) : Progress → List (Bytes.Head × Bytes) → Except Stop Progress
  | p, [] => .ok p
  | _, (.broken _, run) :: more =>
    let rest := run ++ more.flatMap (·.2)
    .error (.misuse (.unknownArgument ("-" ++ Bytes.display rest)))
  | p, (.char c _, _) :: more =>
    match l.shortSwitch? c with
    | some s => do letters l (← p.switch l false s) more
    | none => .error (.misuse (.unknownArgument ("-" ++ c.toString)))

def refusal (l : Level) (escaped : Bool) (w : Word) : Misuse :=
  if l = .root ∧ ¬ (escaped ∧ (topicOf? w).isSome) then .unknownCommand w.display
  else .unknownArgument w.display

def free (p : Progress) (l : Level) (escaped : Bool) (w : Word) : Except Stop Progress :=
  if l.wordUsage?.isSome && !p.hasWord then do
    let given ← p.settle.mapError .misuse
    return { given, pending := some (.word w) }
  else .error (.misuse (refusal l escaped w))

/-- A word before any `--` that names no command. -/
def word (p : Progress) (l : Level) (w : Word) : Except Stop Progress :=
  match longParts? w, shortPart? w, p.waiting? with
  | some (name, joined), _, _ => p.long l name joined
  | none, some body, _ => letters l p body.heads
  | none, none, some s => .ok (p.fill s w)
  | none, none, none => p.free l false w

end Progress

/-! ## Words -/

structure Reading where
  progress : Progress
  command : Option (CommandName × List Word) := none

/-- At the root, a word that no setting waits for may name a command. -/
def readWords (l : Level) : Bool → Progress → List Word → Except Stop Reading
  | _, p, [] => .ok { progress := p }
  | true, p, w :: more => do readWords l true (← p.free l true w) more
  | false, p, w :: more =>
    match p.waiting? with
    | some s =>
      if s.takesAnyWord then readWords l false (p.fill s w) more
      else if w = escapeWord then readWords l true p more
      else do readWords l false (← p.word l w) more
    | none =>
      if l = .root ∧ w = helpWord then .error (helpStop more)
      else
        match if l = .root then CommandName.ofWord? w else none with
        | some c => .ok { progress := p, command := some (c, more) }
        | none =>
          if w = escapeWord then readWords l true p more
          else do readWords l false (← p.word l w) more

/-! ## Command lines -/

def readCommand (env : Option Bytes) (c : CommandName) (words : List Word) :
    Except Stop (Given × Command) := do
  let reading ← readWords (.command c) false {} words
  let given ← reading.progress.settle.mapError .misuse
  (given.consult env).mapError .misuse
  let command ← (given.command c).mapError .misuse
  return (given, command)

def noCommandStop (env : Option Bytes) (given : Given) : Stop :=
  if given.verbose ∨ given.log.isSome ∨ env.isSome then .misuse .noCommand else .overview

/-- A filter after the command counts more than one before it, and that more than `env`. -/
def parse (env : Option Bytes) (words : List Word) : Except Stop Invocation := do
  let reading ← readWords .root false {} words
  match reading.command with
  | none =>
    let given ← reading.progress.settle.mapError .misuse
    (given.consult env).mapError .misuse
    .error (noCommandStop env given)
  | some (c, more) =>
    let (inner, command) ← readCommand env c more
    let outer ← reading.progress.settle.mapError .misuse
    (outer.consult env).mapError .misuse
    return {
      verbose := outer.verbose || inner.verbose
      log := inner.log.or (outer.log.or (env.bind Bytes.text?))
      command }

end BundleInspect.CommandLine
