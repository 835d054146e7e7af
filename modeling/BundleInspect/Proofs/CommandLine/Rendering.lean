import BundleInspect.Except
import BundleInspect.Program.Outcome
import BundleInspect.Proofs.CommandLine.Pieces
import BundleInspect.Proofs.CommandLine.Shapes

/-!
# Command lines are read as they were written

A command can be written in many ways: its settings in any order, each with its value joined to it or
as the next word. `parse_rendering`: every one of them is read as that command.
-/

namespace BundleInspect.CommandLine

/-! ## Writing -/

/-- The next word is a value unless it begins with a hyphen. -/
inductive Written : Piece → List Word → Prop where
  | joined (s : Setting) (value : Bytes) : Written (.setting s value) [s.joined value]
  | apart (s : Setting) (value : Bytes) :
    s ≠ .values → s = .resource ∨ value.head? ≠ some hyphen →
      Written (.setting s value) [s.word, value]
  | bare : Written (.setting .values (Bytes.ofText "true")) [Setting.word .values]
  | free (w : Word) : w.head? ≠ some hyphen → Written (.word w) [w]

/-- A free word after `--` may be any word. -/
inductive Renders : List Piece → List Word → Prop where
  | nil : Renders [] []
  | cons {piece : Piece} {pieces : List Piece} {words more : List Word} :
    Written piece words → Renders pieces more → Renders (piece :: pieces) (words ++ more)
  | escaped (w : Word) : Renders [.word w] [escapeWord, w]

def pieces : Command → List Piece
  | .dump args =>
    .setting .bundle args.bundle ::
      (args.xpath.toList.map fun text => .setting .xpath (Bytes.ofText text)) ++
      (args.resource.toList.map fun text => .setting .resource (Bytes.ofText text)) ++
      (args.values.toList.map fun value => .setting .values (Bytes.ofText (toString value))) ++
      (args.target.toList.map fun text => .word (Bytes.ofText text))
  | .extract args =>
    [.setting .apks args.apks, .setting .deviceSpec args.deviceSpec,
      .setting .outputDir args.outputDir]
  | .version => []
  | .completions shell => [.word (Bytes.ofText shell)]

def nameOf : Command → CommandName
  | .dump _ => .dumpSdkBundle
  | .extract _ => .extractApk
  | .version => .version
  | .completions _ => .completions

/-- The name of a command, and then its pieces in any order. -/
inductive Rendering (c : Command) : List Word → Prop where
  | intro (order : List Piece) (words : List Word) :
    order.Perm (pieces c) → Renders order words →
      Rendering c (Bytes.ofText (nameOf c).word :: words)

/-! ## Words of settings -/

theorem setting?_long {l : Level} {s : Setting} (h : s ∈ l.settings) :
    l.setting? s.long = some s := by
  cases l with
  | root => cases s <;> first | rfl | exact absurd h (by decide)
  | command c => cases c <;> cases s <;> first | rfl | exact absurd h (by decide)

namespace Progress

variable {l : Level} {p : Progress} {g : Given} {s : Setting} {value : Bytes}

/-- The words have given `g`, and no setting waits for a value. -/
structure Settles (p : Progress) (g : Given) : Prop where
  waiting : p.waiting? = none
  settle : p.settle = .ok g
  hasWord : p.hasWord = g.word.isSome

theorem settles_given (g : Given) : Settles { given := g } g :=
  ⟨rfl, rfl, rfl⟩

theorem word_of_setting {w : Word} {joined : Option Bytes} (hs : s ∈ l.settings)
    (hparts : longParts? w = some (Bytes.ofText s.long, joined)) :
    p.word l w = (p.occur s joined).mapError .misuse := by
  simp only [word, hparts, long, Bytes.text?_ofText, setting?_long hs]

theorem occur_joined (hp : p.Settles g) (hfits : (Piece.setting s value).Fits)
    (hnew : g.filled (some s) = false) :
    p.occur s (some value) = .ok { given := g.give (.setting s value) } := by
  rw [occur, hp.settle]
  show (g.add s value).bind _ = _
  rw [g.add_of_fits hfits hnew]
  rfl

theorem occur_apart (hp : p.Settles g) (hs : s ≠ .values) :
    p.occur s none = .ok { given := g, pending := some (.waiting s) } := by
  have htakes : s.takesNextWord = true := bne_iff_ne.mpr hs
  rw [occur, hp.settle]
  show (if s.takesNextWord = true then _ else _) = _
  rw [if_pos htakes]
  rfl

theorem occur_bare (hp : p.Settles g) (hnew : g.filled (some .values) = false) :
    p.occur .values none =
      .ok { given := g.give (.setting .values (Bytes.ofText "true")) } := by
  have hfits : (Piece.setting .values (Bytes.ofText "true")).Fits := Or.inl rfl
  rw [occur, hp.settle]
  show (g.add .values (Bytes.ofText "true")).bind _ = _
  rw [g.add_of_fits hfits hnew]
  rfl

theorem settles_value (hfits : (Piece.setting s value).Fits) (hnew : g.filled (some s) = false) :
    Settles { given := g, pending := some (.value s value) } (g.give (.setting s value)) where
  waiting := rfl
  settle := g.add_of_fits hfits hnew
  hasWord := by
    have hslot : (Piece.setting s value).slot ≠ none := Option.some_ne_none s
    exact (g.filled_give hslot).symm

theorem settles_word {w : Word} (hfits : (Piece.word w).Fits) :
    Settles { given := g, pending := some (.word w) } (g.give (.word w)) where
  waiting := rfl
  settle := by
    obtain ⟨text, htext, hread⟩ := Given.readText_eq_ok hfits
    simp only [Progress.settle, hread, Given.give, htext]
    rfl
  hasWord := hfits.symm

theorem free_of_settles {escaped : Bool} {w : Word} (hp : p.Settles g)
    (hl : l.wordUsage?.isSome = true) (hnew : g.filled none = false) :
    p.free l escaped w = .ok { given := g, pending := some (.word w) } := by
  have hword : p.hasWord = false := hp.hasWord.trans hnew
  simp only [free, hl, hword, hp.settle]
  rfl

end Progress

/-! ## Reading -/

def Level.takes (l : Level) : Piece → Prop
  | .setting s _ => s ∈ l.settings
  | .word _ => l.wordUsage?.isSome = true

section
variable {l : Level} {p : Progress} {g : Given}

theorem readWords_command (hp : p.waiting? = none) (c : CommandName) (more : List Word) :
    readWords .root false p (Bytes.ofText c.word :: more) = .ok ⟨p, some (c, more)⟩ := by
  simp [readWords, hp, word_ne_helpWord, ofWord?_word]

theorem readWords_hyphen {w : Word} (hp : p.waiting? = none) (hhyphen : w.head? = some hyphen)
    (hescape : w ≠ escapeWord) (more : List Word) :
    readWords l false p (w :: more) = p.word l w >>= fun p' => readWords l false p' more := by
  rw [readWords]
  simp only [hp, ne_helpWord_of_hyphen hhyphen, ofWord?_of_hyphen hhyphen, hescape, and_false,
    ↓reduceIte, ite_self]

theorem readWords_name {s : Setting} {w : Word} {joined : Option Bytes} (hp : p.waiting? = none)
    (hs : s ∈ l.settings) (hparts : longParts? w = some (Bytes.ofText s.long, joined))
    (more : List Word) :
    readWords l false p (w :: more) =
      (p.occur s joined).mapError .misuse >>= fun p' => readWords l false p' more := by
  obtain ⟨hhyphen, hescape⟩ := of_longParts? hparts
  rw [readWords_hyphen hp hhyphen hescape, Progress.word_of_setting hs hparts]

theorem readWords_setting {s : Setting} {w : Word} {joined : Option Bytes} {p' : Progress}
    (hp : p.waiting? = none) (hs : s ∈ l.settings)
    (hparts : longParts? w = some (Bytes.ofText s.long, joined)) (hoccur : p.occur s joined = .ok p')
    (more : List Word) :
    readWords l false p (w :: more) = readWords l false p' more := by
  rw [readWords_name hp hs hparts, hoccur]
  rfl

theorem readWords_value {s : Setting} {value : Word} {more : List Word}
    (h : s = .resource ∨ value.head? ≠ some hyphen ∨ value = [hyphen]) :
    readWords l false { given := g, pending := some (.waiting s) } (value :: more) =
      readWords l false { given := g, pending := some (.value s value) } more := by
  rw [readWords]
  simp only [Progress.waiting?]
  rcases h with rfl | hhead | rfl
  · rfl
  · split
    · rfl
    · rw [if_neg (ne_escapeWord_of_head hhead), Progress.word, longParts?_of_head hhead,
        shortPart?_of_head hhead]
      rfl
  · split <;> rfl

theorem readWords_free {c : CommandName} {w : Word} {more : List Word} {p' : Progress}
    (hp : p.waiting? = none) (hhead : w.head? ≠ some hyphen)
    (hfree : p.free (.command c) false w = .ok p') :
    readWords (.command c) false p (w :: more) = readWords (.command c) false p' more := by
  rw [readWords]
  simp only [hp, reduceCtorEq, false_and, ↓reduceIte, ne_escapeWord_of_head hhead, Progress.word,
    longParts?_of_head hhead, shortPart?_of_head hhead, hfree]
  rfl

theorem readWords_escaped {c : CommandName} {w : Word} {p' : Progress} (hp : p.waiting? = none)
    (hfree : p.free (.command c) true w = .ok p') :
    readWords (.command c) false p [escapeWord, w] = .ok { progress := p' } := by
  rw [readWords]
  simp only [hp, reduceCtorEq, false_and, ↓reduceIte, readWords, hfree]
  rfl

theorem readWords_written {c : CommandName} {piece : Piece} {words : List Word}
    (hp : p.Settles g) (hwritten : Written piece words) (htakes : (Level.command c).takes piece)
    (hfits : piece.Fits) (hnew : g.filled piece.slot = false) (more : List Word) :
    ∃ p', p'.Settles (g.give piece) ∧
      readWords (.command c) false p (words ++ more) = readWords (.command c) false p' more := by
  cases hwritten with
  | joined s value =>
    refine ⟨_, Progress.settles_given _, ?_⟩
    exact readWords_setting hp.waiting htakes (longParts?_joined s value)
      (Progress.occur_joined hp hfits hnew) more
  | apart s value hs hvalue =>
    -- The first word waits for a value, and the second is held back until the next word.
    refine ⟨_, Progress.settles_value hfits hnew, ?_⟩
    have hword := readWords_setting hp.waiting htakes (longParts?_word s)
      (Progress.occur_apart hp hs) (value :: more)
    exact hword.trans (readWords_value (hvalue.imp_right .inl))
  | bare =>
    refine ⟨_, Progress.settles_given _, ?_⟩
    exact readWords_setting hp.waiting htakes (longParts?_word .values)
      (Progress.occur_bare hp hnew) more
  | free w hhead =>
    refine ⟨_, Progress.settles_word hfits, ?_⟩
    exact readWords_free hp.waiting hhead (Progress.free_of_settles hp htakes hnew)

theorem readWords_renders {c : CommandName} {pieces : List Piece} {words : List Word}
    (hrenders : Renders pieces words) (hp : p.Settles g)
    (htakes : ∀ piece ∈ pieces, (Level.command c).takes piece)
    (hfits : ∀ piece ∈ pieces, piece.Fits)
    (hnew : ∀ piece ∈ pieces, g.filled piece.slot = false)
    (hnodup : (pieces.map Piece.slot).Nodup) :
    ∃ p', readWords (.command c) false p words = .ok { progress := p' } ∧
      p'.settle = .ok (pieces.foldl Given.give g) := by
  -- What was given so far grows piece by piece; the slots of the pieces still to come stay empty.
  induction hrenders generalizing p g with
  | nil => exact ⟨p, rfl, hp.settle⟩
  | @cons piece pieces words more hwritten _ ih =>
    rw [List.forall_mem_cons] at htakes hfits hnew
    obtain ⟨hfresh, hnodup⟩ := List.nodup_cons.mp hnodup
    obtain ⟨p', hp', hread⟩ := readWords_written hp hwritten htakes.1 hfits.1 hnew.1 more
    rw [hread, List.foldl_cons]
    refine ih hp' htakes.2 hfits.2 (fun piece' hpiece' => ?_) hnodup
    rw [g.filled_give, hnew.2 piece' hpiece']
    intro hslot
    exact hfresh (List.mem_map.mpr ⟨piece', hpiece', hslot.symm⟩)
  | escaped w =>
    rw [List.forall_mem_singleton] at htakes hfits hnew
    exact ⟨_, readWords_escaped hp.waiting (Progress.free_of_settles hp htakes hnew),
      (Progress.settles_word hfits).settle⟩

end

/-! ## The pieces of a command -/

theorem truth_bytes (value : Bool) :
    (Bytes.ofText (toString value) == Bytes.ofText "true") = value := by
  cases value <;> decide

theorem fits_truth (value : Bool) :
    (Piece.setting .values (Bytes.ofText (toString value))).Fits := by
  cases value with
  | true => exact Or.inl rfl
  | false => exact Or.inr rfl

theorem fits_of_mem_pieces {c : Command} (hpaths : ∀ path ∈ c.paths, path ≠ []) :
    ∀ piece ∈ pieces c, piece.Fits := by
  cases c with
  | dump args =>
    simp only [Command.paths, List.forall_mem_singleton] at hpaths
    simp only [pieces, List.forall_mem_append, List.forall_mem_cons, List.forall_mem_map]
    exact ⟨⟨⟨⟨hpaths, fun text _ => by simp [Piece.Fits]⟩, fun text _ => by simp [Piece.Fits]⟩,
      fun value _ => fits_truth value⟩, fun text _ => by simp [Piece.Fits]⟩
  | extract args => simpa [pieces, Piece.Fits, Command.paths] using hpaths
  | version => simp [pieces]
  | completions shell => simp [pieces, Piece.Fits]

theorem takes_of_mem_pieces (c : Command) :
    ∀ piece ∈ pieces c, (Level.command (nameOf c)).takes piece := by
  cases c with
  | dump args =>
    simp only [pieces, List.forall_mem_append, List.forall_mem_cons, List.forall_mem_map]
    simp [nameOf, Level.takes, Level.settings, Level.wordUsage?]
  | extract args => simp [pieces, nameOf, Level.takes, Level.settings]
  | version => simp [pieces]
  | completions shell => simp [pieces, nameOf, Level.takes, Level.wordUsage?]

theorem nodup_slots (c : Command) : ((pieces c).map Piece.slot).Nodup := by
  cases c with
  | dump args =>
    obtain ⟨target, bundle, xpath, resource, values⟩ := args
    cases target <;> cases xpath <;> cases resource <;> cases values <;>
      simp [pieces, Piece.slot]
  | extract args => simp [pieces, Piece.slot]
  | version => simp [pieces]
  | completions shell => simp [pieces]

theorem foldl_pieces (c : Command) :
    ((pieces c).foldl Given.give {}).command (nameOf c) = .ok c ∧
      ((pieces c).foldl Given.give {}).log = none ∧
      ((pieces c).foldl Given.give {}).verbose = false := by
  cases c with
  | dump args =>
    obtain ⟨target, bundle, xpath, resource, values⟩ := args
    cases target <;> cases xpath <;> cases resource <;> cases values <;>
      simp [pieces, nameOf, Given.give, Given.command, truth_bytes]
  | extract args => simp [pieces, nameOf, Given.give, Given.command]
  | version => simp [pieces, nameOf, Given.command]
  | completions shell => simp [pieces, nameOf, Given.give, Given.command]

/-! ## The environment -/

theorem Given.consult_text (g : Given) (env : Option String) :
    g.consult (env.map Bytes.ofText) = .ok () := by
  cases env with
  | none => rfl
  | some text =>
    rw [Option.map_some, consult]
    split_ifs
    · rfl
    · rw [readText, Bytes.text?_ofText]
      rfl

theorem text_of_env (env : Option String) : (env.map Bytes.ofText).bind Bytes.text? = env := by
  cases env with
  | none => rfl
  | some text => exact Bytes.text?_ofText text

/-! ## Command lines -/

theorem readCommand_eq_ok_iff {env : Option Bytes} {c : CommandName} {words : List Word}
    {given : Given} {command : Command} :
    readCommand env c words = .ok (given, command) ↔
      ∃ r, readWords (.command c) false {} words = .ok r ∧ r.progress.settle = .ok given ∧
        given.consult env = .ok () ∧ given.command c = .ok command := by
  simp only [readCommand, bind_eq_ok, mapError_eq_ok]
  constructor
  · rintro ⟨r, hread, given', hsettle, ⟨⟩, hconsult, command', hcommand, h⟩
    cases h
    exact ⟨r, hread, hsettle, hconsult, hcommand⟩
  · rintro ⟨r, hread, hsettle, hconsult, hcommand⟩
    exact ⟨r, hread, given, hsettle, (), hconsult, command, hcommand, rfl⟩

theorem parse_eq_ok_iff {env : Option Bytes} {words : List Word} {i : Invocation} :
    parse env words = .ok i ↔
      ∃ p c more outer inner, readWords .root false {} words = .ok ⟨p, some (c, more)⟩ ∧
        p.settle = .ok outer ∧ readCommand env c more = .ok (inner, i.command) ∧
        outer.consult env = .ok () ∧ i.verbose = (outer.verbose || inner.verbose) ∧
        i.log = inner.log.or (outer.log.or (env.bind Bytes.text?)) := by
  constructor
  · intro h
    rw [parse, bind_eq_ok] at h
    obtain ⟨⟨p, command⟩, hread, h⟩ := h
    cases command with
    | none =>
      simp only [bind_eq_ok] at h
      obtain ⟨_, -, _, -, h⟩ := h
      cases h
    | some called =>
      obtain ⟨c, more⟩ := called
      simp only [bind_eq_ok, mapError_eq_ok] at h
      obtain ⟨⟨inner, command⟩, hcommand, outer, hsettle, ⟨⟩, hconsult, h⟩ := h
      cases h
      exact ⟨p, c, more, outer, inner, hread, hsettle, hcommand, hconsult, rfl, rfl⟩
  · rintro ⟨p, c, more, outer, inner, hread, hsettle, hcommand, hconsult, hverbose, hlog⟩
    obtain ⟨verbose, log, command⟩ := i
    dsimp only at hcommand hverbose hlog
    subst hverbose hlog
    rw [parse, hread, bind_eq_ok]
    refine ⟨_, rfl, ?_⟩
    simp only [bind_eq_ok, mapError_eq_ok]
    exact ⟨_, hcommand, _, hsettle, (), hconsult, rfl⟩

theorem readCommand_renders {c : Command} {order : List Piece} {words : List Word}
    (env : Option String) (hpaths : ∀ path ∈ c.paths, path ≠ []) (horder : order.Perm (pieces c))
    (hrenders : Renders order words) :
    ∃ given, readCommand (env.map Bytes.ofText) (nameOf c) words = .ok (given, c) ∧
      given.log = none ∧ given.verbose = false := by
  have hnodup : (order.map Piece.slot).Nodup :=
    (horder.map Piece.slot).nodup_iff.mpr (nodup_slots c)
  obtain ⟨p, hread, hsettle⟩ := readWords_renders hrenders (Progress.settles_given {})
    (fun piece h => takes_of_mem_pieces c piece (horder.mem_iff.mp h))
    (fun piece h => fits_of_mem_pieces hpaths piece (horder.mem_iff.mp h))
    (fun piece _ => Given.filled_empty piece.slot) hnodup
  -- No slot is named twice, so the order of the words does not matter.
  rw [Given.foldl_give_perm horder hnodup] at hsettle
  obtain ⟨hcommand, hlog, hverbose⟩ := foldl_pieces c
  exact ⟨_, readCommand_eq_ok_iff.mpr ⟨_, hread, hsettle, Given.consult_text _ env, hcommand⟩, hlog,
    hverbose⟩

/-- A command is read in any order and in any spelling. -/
theorem parse_rendering (env : Option String) (c : Command) (words : List Word)
    (hpaths : ∀ path ∈ c.paths, path ≠ []) (h : Rendering c words) :
    parse (env.map Bytes.ofText) words = .ok { verbose := false, log := env, command := c } := by
  cases h with
  | intro order words horder hrenders =>
    obtain ⟨given, hread, hlog, hverbose⟩ := readCommand_renders env hpaths horder hrenders
    have hroot : readWords .root false {} (Bytes.ofText (nameOf c).word :: words) =
        .ok { progress := {}, command := some (nameOf c, words) } := by
      simp [readWords, Progress.waiting?, word_ne_helpWord, ofWord?_word]
    refine parse_eq_ok_iff.mpr ⟨{}, nameOf c, words, {}, given, hroot, rfl, hread,
      Given.consult_text {} env, ?_, ?_⟩
    · rw [hverbose, Bool.or_false]
    · rw [hlog, text_of_env, Option.none_or, Option.none_or]

/-- `--resource` takes the next word, `--values` does not. -/
theorem parse_rendering_hyphens :
    (∀ path ∈ Command.paths (.dump ⟨some "--", [45, 255], none, some "--values", some true⟩),
      path ≠ []) ∧
    Rendering (.dump ⟨some "--", [45, 255], none, some "--values", some true⟩)
      [Bytes.ofText "dump-sdk-bundle", Setting.word .values, Setting.word .resource,
        Bytes.ofText "--values", Setting.joined .bundle [45, 255], escapeWord, Bytes.ofText "--"] ∧
    parse none
      [Bytes.ofText "dump-sdk-bundle", Setting.word .values, Setting.word .resource,
        Bytes.ofText "--values", Setting.joined .bundle [45, 255], escapeWord, Bytes.ofText "--"] =
      .ok ⟨false, none, .dump ⟨some "--", [45, 255], none, some "--values", some true⟩⟩ := by
  have hpaths : ∀ path ∈ Command.paths
      (.dump ⟨some "--", [45, 255], none, some "--values", some true⟩), path ≠ [] := by
    simp [Command.paths]
  have hrendering : Rendering (.dump ⟨some "--", [45, 255], none, some "--values", some true⟩)
      [Bytes.ofText "dump-sdk-bundle", Setting.word .values, Setting.word .resource,
        Bytes.ofText "--values", Setting.joined .bundle [45, 255], escapeWord,
        Bytes.ofText "--"] := by
    refine .intro [.setting .values (Bytes.ofText "true"),
      .setting .resource (Bytes.ofText "--values"), .setting .bundle [45, 255],
      .word (Bytes.ofText "--")] _ (by decide) ?_
    exact .cons .bare (.cons (.apart .resource _ (by decide) (.inl rfl))
      (.cons (.joined .bundle _) (.escaped _)))
  exact ⟨hpaths, hrendering, parse_rendering none _ _ hpaths hrendering⟩

end BundleInspect.CommandLine
