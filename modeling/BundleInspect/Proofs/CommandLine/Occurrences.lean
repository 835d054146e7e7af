import BundleInspect.Proofs.CommandLine.Rendering

/-!
# Taking command lines apart

The words of a command line fall into occurrences: of a setting with its value, of the switch for a
verbose log, and of free words. `divides_unique`: they do so in one way at most. A word that is the
value of a setting, or stands after `--`, is therefore no occurrence of anything else.
-/

namespace BundleInspect.CommandLine

/-! ## Occurrences -/

inductive Occurrence where
  | piece (p : Piece)
  | verbose
  deriving DecidableEq

def verboseWord : Word :=
  Bytes.ofText "--verbose"

def verboseLetter : Word :=
  Bytes.ofText "-v"

/-- A hyphen that stands alone may be a value or a free word. -/
inductive Spells : Occurrence → List Word → Prop where
  | written {piece : Piece} {words : List Word} :
    Written piece words → Spells (.piece piece) words
  | loneValue (s : Setting) :
    s ≠ .values → Spells (.piece (.setting s [hyphen])) [s.word, [hyphen]]
  | loneWord : Spells (.piece (.word [hyphen])) [[hyphen]]
  | verbose : Spells .verbose [verboseWord]
  | letter : Spells .verbose [verboseLetter]

/-! ## Words of a level -/

abbrev Ending :=
  Option (CommandName × List Word)

def Level.Allows (l : Level) : Occurrence → Prop
  | .piece p => l.takes p
  | .verbose => True

/-- After `--` every word is a free one. -/
inductive Splits (l : Level) : List Occurrence → Ending → List Word → Prop where
  | done : Splits l [] none []
  | command (c : CommandName) (more : List Word) :
    l = .root → Splits l [] (some (c, more)) (Bytes.ofText c.word :: more)
  | cons {o : Occurrence} {os : List Occurrence} {ending : Ending} {words more : List Word} :
    Spells o words → l.Allows o → Splits l os ending more → Splits l (o :: os) ending (words ++ more)
  | escaped (ws : List Word) :
    (∀ w ∈ ws, l.Allows (.piece (.word w))) →
      Splits l (ws.map fun w => .piece (.word w)) none (escapeWord :: ws)

structure Division where
  before : List Occurrence
  command : CommandName
  after : List Occurrence

inductive Divides (words : List Word) : Division → Prop where
  | intro {before after : List Occurrence} {c : CommandName} (more : List Word) :
    Splits .root before (some (c, more)) words → Splits (.command c) after none more →
      Divides words ⟨before, c, after⟩

/-! ## The first occurrence -/

def named? (name : Bytes) : Option Setting :=
  Setting.all.find? fun s => Bytes.ofText s.long == name

/-- The first occurrence in some words, and the words after it. -/
def first? : List Word → Option (Occurrence × List Word)
  | [] => none
  | w :: more =>
    match longParts? w with
    | some (name, some value) => (named? name).map fun s => (.piece (.setting s value), more)
    | some (name, none) =>
      if name = Bytes.ofText Switch.verbose.long then some (.verbose, more)
      else
        match named? name, more with
        | some .values, _ => some (.piece (.setting .values (Bytes.ofText "true")), more)
        | some s, value :: rest => some (.piece (.setting s value), rest)
        | _, _ => none
    | none =>
      if w = verboseLetter then some (.verbose, more)
      else if w = escapeWord then none
      else some (.piece (.word w), more)

theorem named?_long (s : Setting) : named? (Bytes.ofText s.long) = some s := by
  cases s <;> decide

theorem long_ne_verbose (s : Setting) :
    Bytes.ofText s.long ≠ Bytes.ofText Switch.verbose.long := by
  cases s <;> decide

theorem first?_joined (s : Setting) (value : Bytes) (more : List Word) :
    first? (s.joined value :: more) = some (.piece (.setting s value), more) := by
  simp only [first?, longParts?_joined, named?_long, Option.map_some]

theorem first?_apart {s : Setting} (hs : s ≠ .values) (value : Word) (more : List Word) :
    first? (s.word :: value :: more) = some (.piece (.setting s value), more) := by
  simp only [first?, longParts?_word, named?_long, long_ne_verbose s, ↓reduceIte]

theorem first?_bare (more : List Word) :
    first? (Setting.word .values :: more) =
      some (.piece (.setting .values (Bytes.ofText "true")), more) := by
  simp only [first?, longParts?_word, named?_long, long_ne_verbose .values, ↓reduceIte]

theorem first?_free {w : Word} (h : w.head? ≠ some hyphen) (more : List Word) :
    first? (w :: more) = some (.piece (.word w), more) := by
  have hletter : w ≠ verboseLetter := by
    rintro rfl
    exact h (by decide)
  simp only [first?, longParts?_of_head h, hletter, ne_escapeWord_of_head h, ↓reduceIte]

theorem first?_of_spells {o : Occurrence} {words : List Word} (h : Spells o words)
    (more : List Word) : first? (words ++ more) = some (o, more) := by
  cases h with
  | written hwritten =>
    cases hwritten with
    | joined s value => exact first?_joined s value more
    | apart s value hs _ => exact first?_apart hs value more
    | bare => exact first?_bare more
    | free w hhead => exact first?_free hhead more
  | loneValue s hs => exact first?_apart hs [hyphen] more
  | loneWord | verbose | letter => rfl

theorem first?_command (c : CommandName) (more : List Word) :
    first? (Bytes.ofText c.word :: more) = some (.piece (.word (Bytes.ofText c.word)), more) := by
  refine first?_free ?_ more
  cases c <;> decide

/-! ## One division -/

theorem Splits.cases_first {l : Level} {os : List Occurrence} {ending : Ending} {words : List Word}
    (h : Splits l os ending words) :
    (words = [] ∧ os = [] ∧ ending = none) ∨
    (∃ c more, l = .root ∧ words = Bytes.ofText c.word :: more ∧ os = [] ∧
      ending = some (c, more)) ∨
    (∃ o os' more, first? words = some (o, more) ∧ l.Allows o ∧ os = o :: os' ∧
      Splits l os' ending more) ∨
    (∃ ws, words = escapeWord :: ws ∧ os = ws.map (fun w => .piece (.word w)) ∧
      ending = none) := by
  cases h with
  | done => exact .inl ⟨rfl, rfl, rfl⟩
  | command c more hroot => exact .inr (.inl ⟨c, more, hroot, rfl, rfl, rfl⟩)
  | cons hspells hallows hsplits =>
    exact .inr (.inr (.inl ⟨_, _, _, first?_of_spells hspells _, hallows, rfl, hsplits⟩))
  | escaped ws _ => exact .inr (.inr (.inr ⟨ws, rfl, rfl, rfl⟩))

theorem not_allows_first?_command {l : Level} {c : CommandName} {more rest : List Word}
    {o : Occurrence} (hroot : l = .root)
    (h : first? (Bytes.ofText c.word :: more) = some (o, rest)) : ¬ l.Allows o := by
  rw [first?_command] at h
  cases h
  subst hroot
  exact Bool.false_ne_true

theorem Splits.ending_eq_none {c : CommandName} {os : List Occurrence} {ending : Ending}
    {words : List Word} (h : Splits (.command c) os ending words) : ending = none := by
  induction h with
  | done | escaped => rfl
  | command c' more hroot => cases hroot
  | cons _ _ _ ih => exact ih

theorem splits_unique {l : Level} {os os' : List Occurrence} {ending ending' : Ending}
    {words : List Word} (h : Splits l os ending words) (h' : Splits l os' ending' words) :
    os = os' ∧ ending = ending' := by
  -- By induction on the first split. What begins the words decides how the second one goes on.
  induction h generalizing os' with
  | done =>
    rcases h'.cases_first with ⟨-, rfl, rfl⟩ | ⟨c, more, -, hwords, -⟩ | ⟨o, os, more, hfirst, -⟩ |
      ⟨ws, hwords, -⟩
    · exact ⟨rfl, rfl⟩
    · cases hwords
    · cases hfirst
    · cases hwords
  | command c more hroot =>
    rcases h'.cases_first with ⟨hwords, -⟩ | ⟨c', more', -, hwords, rfl, rfl⟩ |
      ⟨o, os, rest, hfirst, hallows, -⟩ | ⟨ws, hwords, -⟩
    · cases hwords
    · obtain ⟨hword, rfl⟩ := List.cons.inj hwords
      have hc := congrArg CommandName.ofWord? hword
      rw [ofWord?_word, ofWord?_word] at hc
      cases hc
      exact ⟨rfl, rfl⟩
    · exact absurd hallows (not_allows_first?_command hroot hfirst)
    · exact absurd (List.cons.inj hwords).1 (by cases c <;> decide)
  | @cons o os ending words more hspells hallows _ ih =>
    have hfirst := first?_of_spells hspells more
    rcases h'.cases_first with ⟨hwords, -⟩ | ⟨c, more', hroot, hwords, -⟩ |
      ⟨o', os', more', hfirst', -, rfl, hsplits'⟩ | ⟨ws, hwords, -⟩
    · rw [hwords] at hfirst
      cases hfirst
    · rw [hwords] at hfirst
      exact absurd hallows (not_allows_first?_command hroot hfirst)
    · rw [hfirst] at hfirst'
      cases hfirst'
      obtain ⟨rfl, rfl⟩ := ih hsplits'
      exact ⟨rfl, rfl⟩
    · rw [hwords] at hfirst
      cases hfirst
  | escaped ws _ =>
    rcases h'.cases_first with ⟨hwords, -⟩ | ⟨c, more, -, hwords, -⟩ | ⟨o, os, more, hfirst, -⟩ |
      ⟨ws', hwords, rfl, rfl⟩
    · cases hwords
    · exact absurd (List.cons.inj hwords).1 (by cases c <;> decide)
    · cases hfirst
    · cases hwords
      exact ⟨rfl, rfl⟩

theorem divides_unique {words : List Word} {d d' : Division} (h : Divides words d)
    (h' : Divides words d') : d = d' := by
  cases h with
  | intro more hroot hafter =>
    cases h' with
    | intro more' hroot' hafter' =>
      obtain ⟨rfl, hending⟩ := splits_unique hroot hroot'
      cases hending
      obtain ⟨rfl, -⟩ := splits_unique hafter hafter'
      rfl

end BundleInspect.CommandLine
