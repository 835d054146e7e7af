import BundleInspect.Proofs.CommandLine.Holdings

/-!
# Every word of a command line is accounted for

If the words of a level can be read, they fall into occurrences, and what was given is exactly what
occurred. `accounts_of_parse` says so of a whole command line: it can be taken apart, and the command
and the log are made of the occurrences.
-/

namespace BundleInspect.CommandLine

namespace Progress

variable {l : Level} {p p' : Progress} {g g' : Given} {s : Setting} {w : Word}

/-! ## Steps

A word that is taken settles what was pending, unless a setting waits for it. -/

/-- Leaves aside a setting that waits for its value. -/
def held (p : Progress) : Except Misuse Given :=
  match p.pending with
  | some (.waiting _) => .ok p.given
  | _ => p.settle

theorem settle_of_waiting (h : p.waiting? = some s) : p.settle = .error (.noValue s) := by
  unfold waiting? at h
  split at h
  · next s' hpending =>
    cases h
    simp only [settle, hpending]
  · cases h

theorem waiting?_of_settle (h : p.settle = .ok g) : p.waiting? = none := by
  cases hwaiting : p.waiting? with
  | none => rfl
  | some s =>
    rw [settle_of_waiting hwaiting] at h
    cases h

theorem held_of_not_waiting (h : p.waiting? = none) : p.held = p.settle := by
  unfold held
  split
  · next s hpending =>
    simp only [waiting?, hpending] at h
    cases h
  · rfl

theorem held_of_waiting (h : p.waiting? = some s) : p.held = .ok p.given := by
  unfold waiting? at h
  split at h
  · next s' hpending => simp only [held, hpending]
  · cases h

/-- The word is an occurrence, or a name that waits for a value. -/
inductive Takes (l : Level) (g : Given) (w : Word) (p' : Progress) : Prop where
  | whole (o : Occurrence) :
    Spells o [w] → l.Allows o → p'.waiting? = none →
      (∀ g', p'.settle = .ok g' → g.Gains o g') → Takes l g w p'
  | half (s : Setting) :
    s ≠ .values → s ∈ l.settings → w = s.word → p' = { given := g, pending := some (.waiting s) } →
      Takes l g w p'

theorem takes_of_occur {joined : Option Bytes} (hs : s ∈ l.settings)
    (hw : w = hyphen :: hyphen :: (Bytes.ofText s.long ++ (joined.map (equalsSign :: ·)).getD []))
    (h : p.occur s joined = .ok p') : ∃ g, p.settle = .ok g ∧ Takes l g w p' := by
  rw [occur, bind_eq_ok] at h
  obtain ⟨g, hg, h⟩ := h
  refine ⟨g, hg, ?_⟩
  have hgains {value : Bytes} {given : Given} (hadd : g.add s value = .ok given) (g' : Given)
      (hsettle : settle { given } = .ok g') : g.Gains (.piece (.setting s value)) g' := by
    cases hsettle
    exact Given.gains_of_add hadd
  cases joined with
  | some value =>
    rw [bind_eq_ok] at h
    obtain ⟨given, hadd, h⟩ := h
    cases h
    refine .whole (.piece (.setting s value)) ?_ hs rfl (hgains hadd)
    rw [hw, Option.map_some, Option.getD_some, ← s.joined_eq]
    exact .written (.joined s value)
  | none =>
    rw [Option.map_none, Option.getD_none, List.append_nil, ← s.word_eq] at hw
    dsimp only at h
    split_ifs at h with htakes
    · cases h
      exact .half s (bne_iff_ne.mp htakes) hs hw rfl
    · have hvalues : s = .values := by simpa [Setting.takesNextWord] using htakes
      subst hvalues
      rw [bind_eq_ok] at h
      obtain ⟨given, hadd, h⟩ := h
      cases h
      refine .whole (.piece (.setting .values (Bytes.ofText "true"))) ?_ hs rfl (hgains hadd)
      rw [hw]
      exact .written .bare

theorem switch_eq_ok {long : Bool} {sw : Switch} (h : p.switch l long sw = .ok p') :
    sw = .verbose ∧ ∃ g, p.settle = .ok g ∧ g.verbose = false ∧
      p' = { given := { g with verbose := true } } := by
  rw [switch, bind_eq_ok] at h
  obtain ⟨g, hg, h⟩ := h
  rw [mapError_eq_ok] at hg
  cases sw with
  | verbose =>
    dsimp only at h
    split_ifs at h with hverbose
    cases h
    exact ⟨rfl, g, hg, Bool.not_eq_true _ ▸ hverbose, rfl⟩
  | help | version => cases h

theorem takes_of_switch {long : Bool} {sw : Switch} (hw : Spells .verbose [w])
    (h : p.switch l long sw = .ok p') : ∃ g, p.settle = .ok g ∧ Takes l g w p' := by
  obtain ⟨-, g, hg, -, rfl⟩ := switch_eq_ok h
  refine ⟨g, hg, .whole .verbose hw trivial rfl fun g' hsettle => ?_⟩
  cases hsettle
  exact g.gains_verbose

theorem setting?_eq_some {name : String} (h : l.setting? name = some s) :
    s ∈ l.settings ∧ s.long = name := by
  unfold Level.setting? at h
  have hname := List.find?_some h
  exact ⟨List.mem_of_find?_eq_some h, eq_of_beq hname⟩

theorem longSwitch?_eq_some {name : String} {sw : Switch} (h : l.longSwitch? name = some sw) :
    sw.long = name := by
  unfold Level.longSwitch? at h
  have hname := List.find?_some h
  exact eq_of_beq hname

theorem shortSwitch?_eq_some {c : Char} {sw : Switch} (h : l.shortSwitch? c = some sw) :
    sw.short = c := by
  unfold Level.shortSwitch? at h
  have hletter := List.find?_some h
  exact eq_of_beq hletter

theorem takes_of_long {name : Bytes} {joined : Option Bytes}
    (hw : w = hyphen :: hyphen :: (name ++ (joined.map (equalsSign :: ·)).getD []))
    (h : p.long l name joined = .ok p') : ∃ g, p.settle = .ok g ∧ Takes l g w p' := by
  unfold long at h
  split at h
  case h_1 => cases h
  case h_2 text htext =>
    have hname := Bytes.ofText_of_text? htext
    subst hname
    split at h
    case h_1 s hs =>
      rw [mapError_eq_ok] at h
      obtain ⟨hmem, rfl⟩ := setting?_eq_some hs
      exact takes_of_occur hmem hw h
    case h_2 sw hsetting hsw =>
      have hlong := longSwitch?_eq_some hsw
      obtain ⟨rfl, -⟩ := switch_eq_ok h
      refine takes_of_switch ?_ h
      rw [hw, ← hlong]
      exact .verbose
    case h_3 | h_4 => cases h

theorem letters_cons_eq_ok {b : UInt8} {rest : Bytes}
    (h : letters l p (Bytes.heads (b :: rest)) = .ok p') :
    b = 118 ∧ ∃ g, p.settle = .ok g ∧ g.verbose = false ∧
      letters l { given := { g with verbose := true } } rest.heads = .ok p' := by
  rw [Bytes.heads] at h
  cases hhead : Bytes.head b rest with
  | broken size =>
    rw [hhead] at h
    cases h
  | char c size =>
    rw [hhead, letters] at h
    split at h
    case h_2 => cases h
    case h_1 sw hsw =>
      rw [bind_eq_ok] at h
      obtain ⟨p₁, hswitch, h⟩ := h
      obtain ⟨rfl, g, hg, hquiet, rfl⟩ := switch_eq_ok hswitch
      have hc := shortSwitch?_eq_some hsw
      subst hc
      obtain ⟨hb, rfl⟩ := Bytes.head_eq_char_of_ascii hhead (by decide) (by decide)
      exact ⟨UInt8.toNat_inj.mp hb, g, hg, hquiet, h⟩

theorem takes_of_letters {body : Bytes} (hbody : body ≠ []) (hw : w = hyphen :: body)
    (h : letters l p body.heads = .ok p') : ∃ g, p.settle = .ok g ∧ Takes l g w p' := by
  obtain ⟨b, rest, rfl⟩ := List.exists_cons_of_ne_nil hbody
  obtain ⟨rfl, g, hg, -, h⟩ := letters_cons_eq_ok h
  cases rest with
  | nil =>
    rw [Bytes.heads, letters] at h
    cases h
    refine ⟨g, hg, .whole .verbose ?_ trivial rfl fun g' hsettle => ?_⟩
    · rw [hw]
      exact .letter
    · cases hsettle
      exact g.gains_verbose
  | cons b' rest =>
    -- A second letter finds the log verbose already.
    obtain ⟨-, g', hg', hquiet, -⟩ := letters_cons_eq_ok h
    cases hg'
    cases hquiet

theorem word_eq_none_of_settle (hg : p.settle = .ok g) (h : p.hasWord = false) :
    g.word = none := by
  unfold settle at hg
  unfold hasWord at h
  split at hg
  case h_1 hpending =>
    cases hg
    simpa [hpending] using h
  case h_2 => cases hg
  case h_3 s value hpending =>
    rw [Given.word_of_add hg]
    simpa [hpending] using h
  case h_4 w hpending =>
    simp [hpending] at h

theorem free_eq_ok {escaped : Bool} (h : p.free l escaped w = .ok p') :
    l.Allows (.piece (.word w)) ∧ ∃ g, p.settle = .ok g ∧ p'.waiting? = none ∧
      ∀ g', p'.settle = .ok g' → g.Gains (.piece (.word w)) g' := by
  unfold free at h
  split_ifs at h with hfree
  rw [Bool.and_eq_true, Bool.not_eq_true'] at hfree
  rw [bind_eq_ok] at h
  obtain ⟨g, hg, h⟩ := h
  rw [mapError_eq_ok] at hg
  cases h
  refine ⟨hfree.1, g, hg, rfl, fun g' hsettle => ?_⟩
  rw [settle, bind_eq_ok] at hsettle
  obtain ⟨text, htext, hsettle⟩ := hsettle
  rw [readText_eq_ok_iff] at htext
  subst htext
  cases hsettle
  exact Given.gains_word (word_eq_none_of_settle hg hfree.2)

theorem takes_of_word (hwaiting : p.waiting? = none) (hescape : w ≠ escapeWord)
    (h : p.word l w = .ok p') : ∃ g, p.settle = .ok g ∧ Takes l g w p' := by
  unfold word at h
  split at h
  case h_1 name joined hparts => exact takes_of_long (eq_of_longParts? hparts) h
  case h_2 body hlong hshort =>
    obtain ⟨hw, hbody⟩ := eq_of_shortPart? hshort
    exact takes_of_letters hbody hw h
  case h_3 s hlong hshort hs =>
    rw [hwaiting] at hs
    cases hs
  case h_4 hlong hshort _ =>
    obtain ⟨hallows, g, hg, hwaiting', hgains⟩ := free_eq_ok h
    refine ⟨g, hg, .whole _ ?_ hallows hwaiting' hgains⟩
    rcases head?_ne_or_lone hlong hshort hescape with hhead | rfl
    · exact .written (.free w hhead)
    · exact .loneWord

theorem fill_of_word (hwaiting : p.waiting? = some s) (hescape : w ≠ escapeWord)
    (h : p.word l w = .ok p') :
    p' = p.fill s w ∧ (w.head? ≠ some hyphen ∨ w = [hyphen]) := by
  have hnever (g : Given) : p.settle ≠ .ok g := by
    rw [settle_of_waiting hwaiting]
    nofun
  unfold word at h
  split at h
  case h_1 name joined hparts =>
    obtain ⟨g, hg, -⟩ := takes_of_long (eq_of_longParts? hparts) h
    exact absurd hg (hnever g)
  case h_2 body hlong hshort =>
    obtain ⟨hw, hbody⟩ := eq_of_shortPart? hshort
    obtain ⟨g, hg, -⟩ := takes_of_letters hbody hw h
    exact absurd hg (hnever g)
  case h_3 s' hlong hshort hs =>
    rw [hwaiting] at hs
    cases hs
    cases h
    exact ⟨rfl, head?_ne_or_lone hlong hshort hescape⟩
  case h_4 hnone =>
    rw [hwaiting] at hnone
    cases hnone

end Progress

/-! ## Runs -/

inductive Resumes (l : Level) (p : Progress) : List Occurrence → Ending → List Word → Prop where
  | settled {os : List Occurrence} {ending : Ending} {words : List Word} :
    p.waiting? = none → Splits l os ending words → Resumes l p os ending words
  | value {os : List Occurrence} {ending : Ending} {more : List Word} (s : Setting) (value : Word) :
    p.waiting? = some s → s = .resource ∨ value.head? ≠ some hyphen ∨ value = [hyphen] →
      Splits l os ending more →
        Resumes l p (.piece (.setting s value) :: os) ending (value :: more)

theorem spells_apart {s : Setting} {value : Word} (hs : s ≠ .values)
    (h : s = .resource ∨ value.head? ≠ some hyphen ∨ value = [hyphen]) :
    Spells (.piece (.setting s value)) [s.word, value] := by
  rcases h with hresource | hhead | rfl
  · exact .written (.apart s value hs (.inl hresource))
  · exact .written (.apart s value hs (.inr hhead))
  · exact .loneValue s hs

section
variable {l : Level} {p : Progress} {g' : Given} {r : Reading} {words : List Word}

theorem readWords_escaped_accounts (h : readWords l true p words = .ok r)
    (hsettle : r.progress.settle = .ok g') :
    r.command = none ∧ ∃ g, p.settle = .ok g ∧
      (∀ w ∈ words, l.Allows (.piece (.word w))) ∧
      g.Gathers (words.map fun w => .piece (.word w)) g' := by
  induction words generalizing p with
  | nil =>
    rw [readWords] at h
    cases h
    exact ⟨rfl, g', hsettle, by simp, .nil g'⟩
  | cons w more ih =>
    rw [readWords, bind_eq_ok] at h
    obtain ⟨p', hfree, h⟩ := h
    obtain ⟨hcommand, g₁, hg₁, hallows, hgathers⟩ := ih h
    obtain ⟨hallow, g, hg, -, hgains⟩ := Progress.free_eq_ok hfree
    exact ⟨hcommand, g, hg, List.forall_mem_cons.mpr ⟨hallow, hallows⟩,
      .cons (hgains g₁ hg₁) hgathers⟩

theorem readWords_waiting_eq_ok {s : Setting} {w : Word} {more : List Word}
    (hwaiting : p.waiting? = some s) (h : readWords l false p (w :: more) = .ok r) :
    (w = escapeWord ∧ readWords l true p more = .ok r) ∨
    ((s = .resource ∨ w.head? ≠ some hyphen ∨ w = [hyphen]) ∧
      readWords l false (p.fill s w) more = .ok r) := by
  rw [readWords, hwaiting] at h
  dsimp only at h
  split_ifs at h with hany hescape
  · exact .inr ⟨.inl (eq_of_beq hany), h⟩
  · exact .inl ⟨hescape, h⟩
  · rw [bind_eq_ok] at h
    obtain ⟨p', hword, h⟩ := h
    obtain ⟨rfl, hvalue⟩ := Progress.fill_of_word hwaiting hescape hword
    exact .inr ⟨.inr hvalue, h⟩

theorem readWords_cons_eq_ok {w : Word} {more : List Word}
    (hwaiting : p.waiting? = none) (h : readWords l false p (w :: more) = .ok r) :
    (∃ c, l = .root ∧ w = Bytes.ofText c.word ∧ r = ⟨p, some (c, more)⟩) ∨
    (w = escapeWord ∧ readWords l true p more = .ok r) ∨
    ∃ g p', p.settle = .ok g ∧ Progress.Takes l g w p' ∧
      readWords l false p' more = .ok r := by
  rw [readWords, hwaiting] at h
  dsimp only at h
  have hrest (h : (if w = escapeWord then readWords l true p more
      else p.word l w >>= fun p' => readWords l false p' more) = .ok r) :
      (w = escapeWord ∧ readWords l true p more = .ok r) ∨
      ∃ g p', p.settle = .ok g ∧ Progress.Takes l g w p' ∧
        readWords l false p' more = .ok r := by
    split_ifs at h with hescape
    · exact .inl ⟨hescape, h⟩
    · rw [bind_eq_ok] at h
      obtain ⟨p', hword, h⟩ := h
      obtain ⟨g, hg, htakes⟩ := Progress.takes_of_word hwaiting hescape hword
      exact .inr ⟨g, p', hg, htakes, h⟩
  by_cases hhelp : l = .root ∧ w = helpWord
  · rw [if_pos hhelp] at h
    cases h
  rw [if_neg hhelp] at h
  split at h
  case h_1 c hc =>
    by_cases hroot : l = .root
    · rw [if_pos hroot] at hc
      cases h
      exact .inl ⟨c, hroot, word_of_ofWord? hc, rfl⟩
    · rw [if_neg hroot] at hc
      cases hc
  case h_2 => exact .inr (hrest h)

theorem resumes_of_fill {s : Setting} {w : Word} {more : List Word} {os : List Occurrence}
    {ending : Ending} {g₁ : Given} (hwaiting : p.waiting? = some s)
    (hvalue : s = .resource ∨ w.head? ≠ some hyphen ∨ w = [hyphen])
    (hheld : (p.fill s w).held = .ok g₁) (hresumes : Resumes l (p.fill s w) os ending more)
    (hgathers : g₁.Gathers os g') :
    ∃ os', Resumes l p os' ending (w :: more) ∧ p.given.Gathers os' g' := by
  cases hresumes with
  | settled _ hsplits =>
    exact ⟨_, .value s w hwaiting hvalue hsplits, .cons (Given.gains_of_add hheld) hgathers⟩
  | value s' value hwaiting' => cases hwaiting'

theorem splits_of_takes {g g₁ : Given} {w : Word} {p' : Progress} {more : List Word}
    {os : List Occurrence} {ending : Ending} (htakes : Progress.Takes l g w p')
    (hheld : p'.held = .ok g₁) (hresumes : Resumes l p' os ending more)
    (hgathers : g₁.Gathers os g') :
    ∃ os', Splits l os' ending (w :: more) ∧ g.Gathers os' g' := by
  cases htakes with
  | whole o hspells hallows hwaiting hgains =>
    rw [Progress.held_of_not_waiting hwaiting] at hheld
    cases hresumes with
    | settled _ hsplits =>
      exact ⟨_, .cons hspells hallows hsplits, .cons (hgains g₁ hheld) hgathers⟩
    | value s value hwaiting' =>
      rw [hwaiting] at hwaiting'
      cases hwaiting'
  | half s hs hmem hw hp' =>
    -- The name alone gives nothing; with the next word it spells one occurrence.
    subst hw hp'
    cases hheld
    cases hresumes with
    | settled hwaiting => cases hwaiting
    | value s' value hwaiting hvalue hsplits =>
      cases hwaiting
      exact ⟨_, .cons (spells_apart hs hvalue) hmem hsplits, hgathers⟩

theorem readWords_accounts (h : readWords l false p words = .ok r)
    (hsettle : r.progress.settle = .ok g') :
    ∃ g os, p.held = .ok g ∧ Resumes l p os r.command words ∧ g.Gathers os g' := by
  -- A setting may wait for its value between two words, so the statement is about what is held
  -- leaving it aside, and the value that comes next is the first occurrence.
  induction words generalizing p with
  | nil =>
    rw [readWords] at h
    cases h
    have hwaiting := Progress.waiting?_of_settle hsettle
    exact ⟨g', [], (Progress.held_of_not_waiting hwaiting).trans hsettle, .settled hwaiting .done,
      .nil g'⟩
  | cons w more ih =>
    cases hwaiting : p.waiting? with
    | some s =>
      rcases readWords_waiting_eq_ok hwaiting h with ⟨-, hread⟩ | ⟨hvalue, hread⟩
      · obtain ⟨-, g, hg, -⟩ := readWords_escaped_accounts hread hsettle
        rw [Progress.settle_of_waiting hwaiting] at hg
        cases hg
      · obtain ⟨g₁, os, hheld, hresumes, hgathers⟩ := ih hread
        obtain ⟨os', hresumes', hgathers'⟩ :=
          resumes_of_fill hwaiting hvalue hheld hresumes hgathers
        exact ⟨p.given, os', Progress.held_of_waiting hwaiting, hresumes', hgathers'⟩
    | none =>
      have hheld := Progress.held_of_not_waiting hwaiting
      rcases readWords_cons_eq_ok hwaiting h with ⟨c, hroot, rfl, rfl⟩ | ⟨rfl, hread⟩ |
        ⟨g, p', hg, htakes, hread⟩
      · exact ⟨g', [], hheld.trans hsettle, .settled hwaiting (.command c more hroot), .nil g'⟩
      · obtain ⟨hnone, g, hg, hallows, hgathers⟩ := readWords_escaped_accounts hread hsettle
        rw [hnone]
        exact ⟨g, _, hheld.trans hg, .settled hwaiting (.escaped more hallows), hgathers⟩
      · obtain ⟨g₁, os, hheld', hresumes, hgathers⟩ := ih hread
        obtain ⟨os', hsplits, hgathers'⟩ := splits_of_takes htakes hheld' hresumes hgathers
        exact ⟨g, os', hheld.trans hg, .settled hwaiting hsplits, hgathers'⟩

theorem readWords_accounts_empty (h : readWords l false {} words = .ok r)
    (hsettle : r.progress.settle = .ok g') :
    ∃ os, Splits l os r.command words ∧ ({} : Given).Gathers os g' := by
  obtain ⟨g, os, hheld, hresumes, hgathers⟩ := readWords_accounts h hsettle
  cases hheld
  cases hresumes with
  | settled _ hsplits => exact ⟨os, hsplits, hgathers⟩
  | value s value hwaiting => cases hwaiting

end

/-! ## Command lines -/

/-- `outer` was given before the command, and `inner` after it. -/
structure Accounts (env : Option Bytes) (i : Invocation) (d : Division) (outer inner : Given) :
    Prop where
  before : ({} : Given).Gathers d.before outer
  after : ({} : Given).Gathers d.after inner
  command : inner.command d.command = .ok i.command
  verbose : i.verbose = (outer.verbose || inner.verbose)
  log : i.log = inner.log.or (outer.log.or (env.bind Bytes.text?))
  environment : outer.log ≠ none ∧ inner.log ≠ none ∨
    ∃ text : Option String, env = text.map Bytes.ofText

theorem Given.consult_eq_ok_iff {g : Given} {env : Option Bytes} :
    g.consult env = .ok () ↔
      g.log ≠ none ∨ ∃ text : Option String, env = text.map Bytes.ofText := by
  constructor
  · intro h
    cases env with
    | none => exact .inr ⟨none, rfl⟩
    | some value =>
      unfold consult at h
      split_ifs at h with hlog
      · exact .inl (Option.isSome_iff_ne_none.mp hlog)
      · cases hvalue : readText value with
        | ok text =>
          rw [readText_eq_ok_iff] at hvalue
          exact .inr ⟨some text, congrArg some hvalue⟩
        | error m =>
          simp only [hvalue] at h
          cases h
  · rintro (hlog | ⟨text, rfl⟩)
    · have hhas : g.has .log = true := Option.isSome_iff_ne_none.mpr hlog
      cases env with
      | none => rfl
      | some value => simp [consult, hhas]
    · exact g.consult_text text

theorem accounts_of_parse {env : Option Bytes} {words : List Word} {i : Invocation}
    (h : parse env words = .ok i) :
    ∃ d outer inner, Divides words d ∧ Accounts env i d outer inner := by
  obtain ⟨p, c, more, outer, inner, hread, houter, hcommand, hconsult, hverbose, hlog⟩ :=
    parse_eq_ok_iff.mp h
  obtain ⟨r, hread', hinner, hconsult', hcommand⟩ := readCommand_eq_ok_iff.mp hcommand
  obtain ⟨before, hsplits, hbefore⟩ := readWords_accounts_empty hread houter
  obtain ⟨after, hsplits', hafter⟩ := readWords_accounts_empty hread' hinner
  rw [hsplits'.ending_eq_none] at hsplits'
  rw [Given.consult_eq_ok_iff] at hconsult hconsult'
  exact ⟨⟨before, c, after⟩, outer, inner, .intro more hsplits hsplits',
    ⟨hbefore, hafter, hcommand, hverbose, hlog, and_or_right.mpr ⟨hconsult, hconsult'⟩⟩⟩

end BundleInspect.CommandLine
