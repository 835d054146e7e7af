import BundleInspect.Proofs.CommandLine.Occurrences
import Mathlib.Data.List.Induction

/-!
# Settings given twice and settings left out

After a command with settings of its own come groups, each of which gives one of them a value.
`parse_groups`: such a command line is read if and only if none is given twice and none that is needed
is left out. Otherwise the first that is given again is told, and if there is none, what is left out.
-/

namespace BundleInspect.CommandLine

/-! ## Groups -/

namespace CommandName

def ownSettings : CommandName → List Setting
  | dumpSdkBundle => [.bundle, .xpath, .resource, .values]
  | extractApk => [.apks, .deviceSpec, .outputDir]
  | version | completions => []

def neededSettings : CommandName → List Setting
  | dumpSdkBundle => [.bundle]
  | extractApk => [.apks, .deviceSpec, .outputDir]
  | version | completions => []

end CommandName

abbrev Group :=
  Setting × Bytes

abbrev Group.piece (group : Group) : Piece :=
  .setting group.1 group.2

/-- Words that give settings of a command values that they accept. -/
inductive Groups (c : CommandName) : List Group → List Word → Prop where
  | nil : Groups c [] []
  | cons {group : Group} {groups : List Group} {words more : List Word} :
    group.1 ∈ c.ownSettings → group.piece.Fits → Spells (.piece group.piece) words →
      Groups c groups more → Groups c (group :: groups) (words ++ more)

def occurring (groups : List Group) : List Setting :=
  groups.map Prod.fst

/-- Whether the second occurrence of a setting is the first second occurrence of any. -/
inductive RepeatedFirst (s : Setting) : List Group → Prop where
  | intro (before after : List Group) (value : Bytes) :
    (occurring before).Nodup → s ∈ occurring before →
      RepeatedFirst s (before ++ (s, value) :: after)

theorem exists_repeatedFirst {groups : List Group} (h : ¬ (occurring groups).Nodup) :
    ∃ s, RepeatedFirst s groups := by
  -- From the end: the first repetition is before the last group, or the last group is the first.
  induction groups using List.reverseRecOn with
  | nil => exact absurd List.nodup_nil h
  | append_singleton groups group ih =>
    by_cases hnodup : (occurring groups).Nodup
    · refine ⟨group.1, .intro groups [] group.2 hnodup ?_⟩
      by_contra hnew
      refine h ?_
      rw [occurring, List.map_append]
      exact List.Nodup.append hnodup (List.nodup_singleton _) (List.disjoint_singleton.mpr hnew)
    · obtain ⟨s, before, after, value, hbefore, hs⟩ := ih hnodup
      refine ⟨s, ?_⟩
      rw [List.append_assoc, List.cons_append]
      exact .intro before _ value hbefore hs

theorem RepeatedFirst.not_nodup {s : Setting} {groups : List Group} (h : RepeatedFirst s groups) :
    ¬ (occurring groups).Nodup := by
  obtain ⟨before, after, value, -, hs⟩ := h
  rw [occurring, List.map_append, List.nodup_append]
  rintro ⟨-, -, hdisjoint⟩
  exact hdisjoint s hs s (by simp) rfl

/-! ## Values one after the other -/

namespace Given

variable {g : Given} {s : Setting} {groups : List Group}

def addAll (g : Given) (groups : List Group) : Except Misuse Given :=
  groups.foldlM (fun g group => g.add group.1 group.2) g

theorem addAll_cons (group : Group) :
    g.addAll (group :: groups) = g.add group.1 group.2 >>= fun g' => g'.addAll groups :=
  rfl

theorem add_of_has (h : g.has s = true) (value : Bytes) :
    g.add s value = .error (.repeated (.setting s)) := by
  rw [add, if_pos h]

theorem has_give {group : Group} (hfits : group.piece.Fits) :
    (g.give group.piece).has s = true ↔ group.1 = s ∨ g.has s = true := by
  by_cases hs : group.1 = s
  · subst hs
    obtain ⟨s, value⟩ := group
    cases s <;> simp_all [give, has, Piece.Fits]
  · have hslot : group.piece.slot ≠ some s := by simpa [Piece.slot] using hs
    have hsame : (g.give group.piece).has s = g.has s := g.filled_give hslot
    simp [hsame, hs]

theorem addAll_of_nodup (hfits : ∀ group ∈ groups, group.piece.Fits)
    (hnew : ∀ group ∈ groups, g.has group.1 = false) (hnodup : (occurring groups).Nodup) :
    ∃ g', g.addAll groups = .ok g' ∧
      ∀ s, g'.has s = true ↔ g.has s = true ∨ s ∈ occurring groups := by
  -- What was given so far grows group by group; the settings still to come have no value yet.
  induction groups generalizing g with
  | nil => exact ⟨g, rfl, by simp [occurring]⟩
  | cons group groups ih =>
    rw [List.forall_mem_cons] at hfits hnew
    obtain ⟨hfresh, hnodup⟩ := List.nodup_cons.mp hnodup
    have hnew' : ∀ group' ∈ groups, (g.give group.piece).has group'.1 = false := by
      intro group' hmem
      rw [← Bool.not_eq_true, has_give hfits.1, not_or, Bool.not_eq_true]
      refine ⟨?_, hnew.2 group' hmem⟩
      intro hsame
      exact hfresh (List.mem_map.mpr ⟨group', hmem, hsame.symm⟩)
    obtain ⟨g', hadd, hhas⟩ := ih hfits.2 hnew' hnodup
    refine ⟨g', ?_, fun s => ?_⟩
    · rw [addAll_cons, g.add_of_fits hfits.1 hnew.1]
      exact hadd
    · rw [hhas, has_give hfits.1, occurring, occurring, List.map_cons, List.mem_cons]
      tauto

theorem addAll_of_repeatedFirst (hfits : ∀ group ∈ groups, group.piece.Fits)
    (h : RepeatedFirst s groups) :
    ({} : Given).addAll groups = .error (.repeated (.setting s)) := by
  obtain ⟨before, after, value, hnodup, hs⟩ := h
  rw [List.forall_mem_append] at hfits
  obtain ⟨g', hadd, hhas⟩ :=
    addAll_of_nodup hfits.1 (fun group _ => filled_empty (some group.1)) hnodup
  rw [addAll, List.foldlM_append]
  show (({} : Given).addAll before).bind (fun g' => g'.addAll ((s, value) :: after)) = _
  rw [hadd]
  show g'.addAll ((s, value) :: after) = _
  rw [addAll_cons, add_of_has ((hhas s).mpr (.inr hs))]
  rfl

end Given

/-! ## Reading groups -/

section
variable {l : Level} {c : CommandName} {p : Progress} {g : Given} {s : Setting}
  {words more : List Word} {groups : List Group}

def gather (l : Level) (p : Progress) (words : List Word) : Except Stop Given :=
  readWords l false p words >>= fun r => r.progress.settle.mapError .misuse

theorem occur_eq (p : Progress) (s : Setting) (joined : Option Bytes) :
    p.occur s joined = p.settle >>= fun g => Progress.occur { given := g } s joined := by
  cases hsettle : p.settle with
  | error m => rw [Progress.occur, hsettle]; rfl
  | ok g => rw [Progress.occur, hsettle]; rfl

theorem exists_name {value : Bytes} (h : Spells (.piece (.setting s value)) words) :
    ∃ w rest joined, words = w :: rest ∧ longParts? w = some (Bytes.ofText s.long, joined) := by
  cases h with
  | written hwritten =>
    cases hwritten with
    | joined => exact ⟨_, _, _, rfl, longParts?_joined s value⟩
    | apart => exact ⟨_, _, _, rfl, longParts?_word s⟩
    | bare => exact ⟨_, _, _, rfl, longParts?_word .values⟩
  | loneValue => exact ⟨_, _, _, rfl, longParts?_word s⟩

theorem mem_settings_of_mem_ownSettings (h : s ∈ c.ownSettings) :
    s ∈ (Level.command c).settings := by
  revert h
  cases c <;> cases s <;> decide

theorem gather_settle (h : Groups c groups words) (hp : p.waiting? = none) :
    gather (.command c) p words =
      p.settle.mapError .misuse >>= fun g => gather (.command c) { given := g } words := by
  -- Either way it is settled next: at the end of the words, or by the name that is the next word.
  cases h with
  | nil =>
    show p.settle.mapError Stop.misuse = _
    cases p.settle <;> rfl
  | @cons group groups words more hown _ hspells _ =>
    obtain ⟨w, rest, joined, rfl, hparts⟩ := exists_name hspells
    have hs := mem_settings_of_mem_ownSettings hown
    rw [List.cons_append, gather, readWords_name hp hs hparts, occur_eq]
    cases hsettle : p.settle with
    | error m => rfl
    | ok g =>
      show _ = gather (.command c) { given := g } (w :: (rest ++ more))
      rw [gather, readWords_name rfl hs hparts]
      rfl

theorem gather_whole {w : Word} {value : Bytes} {joined : Option Bytes}
    (hs : s ∈ l.settings) (hparts : longParts? w = some (Bytes.ofText s.long, joined))
    (hoccur : Progress.occur { given := g } s joined =
      g.add s value >>= fun g' => .ok { given := g' }) (more : List Word) :
    gather l { given := g } (w :: more) =
      (g.add s value).mapError .misuse >>= fun g' => gather l { given := g' } more := by
  rw [gather, readWords_name rfl hs hparts, hoccur]
  cases g.add s value <;> rfl

theorem gather_apart {value : Bytes} (hs : s ∈ (Level.command c).settings) (hvalues : s ≠ .values)
    (hvalue : s = .resource ∨ value.head? ≠ some hyphen ∨ value = [hyphen])
    (hmore : Groups c groups more) :
    gather (.command c) { given := g } (s.word :: value :: more) =
      (g.add s value).mapError .misuse >>= fun g' => gather (.command c) { given := g' } more := by
  rw [gather, readWords_name rfl hs (longParts?_word s),
    Progress.occur_apart (Progress.settles_given g) hvalues]
  show gather _ { given := g, pending := some (.waiting s) } (value :: more) = _
  rw [gather, readWords_value hvalue]
  exact gather_settle hmore rfl

theorem gather_group {group : Group} (hown : group.1 ∈ c.ownSettings)
    (hspells : Spells (.piece group.piece) words) (hmore : Groups c groups more) :
    gather (.command c) { given := g } (words ++ more) =
      (g.add group.1 group.2).mapError .misuse >>= fun g' =>
        gather (.command c) { given := g' } more := by
  obtain ⟨s, value⟩ := group
  have hs := mem_settings_of_mem_ownSettings hown
  cases hspells with
  | written hwritten =>
    cases hwritten with
    | joined => exact gather_whole hs (longParts?_joined s value) rfl more
    | apart _ _ hvalues hvalue => exact gather_apart hs hvalues (hvalue.imp_right .inl) hmore
    | bare => exact gather_whole hs (longParts?_word .values) rfl more
  | loneValue _ hvalues => exact gather_apart hs hvalues (.inr (.inr rfl)) hmore

theorem gather_groups (h : Groups c groups words) (g : Given) :
    gather (.command c) { given := g } words = (g.addAll groups).mapError .misuse := by
  induction h generalizing g with
  | nil => rfl
  | cons hown _ hspells hmore ih =>
    rw [gather_group hown hspells hmore, Given.addAll_cons]
    cases g.add _ _ with
    | error m => rfl
    | ok g' => exact ih g'

theorem Groups.fits (h : Groups c groups words) : ∀ group ∈ groups, group.piece.Fits := by
  induction h with
  | nil => simp
  | cons _ hfits _ _ ih => exact List.forall_mem_cons.mpr ⟨hfits, ih⟩

end

/-! ## Commands -/

namespace Given

variable {g : Given} {c : CommandName}

theorem exists_command (hc : c.ownSettings ≠ []) (h : ∀ s ∈ c.neededSettings, g.has s = true) :
    ∃ command, g.command c = .ok command := by
  cases c with
  | dumpSdkBundle =>
    simp only [CommandName.neededSettings, List.forall_mem_singleton, has] at h
    obtain ⟨bundle, hbundle⟩ := Option.isSome_iff_exists.mp h
    exact ⟨_, by rw [command, hbundle]⟩
  | extractApk =>
    simp only [CommandName.neededSettings, List.forall_mem_cons, has] at h
    obtain ⟨hapks, hdeviceSpec, houtputDir, -⟩ := h
    obtain ⟨apks, hapks⟩ := Option.isSome_iff_exists.mp hapks
    obtain ⟨deviceSpec, hdeviceSpec⟩ := Option.isSome_iff_exists.mp hdeviceSpec
    obtain ⟨outputDir, houtputDir⟩ := Option.isSome_iff_exists.mp houtputDir
    exact ⟨_, by rw [command, hapks, hdeviceSpec, houtputDir]⟩
  | version | completions => exact absurd rfl hc

theorem command_of_lacking (hc : c.ownSettings ≠ [])
    (h : ¬ ∀ s ∈ c.neededSettings, g.has s = true) :
    g.command c = .error (g.lacking c.neededSettings) := by
  cases c with
  | dumpSdkBundle =>
    simp only [CommandName.neededSettings, List.forall_mem_singleton, has] at h
    rw [Option.not_isSome_iff_eq_none] at h
    rw [command, h]
    rfl
  | extractApk =>
    rw [command]
    split
    · next hapks hdeviceSpec houtputDir =>
      refine absurd ?_ h
      simp [CommandName.neededSettings, has, hapks, hdeviceSpec, houtputDir]
    · rfl
  | version | completions => exact absurd rfl hc

end Given

section
variable {env : Option String} {c : CommandName} {groups : List Group} {words : List Word}
  {g : Given} {m : Misuse}

theorem parse_command (env : Option String) (c : CommandName) (words : List Word) :
    parse (env.map Bytes.ofText) (Bytes.ofText c.word :: words) =
      gather (.command c) {} words >>= fun g =>
        (g.command c).mapError .misuse >>= fun command =>
          .ok { verbose := g.verbose, log := g.log.or env, command } := by
  rw [parse, readWords_command rfl]
  show readCommand _ c words >>= _ = _
  rw [readCommand, gather]
  cases readWords (.command c) false {} words with
  | error stop => rfl
  | ok r =>
    show (r.progress.settle.mapError Stop.misuse >>= _) >>= _ =
      r.progress.settle.mapError Stop.misuse >>= _
    cases r.progress.settle with
    | error m => rfl
    | ok g =>
      show ((g.consult _).mapError Stop.misuse >>= _) >>= _ =
        (g.command c).mapError Stop.misuse >>= _
      rw [g.consult_text]
      show ((g.command c).mapError Stop.misuse >>= _) >>= _ = _
      cases g.command c with
      | error m => rfl
      | ok command =>
        show ((Given.consult {} _).mapError Stop.misuse >>= _) = _
        rw [Given.consult_text]
        show Except.ok (Invocation.mk (false || g.verbose) _ command) = _
        rw [text_of_env]
        rfl

theorem parse_of_repeatedFirst {s : Setting} (h : Groups c groups words)
    (hrepeated : RepeatedFirst s groups) :
    parse (env.map Bytes.ofText) (Bytes.ofText c.word :: words) =
      .error (.misuse (.repeated (.setting s))) := by
  rw [parse_command, gather_groups h, Given.addAll_of_repeatedFirst h.fits hrepeated]
  rfl

theorem parse_of_nodup (env : Option String) (h : Groups c groups words)
    (hnodup : (occurring groups).Nodup) :
    ∃ g : Given, (∀ s, g.has s = true ↔ s ∈ occurring groups) ∧
      parse (env.map Bytes.ofText) (Bytes.ofText c.word :: words) =
        (g.command c).mapError .misuse >>= fun command =>
          .ok { verbose := g.verbose, log := g.log.or env, command } := by
  obtain ⟨g, hadd, hhas⟩ :=
    Given.addAll_of_nodup h.fits (fun group _ => Given.filled_empty (some group.1)) hnodup
  refine ⟨g, fun s => ?_, ?_⟩
  · have hempty : ({} : Given).has s = false := Given.filled_empty (some s)
    simp [hhas, hempty]
  · rw [parse_command, gather_groups h, hadd]
    rfl

theorem exists_parse (hc : c.ownSettings ≠ []) (h : Groups c groups words)
    (hnodup : (occurring groups).Nodup) (hneeded : ∀ s ∈ c.neededSettings, s ∈ occurring groups) :
    ∃ i, parse (env.map Bytes.ofText) (Bytes.ofText c.word :: words) = .ok i := by
  obtain ⟨g, hhas, hparse⟩ := parse_of_nodup env h hnodup
  obtain ⟨command, hcommand⟩ :=
    Given.exists_command hc fun s hs => (hhas s).mpr (hneeded s hs)
  rw [hparse, hcommand]
  exact ⟨_, rfl⟩

theorem parse_of_lacking (hc : c.ownSettings ≠ []) (h : Groups c groups words)
    (hnodup : (occurring groups).Nodup)
    (hneeded : ¬ ∀ s ∈ c.neededSettings, s ∈ occurring groups) :
    parse (env.map Bytes.ofText) (Bytes.ofText c.word :: words) =
      .error (.misuse (.missing
        ((c.neededSettings.filter fun s => s ∉ occurring groups).map .setting))) := by
  obtain ⟨g, hhas, hparse⟩ := parse_of_nodup env h hnodup
  have hlacking : (fun s => !g.has s) = fun s => decide (s ∉ occurring groups) := by
    funext s
    rw [← Bool.decide_coe (!g.has s), decide_eq_decide, Bool.not_eq_true', ← hhas,
      Bool.not_eq_true]
  simp only [← hhas] at hneeded
  rw [hparse, Given.command_of_lacking hc hneeded, Given.lacking, hlacking]
  rfl

theorem parse_groups_cases (env : Option String) (hc : c.ownSettings ≠ [])
    (h : Groups c groups words) :
    ((occurring groups).Nodup ∧ (∀ s ∈ c.neededSettings, s ∈ occurring groups) ∧
      ∃ i, parse (env.map Bytes.ofText) (Bytes.ofText c.word :: words) = .ok i) ∨
    ((occurring groups).Nodup ∧ ¬ (∀ s ∈ c.neededSettings, s ∈ occurring groups) ∧
      parse (env.map Bytes.ofText) (Bytes.ofText c.word :: words) = .error (.misuse (.missing
        ((c.neededSettings.filter fun s => s ∉ occurring groups).map .setting)))) ∨
    ∃ s, RepeatedFirst s groups ∧
      parse (env.map Bytes.ofText) (Bytes.ofText c.word :: words) =
        .error (.misuse (.repeated (.setting s))) := by
  by_cases hnodup : (occurring groups).Nodup
  · by_cases hneeded : ∀ s ∈ c.neededSettings, s ∈ occurring groups
    · exact .inl ⟨hnodup, hneeded, exists_parse hc h hnodup hneeded⟩
    · exact .inr (.inl ⟨hnodup, hneeded, parse_of_lacking hc h hnodup hneeded⟩)
  · obtain ⟨s, hs⟩ := exists_repeatedFirst hnodup
    exact .inr (.inr ⟨s, hs, parse_of_repeatedFirst h hs⟩)

end

/-- A repetition is told before anything that is left out. -/
theorem parse_groups (env : Option String) (c : CommandName) (groups : List Group)
    (words : List Word) (hc : c.ownSettings ≠ []) (h : Groups c groups words) :
    ((∃ i, parse (env.map Bytes.ofText) (Bytes.ofText c.word :: words) = .ok i) ↔
      (occurring groups).Nodup ∧ ∀ s ∈ c.neededSettings, s ∈ occurring groups) ∧
    (¬ (occurring groups).Nodup ↔ ∃ s, RepeatedFirst s groups) ∧
    (∀ s, parse (env.map Bytes.ofText) (Bytes.ofText c.word :: words) =
      .error (.misuse (.repeated (.setting s))) ↔ RepeatedFirst s groups) ∧
    ((occurring groups).Nodup → ¬ (∀ s ∈ c.neededSettings, s ∈ occurring groups) →
      parse (env.map Bytes.ofText) (Bytes.ofText c.word :: words) = .error (.misuse (.missing
        ((c.neededSettings.filter fun s => s ∉ occurring groups).map .setting)))) := by
  refine ⟨⟨?_, fun ⟨hnodup, hneeded⟩ => exists_parse hc h hnodup hneeded⟩,
    ⟨exists_repeatedFirst, fun ⟨_, hs⟩ => hs.not_nodup⟩,
    fun s => ⟨?_, parse_of_repeatedFirst h⟩, parse_of_lacking hc h⟩
  · rintro ⟨i, hi⟩
    rcases parse_groups_cases env hc h with
      ⟨hnodup, hneeded, -⟩ | ⟨-, -, herror⟩ | ⟨s, -, herror⟩
    · exact ⟨hnodup, hneeded⟩
    · cases hi.symm.trans herror
    · cases hi.symm.trans herror
  · intro hs
    rcases parse_groups_cases env hc h with ⟨-, -, i, hi⟩ | ⟨-, -, herror⟩ | ⟨s', hs', herror⟩
    · cases hi.symm.trans hs
    · cases herror.symm.trans hs
    · cases herror.symm.trans hs
      exact hs'

/-- A value that looks like a setting is none. -/
theorem parse_groups_lookalike :
    CommandName.dumpSdkBundle.ownSettings ≠ [] ∧
    Groups .dumpSdkBundle
      [(.resource, Bytes.ofText "--bundle"), (.xpath, Bytes.ofText "/"), (.xpath, Bytes.ofText "/")]
      [Setting.word .resource, Bytes.ofText "--bundle", Setting.joined .xpath (Bytes.ofText "/"),
        Setting.word .xpath, Bytes.ofText "/"] ∧
    parse none
      [Bytes.ofText "dump-sdk-bundle", Setting.word .resource, Bytes.ofText "--bundle",
        Setting.joined .xpath (Bytes.ofText "/"), Setting.word .xpath, Bytes.ofText "/"] =
      .error (.misuse (.repeated (.setting .xpath))) := by
  have hc : CommandName.dumpSdkBundle.ownSettings ≠ [] := by decide
  have hgroups : Groups .dumpSdkBundle
      [(.resource, Bytes.ofText "--bundle"), (.xpath, Bytes.ofText "/"), (.xpath, Bytes.ofText "/")]
      ([Setting.word .resource, Bytes.ofText "--bundle"] ++
        ([Setting.joined .xpath (Bytes.ofText "/")] ++
          ([Setting.word .xpath, Bytes.ofText "/"] ++ []))) :=
    .cons (by decide) (by simp [Piece.Fits]) (.written (.apart .resource _ (by decide) (.inl rfl)))
      (.cons (by decide) (by simp [Piece.Fits]) (.written (.joined .xpath _))
        (.cons (by decide) (by simp [Piece.Fits])
          (.written (.apart .xpath _ (by decide) (.inr (by decide)))) .nil))
  have hrepeated : RepeatedFirst .xpath
      [(.resource, Bytes.ofText "--bundle"), (.xpath, Bytes.ofText "/"),
        (.xpath, Bytes.ofText "/")] :=
    .intro [(.resource, Bytes.ofText "--bundle"), (.xpath, Bytes.ofText "/")] [] _ (by decide)
      (by decide)
  obtain ⟨-, -, hparse, -⟩ := parse_groups none _ _ _ hc hgroups
  exact ⟨hc, hgroups, (hparse .xpath).mpr hrepeated⟩

end BundleInspect.CommandLine
