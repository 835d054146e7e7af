import BundleInspect.Proofs.CommandLine.Accounts

/-!
# Which log is asked for

A log filter that is given after the command counts more than one before it, and that more than the
filter of the environment. A verbose log may be asked for in both places, and matters only where there
is no filter. `parse_precedence` says so of every command line, by what occurs in it.
-/

namespace BundleInspect.CommandLine

def logSet (text : String) : Occurrence :=
  .piece (.setting .log (Bytes.ofText text))

def SetsLog (os : List Occurrence) : Prop :=
  ∃ value, .piece (.setting .log value) ∈ os

/-- One after the command, else one before it, else that of the environment. -/
inductive Counts (env : Option Bytes) (d : Division) : Option String → Prop where
  | after (text : String) : logSet text ∈ d.after → Counts env d (some text)
  | before (text : String) :
    ¬ SetsLog d.after → logSet text ∈ d.before → Counts env d (some text)
  | environment (log : Option String) :
    ¬ SetsLog d.after → ¬ SetsLog d.before → env = log.map Bytes.ofText → Counts env d log

def AsksVerbose (d : Division) : Prop :=
  .verbose ∈ d.before ∨ .verbose ∈ d.after

/-- The filter that counts; without one, a verbose log shows more. -/
inductive Applies (env : Option Bytes) (d : Division) : String → Prop where
  | filter (text : String) : Counts env d (some text) → Applies env d text
  | verbose : Counts env d none → AsksVerbose d → Applies env d "bundlekit=debug"
  | quiet : Counts env d none → ¬ AsksVerbose d → Applies env d "bundlekit=warn"

/-! ## Levels -/

theorem logSet_mem_iff {os : List Occurrence} {g : Given} (h : ({} : Given).Gathers os g)
    (text : String) : logSet text ∈ os ↔ g.log = some text := by
  rw [h.mem_iff]
  simp [logSet, Given.Holds, Given.content, Bytes.ofText_inj]

theorem setsLog_iff {os : List Occurrence} {g : Given} (h : ({} : Given).Gathers os g) :
    SetsLog os ↔ g.log ≠ none := by
  simp only [SetsLog, h.mem_iff, Given.Holds, Given.content]
  cases g.log <;> simp

/-! ## Command lines -/

section
variable {env : Option Bytes} {d : Division} {i : Invocation} {outer inner : Given}

theorem counts_iff (h : Accounts env i d outer inner) (log : Option String) :
    Counts env d log ↔ log = i.log := by
  rw [h.log]
  constructor
  · intro hcounts
    cases hcounts with
    | after text hafter =>
      rw [logSet_mem_iff h.after] at hafter
      rw [hafter, Option.some_or]
    | before text hafter hbefore =>
      rw [setsLog_iff h.after, not_not] at hafter
      rw [logSet_mem_iff h.before] at hbefore
      rw [hafter, hbefore, Option.none_or, Option.some_or]
    | environment log hafter hbefore henv =>
      rw [setsLog_iff h.after, not_not] at hafter
      rw [setsLog_iff h.before, not_not] at hbefore
      rw [hafter, hbefore, Option.none_or, Option.none_or, henv, text_of_env]
  · rintro rfl
    cases hinner : inner.log with
    | some text => exact .after text ((logSet_mem_iff h.after text).mpr hinner)
    | none =>
      have hafter : ¬ SetsLog d.after := by simp [setsLog_iff h.after, hinner]
      cases houter : outer.log with
      | some text => exact .before text hafter ((logSet_mem_iff h.before text).mpr houter)
      | none =>
        have hbefore : ¬ SetsLog d.before := by simp [setsLog_iff h.before, houter]
        rcases h.environment with ⟨hset, -⟩ | ⟨text, henv⟩
        · exact absurd houter hset
        · refine .environment _ hafter hbefore ?_
          rw [henv, text_of_env]
          rfl

theorem verbose_iff (h : Accounts env i d outer inner) :
    i.verbose = true ↔ AsksVerbose d := by
  rw [h.verbose, Bool.or_eq_true, AsksVerbose, h.before.mem_iff, h.after.mem_iff]
  rfl

theorem applies_iff (h : Accounts env i d outer inner) (text : String) :
    Applies env d text ↔ text = i.logFilter := by
  have hcounts := counts_iff h
  have hverbose := verbose_iff h
  unfold Invocation.logFilter
  constructor
  · intro happlies
    cases happlies with
    | filter _ hfilter =>
      rw [hcounts] at hfilter
      rw [← hfilter]
    | verbose hnone hasks =>
      rw [hcounts] at hnone
      simp only [← hnone, hverbose.mpr hasks, ↓reduceIte]
    | quiet hnone hasks =>
      rw [hcounts] at hnone
      simp only [← hnone, mt hverbose.mp hasks, Bool.false_eq_true, ↓reduceIte]
  · rintro rfl
    cases hlog : i.log with
    | some filter => exact .filter filter ((hcounts _).mpr hlog.symm)
    | none =>
      have hnone : Counts env d none := (hcounts _).mpr hlog.symm
      by_cases hasks : i.verbose = true
      · simp only [hasks, ↓reduceIte]
        exact .verbose hnone (hverbose.mp hasks)
      · simp only [hasks, Bool.false_eq_true, ↓reduceIte]
        exact .quiet hnone (mt hverbose.mpr hasks)

end

/-- What occurs before the command and after it decides about the log. -/
theorem parse_precedence (env : Option Bytes) (words : List Word) (i : Invocation)
    (h : parse env words = .ok i) :
    ∃ d, Divides words d ∧ (∀ d', Divides words d' → d' = d) ∧
      (∀ log, Counts env d log ↔ log = i.log) ∧
      (i.verbose = true ↔ AsksVerbose d) ∧
      (∀ text, Applies env d text ↔ text = i.logFilter) := by
  obtain ⟨d, outer, inner, hdivides, haccounts⟩ := accounts_of_parse h
  exact ⟨d, hdivides, fun d' h' => divides_unique h' hdivides, counts_iff haccounts,
    verbose_iff haccounts, applies_iff haccounts⟩

/-- After `--resource` and `--`, words about the log are no such thing. -/
theorem parse_precedence_lookalikes :
    let words := [Setting.joined .log (Bytes.ofText "a"), Bytes.ofText "dump-sdk-bundle",
      Setting.joined .bundle (Bytes.ofText "b"), Setting.word .resource, verboseWord, escapeWord,
      Setting.joined .log (Bytes.ofText "c")]
    let i : Invocation := ⟨false, some "a",
      .dump ⟨some "--log=c", Bytes.ofText "b", none, some "--verbose", none⟩⟩
    let env := some (Bytes.ofText "e")
    parse env words = .ok i ∧
      ∃ d, Divides words d ∧ (∀ d', Divides words d' → d' = d) ∧
        (∀ log, Counts env d log ↔ log = i.log) ∧
        (i.verbose = true ↔ AsksVerbose d) ∧
        (∀ text, Applies env d text ↔ text = i.logFilter) := by
  intro words i env
  have hparse : parse env words = .ok i := by rfl
  exact ⟨hparse, parse_precedence env words i hparse⟩

end BundleInspect.CommandLine
