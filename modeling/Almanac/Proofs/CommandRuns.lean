/-
This file proves how runs of the command end. Arguments that do not begin with a minus
sign are the words of a time specification, and a run that was asked to resolve words
breaks off for one of three causes: its preferences are rejected, the level of its
journal has no known name, or a keyword leaves the calendar. The level is not checked
with the other preferences, so it is the one setting that breaks a run off after the
preferences were accepted. Otherwise the resolver decides the exit status and what is
written, and the level only chooses the lines of the journal.
-/

import Almanac.Proofs.Configurations
import Almanac.Proofs.Failures

namespace Almanac.CommandLine

/-! ### Plain words -/

/-- A word that cannot be taken for an option. -/
def IsPlainWord (word : String) : Prop := word.toList.head? ≠ some '-'

instance (word : String) : Decidable (IsPlainWord word) :=
  inferInstanceAs (Decidable (word.toList.head? ≠ some '-'))

theorem classify_of_isPlainWord {word : String} (plain : IsPlainWord word) :
    classify word = .word := by
  have noOption {rest : List Char} : word.toList ≠ '-' :: rest := by
    intro isOption
    rw [IsPlainWord, isOption] at plain
    exact plain rfl
  unfold classify
  split
  case h_6 => rfl
  all_goals
    next isOption => exact absurd isOption noOption

theorem isPlainWord_intercalate {words : List String} (plain : ∀ word ∈ words, IsPlainWord word) :
    IsPlainWord (" ".intercalate words) := by
  cases words with
  | nil => decide
  | cons first rest =>
    have firstPlain := plain first List.mem_cons_self
    cases rest with
    | nil => rwa [String.intercalate_singleton]
    | cons second rest =>
      rw [IsPlainWord] at firstPlain ⊢
      rw [String.intercalate_cons_cons, String.append_assoc, String.toList_append,
        List.head?_append]
      cases head : first.toList.head? with
      | none => simp
      | some character => rwa [head] at firstPlain

/-- No argument is left over if there are words only. -/
theorem leftOver_of_words (words : List String) :
    leftOver (words.map fun word => (word, false)) = [] := by
  have allWords : ∀ argument ∈ words.map fun word => (word, false),
      (!argument.2) = true := List.forall_mem_map.2 fun _ _ => rfl
  cases words with
  | nil => rfl
  | cons first rest =>
    rw [leftOver, List.dropWhile_eq_nil_iff.2]
    · rfl
    · exact allWords

/-- Plain words are resolved as they are given. -/
theorem read_of_plain {words : List String} (plain : ∀ word ∈ words, IsPlainWord word) :
    read words = .resolve words := by
  have noDashes : ∀ word ∈ words, decide (word ≠ "--") = true := by
    intro word member
    refine decide_eq_true ?_
    rintro rfl
    exact plain "--" member rfl
  have before : words.takeWhile (· ≠ "--") = words := List.takeWhile_eq_self_iff.2 noDashes
  have behind : words.dropWhile (· ≠ "--") = [] := List.dropWhile_eq_nil_iff.2 noDashes
  have noOption : (words.map fun argument =>
      (argument, decide (classify argument = .unknownOption))) =
        words.map fun argument => (argument, false) := by
    refine List.map_congr_left fun word member => ?_
    rw [classify_of_isPlainWord (plain word member)]
    rfl
  have noHelp : ∀ argument ∈ words.map classify, argument = .word :=
    List.forall_mem_map.2 fun word member => classify_of_isPlainWord (plain word member)
  unfold read
  dsimp only
  rw [before, behind, noOption, List.map_nil, List.append_nil, leftOver_of_words]
  split
  · next found =>
    obtain ⟨argument, member, request⟩ := List.exists_of_findSome?_eq_some found
    rw [noHelp argument member] at request
    cases request
  · exact congrArg Request.resolve (List.append_nil words)
  · contradiction

/-- Words that are given one by one make the same specification as one word. -/
theorem specificationOf_joined (words : List String) :
    specificationOf [" ".intercalate words] = specificationOf words := by
  rw [specificationOf, specificationOf, String.intercalate_singleton]

/-! ### What the resolver decides -/

section Outcomes

variable {resolver : Resolver} {text : String} (stamp : String) (weight : Nat)

theorem resolveAndReport_of_answer {resolution : Resolution}
    (answers : resolver.resolve? (some text) = .ok (some resolution)) :
    (resolveAndReport stamp weight resolver text).ending = .ok 0 ∧
      (resolveAndReport stamp weight resolver text).output =
        resolution.period.report ++ "\n" := by
  rw [resolveAndReport, Resolver.resolve, answers]
  exact ⟨rfl, rfl⟩

theorem resolveAndReport_of_unsupported
    (unsupported : resolver.resolve? (some text) = .ok none) :
    (resolveAndReport stamp weight resolver text).ending = .ok 2 ∧
      (resolveAndReport stamp weight resolver text).output = "" ∧
      ∃ journal, (resolveAndReport stamp weight resolver text).errors = journal ++
        "invalid time specification: unsupported time specification: " ++ text ++ "\n" := by
  rw [resolveAndReport, Resolver.resolve, unsupported]
  have wording : "invalid time specification: unsupported time specification: " =
      "invalid time specification: " ++ "unsupported time specification: " := by decide
  refine ⟨rfl, rfl, Journal.render stamp weight [unsupportedLine text], ?_⟩
  rw [wording]
  dsimp only [ResolveError.message, Option.getD_some]
  simp only [String.append_assoc]

theorem resolveAndReport_of_error {error : CalendarError}
    (fails : resolver.resolve? (some text) = .error error) :
    (resolveAndReport stamp weight resolver text).ending = .error (.calendar error) ∧
      (resolveAndReport stamp weight resolver text).output = "" := by
  rw [resolveAndReport, Resolver.resolve, fails]
  exact ⟨rfl, rfl⟩

/-- Neither the clock nor the level of the journal decides how a run ends and what it puts out. -/
theorem resolveAndReport_eq_of_journal (otherStamp : String) (otherWeight : Nat) :
    (resolveAndReport otherStamp otherWeight resolver text).ending =
        (resolveAndReport stamp weight resolver text).ending ∧
      (resolveAndReport otherStamp otherWeight resolver text).output =
        (resolveAndReport stamp weight resolver text).output := by
  unfold resolveAndReport
  cases resolver.resolve (some text) with
  | ok resolution => exact ⟨rfl, rfl⟩
  | error error => cases error <;> exact ⟨rfl, rfl⟩

theorem resolveAndReport_breaks_off_iff (breakdown : Breakdown) :
    (resolveAndReport stamp weight resolver text).ending = .error breakdown ↔
      ∃ error, resolver.resolve? (some text) = .error error ∧ breakdown = .calendar error := by
  cases outcome : resolver.resolve? (some text) with
  | error error =>
    rw [(resolveAndReport_of_error stamp weight outcome).1]
    simp [eq_comm]
  | ok answer =>
    cases answer with
    | none =>
      rw [(resolveAndReport_of_unsupported stamp weight outcome).1]
      simp
    | some resolution =>
      rw [(resolveAndReport_of_answer stamp weight outcome).1]
      simp

end Outcomes

/-! ### What breaks a run off -/

/-- Under a configuration with a known level, the resolver decides. -/
theorem runConfigured_of_known {configuration : Configuration}
    (known : Journal.IsLevel configuration.level) (stamp : String) (words : List String)
    (now : Moment) : ∃ weight, runConfigured stamp words now (.ok configuration) =
      resolveAndReport stamp weight (configuration.resolver now) (specificationOf words) := by
  obtain ⟨weight, named⟩ := (Journal.exists_weightNamed_iff configuration.level).2 known
  refine ⟨weight, ?_⟩
  rw [runConfigured, named]

theorem runConfigured_of_unknown {configuration : Configuration}
    (unknown : ¬Journal.IsLevel configuration.level) (stamp : String) (words : List String)
    (now : Moment) : runConfigured stamp words now (.ok configuration) =
      ⟨.error (.journalLevel ⟨configuration.level⟩), "", ""⟩ := by
  rw [runConfigured, (Journal.weightNamed_eq_error_iff _ _).2 ⟨unknown, rfl⟩]

theorem runConfigured_joined (stamp : String) (words : List String) (now : Moment)
    (configured : Except (List Violation) Configuration) :
    runConfigured stamp [" ".intercalate words] now configured =
      runConfigured stamp words now configured := by
  unfold runConfigured
  rw [specificationOf_joined]

/-- The causes for which a run breaks off that was asked to resolve words. -/
theorem runConfigured_breaks_off_iff (stamp : String) (words : List String) (now : Moment)
    (configured : Except (List Violation) Configuration) (breakdown : Breakdown) :
    (runConfigured stamp words now configured).ending = .error breakdown ↔
      (∃ violations, configured = .error violations ∧ breakdown = .preferences violations) ∨
      (∃ configuration, configured = .ok configuration ∧
        ¬Journal.IsLevel configuration.level ∧
          breakdown = .journalLevel ⟨configuration.level⟩) ∨
      ∃ configuration error, configured = .ok configuration ∧
        Journal.IsLevel configuration.level ∧
        (configuration.resolver now).resolve? (some (specificationOf words)) = .error error ∧
          breakdown = .calendar error := by
  cases configured with
  | error violations =>
    rw [runConfigured]
    simp [eq_comm]
  | ok configuration =>
    by_cases known : Journal.IsLevel configuration.level
    · obtain ⟨weight, resolves⟩ := runConfigured_of_known known stamp words now
      rw [resolves, resolveAndReport_breaks_off_iff]
      simp [known]
    · rw [runConfigured_of_unknown known]
      simp [known, eq_comm]

/-- The level of the journal is looked up after the preferences were accepted. They serve for the
journal and for the setup exactly if they are rejected or the level has a known name. They are
accepted whatever the level is, and the setup is always found. So a run breaks off for its
preferences exactly if these are rejected, for the level of its journal exactly if this has no known
name, and otherwise only for a keyword that leaves the calendar. -/
theorem preferences_serve_iff (reader : VariableReader) (environment : Environment)
    (file : Option String) :
    let completed := environment.complete (reader.offered environment file)
    let again := reader.assignments .file completed file
    let loaded := Preferences.load completed again
    let weekday := codeKey ((Preferences.settingText? completed again "WEEK_START").getD "monday")
    let items :=
      Preferences.namedCodes ((Preferences.settingText? completed again "LOCALES").getD "en,de")
    ((∀ preferences, loaded = .ok preferences →
        (∃ weight, Journal.weightInUse preferences.journalLevel
          (completed.named? "LOG_LEVEL") = .ok weight) ∧
        ∃ setup, Setup.ofLocales preferences = .ok setup) ↔
      ∀ configuration, configure completed again = .ok configuration →
        Journal.IsLevel configuration.level) ∧
    ((∃ preferences, loaded = .ok preferences) ↔
      weekday ∈ ["monday", "sunday"] ∧ Preferences.AreAtHand items) ∧
    (∀ preferences, loaded = .ok preferences →
      Setup.ofLocales preferences = .ok (Setup.ofPreferences preferences)) ∧
    ∀ stamp arguments words now breakdown, read arguments = .resolve words →
      ((run reader stamp arguments environment file now).ending = .error breakdown ↔
        (∃ violations, loaded = .error violations ∧ breakdown = .preferences violations) ∨
        (∃ configuration, configure completed again = .ok configuration ∧
          ¬Journal.IsLevel configuration.level ∧
            breakdown = .journalLevel ⟨configuration.level⟩) ∨
        ∃ configuration error, configure completed again = .ok configuration ∧
          Journal.IsLevel configuration.level ∧
          (configuration.resolver now).resolve? (some (specificationOf words)) = .error error ∧
            breakdown = .calendar error) := by
  intro completed again loaded weekday items
  have found (preferences : Preferences) (accepted : loaded = .ok preferences) :
      Setup.ofLocales preferences = .ok (Setup.ofPreferences preferences) :=
    (Preferences.hasVocabularies_of_ofGiven accepted).ofLocales_eq
  refine ⟨⟨fun serve configuration accepted => ?_, fun known preferences accepted => ?_⟩, ?_, found,
    fun stamp arguments words now breakdown asks => ?_⟩
  · obtain ⟨isLoaded, sameLevel⟩ := (configure_eq_ok_iff _ _ _).1 accepted
    rw [← sameLevel, ← Journal.exists_weightNamed_iff, ← Journal.weightInUse_eq]
    exact (serve _ isLoaded).1
  · rw [Journal.weightInUse_eq, Journal.exists_weightNamed_iff]
    exact ⟨known _ (configure_of_load accepted), _, found preferences accepted⟩
  · rw [← Preferences.exists_ofTexts_iff _ _
      (Preferences.settingText? completed again "LOG_LEVEL"), ← Preferences.load_eq_ofTexts]
  · rw [run_of_words asks, runConfigured_breaks_off_iff]
    simp only [configured, configure_eq_error_iff, loaded, completed, again]

/-- A level that no journal has is accepted with the preferences and breaks the run off. -/
theorem unknown_level_is_accepted :
    let environment : Environment := [("LOG_LEVEL", "verbose")]
    let now := Moment.atStart ⟨739420, by decide, by decide⟩ none
    (Preferences.load environment Table.empty).map Preferences.journalLevel = .ok "verbose" ∧
      (run .plain "" ["today"] environment none now).ending = .error (.journalLevel ⟨"VERBOSE"⟩) := by
  exact ⟨by decide +kernel, by decide +kernel⟩

/-! ### What a run does -/

/-- The words of a run spell a time specification, joined by spaces; no text at all stands for today.
If the resolver has an answer, the run ends with status 0 and puts the report on its period out; if
no form accepts the specification, it ends with status 2, puts nothing out, and reports the
specification at the end of its errors; if a keyword leaves the calendar, it breaks off and puts
nothing out. Another level, of a configuration that is otherwise the same, changes neither the ending
nor the output, and joining the words beforehand changes nothing. -/
theorem run_of_plain_words {reader : VariableReader} {words : List String}
    {environment : Environment} {file : Option String} {configuration : Configuration}
    (plain : ∀ word ∈ words, IsPlainWord word)
    (accepted : configured reader environment file = .ok configuration)
    (known : Journal.IsLevel configuration.level) (stamp : String) (now : Moment) :
    let joined := " ".intercalate words
    let text := if joined = "" then "today" else joined
    let resolver := configuration.resolver now
    let outcome := run reader stamp words environment file now
    (∀ resolution, resolver.resolve? (some text) = .ok (some resolution) →
      outcome.ending = .ok 0 ∧ outcome.output = resolution.period.report ++ "\n") ∧
    (resolver.resolve? (some text) = .ok none →
      outcome.ending = .ok 2 ∧ outcome.output = "" ∧
        ∃ journal, outcome.errors = journal ++
          "invalid time specification: unsupported time specification: " ++ text ++ "\n") ∧
    (∀ error, resolver.resolve? (some text) = .error error →
      outcome.ending = .error (.calendar error) ∧ outcome.output = "") ∧
    (∀ (otherStamp : String) (otherEnvironment : Environment) (otherFile : Option String)
      (other : Configuration), configured reader otherEnvironment otherFile = .ok other →
      other.preferences.firstDay = configuration.preferences.firstDay →
      other.preferences.vocabularies = configuration.preferences.vocabularies →
      Journal.IsLevel other.level →
      (run reader otherStamp words otherEnvironment otherFile now).ending = outcome.ending ∧
        (run reader otherStamp words otherEnvironment otherFile now).output = outcome.output) ∧
    run reader stamp [joined] environment file now = outcome := by
  intro joined text resolver outcome
  have asks := read_of_plain plain
  obtain ⟨weight, resolves⟩ := runConfigured_of_known known stamp words now
  have isOutcome : outcome = resolveAndReport stamp weight resolver text := by
    rw [← accepted, ← run_of_words asks reader stamp environment file now] at resolves
    exact resolves
  rw [isOutcome]
  refine ⟨fun resolution => resolveAndReport_of_answer stamp weight,
    resolveAndReport_of_unsupported stamp weight,
    fun error => resolveAndReport_of_error stamp weight, ?_, ?_⟩
  · intro otherStamp otherEnvironment otherFile other otherAccepted sameFirstDay sameVocabularies
      otherKnown
    obtain ⟨otherWeight, otherResolves⟩ := runConfigured_of_known otherKnown otherStamp words now
    have sameResolver : other.resolver now = resolver := by
      rw [other.resolver_eq, sameFirstDay, sameVocabularies, ← configuration.resolver_eq]
    rw [← otherAccepted, ← run_of_words asks reader otherStamp otherEnvironment otherFile now,
      sameResolver] at otherResolves
    rw [otherResolves]
    exact resolveAndReport_eq_of_journal stamp weight otherStamp otherWeight
  · have asksJoined : read [joined] = .resolve [joined] :=
      read_of_plain (List.forall_mem_singleton.2 (isPlainWord_intercalate plain))
    rw [← isOutcome, run_of_words asksJoined, runConfigured_joined, ← run_of_words asks]

/-- The last seven days up to June 18, 2025, for two levels of the journal. -/
theorem runs_of_last_seven_days :
    let words := ["last", "7", "days"]
    let environment : Environment := [("LOG_LEVEL", "debug")]
    let now := Moment.atStart ⟨739420, by decide, by decide⟩ none
    let outcome := run .plain "" words environment none now
    (∀ word ∈ words, IsPlainWord word) ∧ outcome.ending = .ok 0 ∧
      outcome.output =
        "Period: 2025-06-12 00:00 to 2025-06-18 23:59\n        12 Jun 2025 - 18 Jun 2025\n" ∧
      (run .plain "" words [("LOG_LEVEL", "Error")] none now).output = outcome.output ∧
      run .plain "" ["last 7 days"] environment none now = outcome := by
  intro words environment now outcome
  let started (level : String) : Environment := [("LOG_LEVEL", level)]
  let configuration (level : String) : Configuration :=
    ⟨⟨.monday, Vocabulary.builtIn, level⟩, Journal.levelInUse level (some level)⟩
  have accepted (level : String)
      (texts : ["WEEK_START", "LOCALES", "LOG_LEVEL"].map
        (Preferences.settingText? (started level) Table.empty) = [none, none, some level]) :
      configured .plain (started level) none = .ok (configuration level) := by
    obtain ⟨noFirstDay, noLocales, isLevel⟩ : _ ∧ _ ∧ _ := by simpa using texts
    have loaded : Preferences.load (started level) Table.empty =
        .ok ⟨.monday, Vocabulary.builtIn, level⟩ := by
      rw [Preferences.load_eq_ofTexts, noFirstDay, noLocales, isLevel]
      rfl
    exact configure_of_load loaded
  have plain : ∀ word ∈ words, IsPlainWord word := by decide
  have answers : ((configuration "debug").resolver now).resolve? (some "last 7 days") =
      .ok (some ⟨.relativeDays, ⟨⟨739414, by decide, by decide⟩, ⟨739420, by decide, by decide⟩,
        by decide⟩, none⟩) := by decide +kernel
  obtain ⟨ofAnswer, -, -, ofLevel, ofJoined⟩ :=
    run_of_plain_words plain (accepted "debug" (by decide +kernel)) (by decide +kernel) "" now
  obtain ⟨ending, output⟩ := ofAnswer _ answers
  exact ⟨plain, ending, output.trans (by decide +kernel),
    (ofLevel "" _ none _ (accepted "Error" (by decide +kernel)) rfl rfl (by decide +kernel)).2,
    ofJoined⟩

end Almanac.CommandLine
