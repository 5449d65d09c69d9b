/-
This file proves what a run of the command is configured with. Before the preferences
are read, the variables of the file are added to the environment, and what is added
goes before what the environment had. Names are compared letter by letter when a
variable is added and in any letter case when a setting is looked up, so a setting of
the environment is overruled by a file that spells its name in another way. The
configuration is the one that is read without adding anything exactly if all that is
added says the same. This holds of every reader of files whose names and missing values
do not depend on the environment: what such a file adds nothing to, it does not set in
the completed environment either.
-/

import Almanac.CommandLine.Run
import Almanac.Proofs.AcceptedPreferences

namespace Almanac

open Text (toUpper)

/-! ### Levels of the journal -/

/-- A name in capitals. -/
def upperName (name : String) : String := String.ofList (toUpper name.toList)

namespace Journal

/-- The name of the level in use, in capitals. -/
def levelInUse (set : String) (environment : Option String) : String :=
  upperName (if set ≠ "" then set
    else if environment.getD "" ≠ "" then environment.getD "" else "INFO")

/-- The weight of the level with exactly this name. -/
def weightNamed (name : String) : Except UnknownLevel Nat :=
  match levels.lookup name with
  | some weight => .ok weight
  | none => .error ⟨name⟩

/-- Whether a level has exactly this name. -/
def IsLevel (name : String) : Prop := name ∈ levels.map Prod.fst

instance (name : String) : Decidable (IsLevel name) :=
  inferInstanceAs (Decidable (name ∈ levels.map Prod.fst))

theorem weightInUse_eq (set : String) (environment : Option String) :
    weightInUse set environment = weightNamed (levelInUse set environment) := by
  unfold weightInUse levelInUse
  split
  · rfl
  · split <;> rfl

theorem weightNamed_eq_error_iff (name : String) (unknown : UnknownLevel) :
    weightNamed name = .error unknown ↔ ¬IsLevel name ∧ unknown = ⟨name⟩ := by
  rw [IsLevel, ← exists_lookup_iff, weightNamed]
  cases levels.lookup name <;> simp [eq_comm]

theorem exists_weightNamed_iff (name : String) :
    (∃ weight, weightNamed name = .ok weight) ↔ IsLevel name :=
  exists_ok_iff (weightNamed_eq_error_iff name)

/-- Where a level is looked up matters only if none is set. -/
theorem levelInUse_or_eq_iff (set : String) (first second : Option String) :
    levelInUse set (first.or second) = levelInUse set first ↔
      (set = "" → first = none →
        second.getD "" = "" ∨ upperName (second.getD "") = "INFO") := by
  have plain : upperName "INFO" = "INFO" := by decide
  by_cases blank : set = ""
  · cases first with
    | some text => simp
    | none =>
      by_cases absent : second.getD "" = ""
      · simp [levelInUse, blank, absent]
      · simp [levelInUse, blank, absent, plain]
  · simp [levelInUse, blank]

end Journal

/-! ### Completed environments -/

namespace Environment

variable (environment further : Environment)

/-- What completing an environment adds for a setting: the last variable with its name in any
letter case, among those whose exact name no variable of the environment has. -/
def added? (name : String) : Option String :=
  setting? (further.filter fun entry => (environment.named? entry.1).isNone) name

theorem setting?_append (first second : Environment) (name : String) :
    setting? (first ++ second) name = (setting? second name).or (setting? first name) := by
  rw [setting?, List.reverse_append, List.find?_append, Option.map_or]
  rfl

/-- In a completed environment, what was added goes before what was there. -/
theorem setting?_complete (name : String) :
    (environment.complete further).setting? name =
      (environment.added? further name).or (environment.setting? name) :=
  setting?_append environment _ name

theorem setting?_eq_none_iff (name : String) :
    environment.setting? name = none ↔
      ∀ entry ∈ environment, lowerName entry.1 ≠ lowerName name := by
  rw [setting?, Option.map_eq_none_iff, List.find?_eq_none]
  simp only [List.mem_reverse, decide_eq_true_eq]

theorem named?_eq_none_iff (name : String) :
    environment.named? name = none ↔ ∀ entry ∈ environment, entry.1 ≠ name := by
  rw [named?, List.lookup_eq_none_iff]
  refine forall₂_congr fun entry _ => ?_
  rw [bne_iff_ne, ne_comm]

/-- A setting that an environment does not have is added as it stands. -/
theorem added?_of_unset {name : String} (unset : environment.setting? name = none) :
    environment.added? further name = further.setting? name := by
  have fresh (entry : String × String) (same : lowerName entry.1 = lowerName name) :
      environment.named? entry.1 = none := by
    refine (environment.named?_eq_none_iff entry.1).2 fun other member sameName => ?_
    refine (environment.setting?_eq_none_iff name).1 unset other member ?_
    rw [sameName, same]
  rw [added?, setting?, setting?, ← List.filter_reverse, List.find?_filter]
  refine congrArg (Option.map Prod.snd) (List.find?_congr fun entry _ => ?_)
  by_cases same : lowerName entry.1 = lowerName name
  · simp [fresh entry same]
  · simp [same]

/-- Leaving entries out by their keys keeps the value of every key that stays. -/
theorem lookup_filter_of_kept {Content : Type} (keeps : String → Bool) {name : String}
    (kept : keeps name = true) (entries : List (String × Content)) :
    (entries.filter fun entry => keeps entry.1).lookup name = entries.lookup name := by
  induction entries with
  | nil => rfl
  | cons entry rest inductionHypothesis =>
    obtain ⟨key, value⟩ := entry
    by_cases same : name = key
    · rw [List.filter_cons_of_pos (by rwa [← same]), same, List.lookup_cons_self,
        List.lookup_cons_self]
    · have apart : (name == key) = false := beq_false_of_ne same
      rw [List.filter_cons, List.lookup_cons, apart, ← inductionHypothesis]
      split
      · rw [List.lookup_cons, apart]
      · rfl

/-- The variable with exactly a name stays as it was, or comes from what is added. -/
theorem named?_complete (name : String) :
    (environment.complete further).named? name =
      (environment.named? name).or (further.named? name) := by
  rw [named?, complete, List.lookup_append, ← named?]
  cases found : environment.named? name with
  | some value => rfl
  | none =>
    rw [Option.none_or, Option.none_or]
    have kept : (environment.named? name).isNone = true := by rw [found]; rfl
    exact lookup_filter_of_kept (fun key => (environment.named? key).isNone) kept further

end Environment

/-! ### Files without a value for a setting -/

namespace FileVariables

/-- No variable with the name of a setting has a value. -/
def LeavesOut (assignments : FileVariables) (name : String) : Prop :=
  ∀ entry ∈ assignments.outline, lowerName entry.1 = lowerName name → entry.2 = false

theorem setting?_valued_eq_none_iff (assignments : FileVariables) (name : String) :
    assignments.valued.setting? name = none ↔ assignments.LeavesOut name := by
  rw [Environment.setting?_eq_none_iff]
  simp only [LeavesOut, outline, valued, List.mem_filterMap, List.mem_map, Option.map_eq_some_iff]
  constructor
  · rintro unset _ ⟨⟨key, value⟩, member, rfl⟩ same
    cases value with
    | none => rfl
    | some value => exact absurd same (unset (key, value) ⟨_, member, value, rfl, rfl⟩)
  · rintro leavesOut _ ⟨⟨key, _⟩, member, value, rfl, rfl⟩ same
    cases leavesOut _ ⟨_, member, rfl⟩ same

theorem LeavesOut.setting?_eq_none {assignments : FileVariables} {name : String}
    (leavesOut : assignments.LeavesOut name) : assignments.setting? name = none := by
  rw [setting?, Option.bind_eq_none_iff]
  rintro ⟨key, value⟩ found
  have member := List.mem_reverse.1 (List.mem_of_find?_eq_some found)
  have same : lowerName key = lowerName name := by simpa using List.find?_some found
  have noValue : value.isSome = false := leavesOut _ (List.mem_map_of_mem member) same
  simpa using noValue

end FileVariables

/-- What a file adds nothing to in one environment, it does not set in another one. -/
theorem VariableReader.IsSteady.setting?_assignments {reader : VariableReader}
    (steady : reader.IsSteady) (environment : Environment) {file : Option String} {name : String}
    {first : FirstSource} {otherEnvironment : Environment}
    (unset : (reader.assignments first otherEnvironment file).valued.setting? name = none)
    (other : FirstSource) : (reader.assignments other environment file).setting? name = none := by
  cases file with
  | none => rfl
  | some text =>
    have leavesOut := (FileVariables.setting?_valued_eq_none_iff _ name).1 unset
    refine FileVariables.LeavesOut.setting?_eq_none ?_
    rw [FileVariables.LeavesOut, assignments] at leavesOut ⊢
    rwa [steady.outline_eq other first environment otherEnvironment]

/-! ### Settings that are overruled -/

namespace Preferences

theorem HasVocabularies.readLocales_eq_iff {preferences : Preferences}
    (has : preferences.HasVocabularies) (text : String) :
    readLocales text = .ok preferences.vocabularies ↔ namedCodes text = preferences.codes := by
  rw [readLocales_eq_ok_iff, and_iff_right has.nonempty, and_iff_right has.atHand, eq_comm]
  rfl

/-- The preferences of settings that are texts are rejected for the first weekday and the list of
locales only. -/
theorem ofTexts_eq_error_iff (firstDay locales journalLevel : Option String)
    (violations : List Violation) :
    ofTexts firstDay locales journalLevel = .error violations ↔
      violations ≠ [] ∧ violations = violation "WEEK_START" (firstDayOf (firstDay.map .text)) ++
        violation "LOCALES" (vocabulariesOf (locales.map .text)) := by
  rw [ofTexts, ofGiven, journalLevelOf_map_text]
  cases firstDayOf (firstDay.map .text) <;> cases vocabulariesOf (locales.map .text) <;>
    simp [violation, eq_comm] <;> rintro rfl <;> simp

/-- Violations of the two settings are told apart by their names. -/
theorem violations_append_eq_iff (firstDay otherFirstDay : Except Fault FirstDay)
    (vocabularies otherVocabularies : Except Fault (List Vocabulary)) :
    violation "WEEK_START" otherFirstDay ++ violation "LOCALES" otherVocabularies =
        violation "WEEK_START" firstDay ++ violation "LOCALES" vocabularies ↔
      violation "WEEK_START" otherFirstDay = violation "WEEK_START" firstDay ∧
        violation "LOCALES" otherVocabularies = violation "LOCALES" vocabularies := by
  cases firstDay <;> cases otherFirstDay <;> cases vocabularies <;> cases otherVocabularies <;>
    simp [violation]

section Overruled

variable {firstDay locales journalLevel : Option String}
  (newFirstDay newLocales newJournalLevel : Option String)

/-- What goes before settings that were accepted leaves the preferences as they are exactly if it
says the same. -/
theorem ofTexts_or_eq_ok_iff {preferences : Preferences}
    (accepted : ofTexts firstDay locales journalLevel = .ok preferences) :
    ofTexts (newFirstDay.or firstDay) (newLocales.or locales)
        (newJournalLevel.or journalLevel) = .ok preferences ↔
      (∀ text, newFirstDay = some text → codeKey text = preferences.firstDay.name) ∧
      (∀ text, newLocales = some text → namedCodes text = preferences.codes) ∧
      ∀ text, newJournalLevel = some text → text = preferences.journalLevel := by
  have has := hasVocabularies_of_ofGiven accepted
  obtain ⟨named, read, level⟩ := (ofTexts_eq_ok_iff _ _ _ _).1 accepted
  rw [ofTexts_eq_ok_iff]
  refine and_congr ?_ (and_congr ?_ ?_)
  · cases newFirstDay with
    | none => simp [named]
    | some text => simp [eq_comm]
  · cases newLocales with
    | none => simp [read]
    | some text => simp [has.readLocales_eq_iff]
  · cases newJournalLevel with
    | none => simp [level]
    | some text => simp

/-- What goes before settings that were rejected leaves the violations as they are exactly if each
setting has the violation that it had. -/
theorem ofTexts_or_eq_error_iff {violations : List Violation}
    (rejected : ofTexts firstDay locales journalLevel = .error violations) :
    ofTexts (newFirstDay.or firstDay) (newLocales.or locales)
        (newJournalLevel.or journalLevel) = .error violations ↔
      (∀ text, newFirstDay = some text → violation "WEEK_START" (firstDayOf (some (.text text))) =
        violation "WEEK_START" (firstDayOf (firstDay.map .text))) ∧
      ∀ text, newLocales = some text → violation "LOCALES" (vocabulariesOf (some (.text text))) =
        violation "LOCALES" (vocabulariesOf (locales.map .text)) := by
  obtain ⟨nonempty, rfl⟩ := (ofTexts_eq_error_iff _ _ _ _).1 rejected
  rw [ofTexts_eq_error_iff, and_iff_right nonempty, eq_comm, violations_append_eq_iff]
  refine and_congr ?_ ?_
  · cases newFirstDay <;> simp
  · cases newLocales <;> simp

end Overruled

/-! ### Preferences from a completed environment -/

section Completed

variable (environment : Environment) (assignments : FileVariables)

/-- The text of a setting: that of the environment, else that of a file of variables. -/
def settingText? (name : String) : Option String :=
  (environment.setting? name).or (assignments.setting? name)

theorem load_eq_ofTexts : load environment assignments =
    ofTexts (settingText? environment assignments "WEEK_START")
      (settingText? environment assignments "LOCALES")
      (settingText? environment assignments "LOG_LEVEL") := by
  have setting (name : String) : PreferenceSources.setting? ⟨[], environment, assignments⟩ name =
      (settingText? environment assignments name).map .text := by
    rw [settingText?, Option.map_or]
    rfl
  rw [load, PreferenceSources.preferences, PreferenceSources.given, setting, setting, setting]
  rfl

end Completed

/-- With the file read again in the completed environment, a setting is what was added for it, or
else what it is without adding anything. -/
theorem settingText?_complete {reader : VariableReader} (steady : reader.IsSteady)
    (environment : Environment) (file : Option String) (name : String) :
    let offered := reader.offered environment file
    settingText? (environment.complete offered)
        (reader.assignments .file (environment.complete offered) file) name =
      (environment.added? offered name).or
        (settingText? environment (reader.assignments .file environment file) name) := by
  intro offered
  rw [settingText?, settingText?, Environment.setting?_complete, Option.or_assoc]
  cases isAdded : environment.added? offered name with
  | some text => rfl
  | none =>
    cases isSet : environment.setting? name with
    | some value => rfl
    | none =>
      rw [environment.added?_of_unset offered isSet] at isAdded
      rw [steady.setting?_assignments _ isAdded, steady.setting?_assignments _ isAdded]

/-- What is added to an environment says the same as the preferences that are read without it. A
level that is left blank is looked up once more, under exactly its name. -/
structure AreRepeated (preferences : Preferences) (environment offered : Environment) : Prop where
  firstDay : ∀ text, environment.added? offered "WEEK_START" = some text →
    codeKey text = preferences.firstDay.name
  locales : ∀ text, environment.added? offered "LOCALES" = some text →
    namedCodes text = preferences.codes
  journalLevel : ∀ text, environment.added? offered "LOG_LEVEL" = some text →
    text = preferences.journalLevel
  blankLevel : preferences.journalLevel = "" → environment.named? "LOG_LEVEL" = none →
    (offered.named? "LOG_LEVEL").getD "" = "" ∨
      upperName ((offered.named? "LOG_LEVEL").getD "") = "INFO"

/-- What is added to an environment has the violations that are found without it. -/
structure FaultsAreRepeated (environment offered : Environment) (assignments : FileVariables) :
    Prop where
  firstDay : ∀ text, environment.added? offered "WEEK_START" = some text →
    violation "WEEK_START" (firstDayOf (some (.text text))) = violation "WEEK_START"
      (firstDayOf ((settingText? environment assignments "WEEK_START").map .text))
  locales : ∀ text, environment.added? offered "LOCALES" = some text →
    violation "LOCALES" (vocabulariesOf (some (.text text))) = violation "LOCALES"
      (vocabulariesOf ((settingText? environment assignments "LOCALES").map .text))

end Preferences

namespace CommandLine

/-! ### Configurations -/

/-- What a run acts on besides its arguments and the clock. -/
structure Configuration where
  preferences : Preferences
  /-- The name of the level of the journal, in capitals. -/
  level : String

/-- The resolver of a configuration. -/
def Configuration.resolver (configuration : Configuration) (now : Moment) : Resolver :=
  (Setup.ofPreferences configuration.preferences).resolver now

theorem Configuration.resolver_eq (configuration : Configuration) (now : Moment) :
    configuration.resolver now = ⟨configuration.preferences.firstDay,
      .ofVocabularies configuration.preferences.vocabularies, now⟩ := rfl

/-- The configuration that an environment and the variables of a file set. -/
def configure (environment : Environment) (assignments : FileVariables) :
    Except (List Violation) Configuration :=
  (Preferences.load environment assignments).map fun preferences =>
    ⟨preferences, Journal.levelInUse preferences.journalLevel (environment.named? "LOG_LEVEL")⟩

/-- The configuration of a run: that of the environment, completed from the file, and of the file as
it reads there. -/
def configured (reader : VariableReader) (environment : Environment) (file : Option String) :
    Except (List Violation) Configuration :=
  let completed := environment.complete (reader.offered environment file)
  configure completed (reader.assignments .file completed file)

/-- What a run does that was asked to resolve words. -/
def runConfigured (stamp : String) (words : List String) (now : Moment) :
    Except (List Violation) Configuration → Outcome
  | .error violations => ⟨.error (.preferences violations), "", ""⟩
  | .ok configuration =>
    match Journal.weightNamed configuration.level with
    | .error unknown => ⟨.error (.journalLevel unknown), "", ""⟩
    | .ok weight => resolveAndReport stamp weight (configuration.resolver now) (specificationOf words)

/-- A run acts on its configuration. -/
theorem run_of_words {arguments words : List String} (asks : read arguments = .resolve words)
    (reader : VariableReader) (stamp : String) (environment : Environment) (file : Option String)
    (now : Moment) : run reader stamp arguments environment file now =
      runConfigured stamp words now (configured reader environment file) := by
  rw [run, asks, configured, configure]
  dsimp only
  cases Preferences.load (environment.complete (reader.offered environment file))
    (reader.assignments .file (environment.complete (reader.offered environment file)) file) with
  | error violations => rfl
  | ok preferences =>
    dsimp only [Except.map, runConfigured]
    rw [Journal.weightInUse_eq]
    rfl

theorem configure_eq_ok_iff (environment : Environment) (assignments : FileVariables)
    (configuration : Configuration) : configure environment assignments = .ok configuration ↔
      Preferences.load environment assignments = .ok configuration.preferences ∧
        Journal.levelInUse configuration.preferences.journalLevel
          (environment.named? "LOG_LEVEL") = configuration.level := by
  obtain ⟨preferences, level⟩ := configuration
  rw [configure]
  cases Preferences.load environment assignments with
  | error violations => simp [Except.map]
  | ok found =>
    simp only [Except.map, Except.ok.injEq, Configuration.mk.injEq]
    exact and_congr_right fun same => by rw [same]

/-- Accepted preferences are those of a configuration. -/
theorem configure_of_load {environment : Environment} {assignments : FileVariables}
    {preferences : Preferences}
    (accepted : Preferences.load environment assignments = .ok preferences) :
    configure environment assignments = .ok ⟨preferences,
      Journal.levelInUse preferences.journalLevel (environment.named? "LOG_LEVEL")⟩ := by
  rw [configure, accepted]
  rfl

theorem configure_eq_error_iff (environment : Environment) (assignments : FileVariables)
    (violations : List Violation) : configure environment assignments = .error violations ↔
      Preferences.load environment assignments = .error violations := by
  rw [configure]
  cases Preferences.load environment assignments <;> simp [Except.map]

/-! ### Configurations of completed environments -/

section Completed

variable {reader : VariableReader} (steady : reader.IsSteady) {environment : Environment}
  {file : Option String}
include steady

/-- Completing an environment keeps a configuration that is accepted without it exactly if all that
is added says the same. -/
theorem configured_eq_iff_of_ok {preferences : Preferences}
    (accepted : Preferences.load environment (reader.assignments .file environment file) =
      .ok preferences) :
    configured reader environment file =
        configure environment (reader.assignments .file environment file) ↔
      preferences.AreRepeated environment (reader.offered environment file) := by
  rw [configure_of_load accepted, configured]
  rw [Preferences.load_eq_ofTexts] at accepted
  rw [configure_eq_ok_iff, Preferences.load_eq_ofTexts, Preferences.settingText?_complete steady,
    Preferences.settingText?_complete steady, Preferences.settingText?_complete steady,
    Preferences.ofTexts_or_eq_ok_iff _ _ _ accepted, Environment.named?_complete,
    Journal.levelInUse_or_eq_iff]
  constructor
  · rintro ⟨⟨firstDay, locales, journalLevel⟩, blankLevel⟩
    exact ⟨firstDay, locales, journalLevel, blankLevel⟩
  · rintro ⟨firstDay, locales, journalLevel, blankLevel⟩
    exact ⟨⟨firstDay, locales, journalLevel⟩, blankLevel⟩

theorem configured_eq_iff_of_error {violations : List Violation}
    (rejected : Preferences.load environment (reader.assignments .file environment file) =
      .error violations) :
    configured reader environment file =
        configure environment (reader.assignments .file environment file) ↔
      Preferences.FaultsAreRepeated environment (reader.offered environment file)
        (reader.assignments .file environment file) := by
  rw [(configure_eq_error_iff environment _ violations).2 rejected, configured]
  rw [Preferences.load_eq_ofTexts] at rejected
  rw [configure_eq_error_iff, Preferences.load_eq_ofTexts,
    Preferences.settingText?_complete steady, Preferences.settingText?_complete steady,
    Preferences.settingText?_complete steady,
    Preferences.ofTexts_or_eq_error_iff _ _ _ rejected]
  constructor
  · rintro ⟨firstDay, locales⟩
    exact ⟨firstDay, locales⟩
  · rintro ⟨firstDay, locales⟩
    exact ⟨firstDay, locales⟩

end Completed

/-- A run acts on the configuration of its environment, completed from its file, and of the file as it
reads there. This is the configuration of the environment and the file exactly if all that is added to
the environment says the same, or has the same violations. A single setting stays as it is exactly if
nothing is added for it or what is added is what it is without that. -/
theorem configuration_of_run (reader : VariableReader) (steady : reader.IsSteady)
    (environment : Environment) (file : Option String) :
    let offered := reader.offered environment file
    let completed := environment.complete offered
    let again := reader.assignments .file completed file
    let alone := reader.assignments .file environment file
    (∀ stamp arguments words now, read arguments = .resolve words →
      run reader stamp arguments environment file now =
        runConfigured stamp words now (configure completed again)) ∧
    ((configure completed again = configure environment alone) ↔
      (∀ preferences, Preferences.load environment alone = .ok preferences →
        preferences.AreRepeated environment offered) ∧
      ∀ violations, Preferences.load environment alone = .error violations →
        Preferences.FaultsAreRepeated environment offered alone) ∧
    ∀ name, Preferences.settingText? completed again name =
        Preferences.settingText? environment alone name ↔
      ∀ text, environment.added? offered name = some text →
        Preferences.settingText? environment alone name = some text := by
  intro offered completed again alone
  have isConfigured : configure completed again = configured reader environment file := rfl
  refine ⟨fun stamp arguments words now asks =>
    run_of_words asks reader stamp environment file now, ?_, fun name => ?_⟩
  · rw [isConfigured]
    cases loaded : Preferences.load environment alone with
    | ok preferences => simp [configured_eq_iff_of_ok steady loaded, alone, offered]
    | error violations => simp [configured_eq_iff_of_error steady loaded, alone, offered]
  · rw [Preferences.settingText?_complete steady]
    cases environment.added? offered name with
    | none => simp [alone]
    | some text => simp [alone, eq_comm]

/-- A variable of the environment stays if the file spells its name alike, and locales that only the
file has are the same without being added. -/
theorem same_spelling_changes_nothing :
    let environment : Environment := [("WEEK_START", "sunday")]
    let file := some "WEEK_START=monday\nLOCALES=de\n"
    let offered := VariableReader.plain.offered environment file
    let alone := VariableReader.plain.assignments .file environment file
    VariableReader.plain.IsSteady ∧ environment.added? offered "LOCALES" = some "de" ∧
      (∃ preferences, Preferences.load environment alone = .ok preferences ∧
        preferences.firstDay = .sunday ∧ preferences.codes = ["de"]) ∧
      configure (environment.complete offered)
          (VariableReader.plain.assignments .file (environment.complete offered) file) =
        configure environment alone := by
  intro environment file offered alone
  have noFirstDay : environment.added? offered "WEEK_START" = none := by decide +kernel
  have isAdded : environment.added? offered "LOCALES" = some "de" := by decide +kernel
  have noLevel : environment.added? offered "LOG_LEVEL" = none := by decide +kernel
  have loaded : Preferences.load environment alone =
      Preferences.ofTexts (some "sunday") (some "de") none := by
    have texts : ["WEEK_START", "LOCALES", "LOG_LEVEL"].map
        (Preferences.settingText? environment alone) = [some "sunday", some "de", none] := by
      decide +kernel
    obtain ⟨firstDay, locales, level⟩ : _ ∧ _ ∧ _ := by simpa using texts
    rw [Preferences.load_eq_ofTexts, firstDay, locales, level]
  obtain ⟨preferences, accepted⟩ :=
    (Preferences.exists_ofTexts_iff (some "sunday") (some "de") none).2 (by decide +kernel)
  have codes : preferences.codes = ["de"] :=
    (Preferences.codes_of_ofTexts accepted).trans (by decide +kernel)
  obtain ⟨named, -, level⟩ := (Preferences.ofTexts_eq_ok_iff _ _ _ _).1 accepted
  have sunday : preferences.firstDay = .sunday := by
    have isName : preferences.firstDay.name = "sunday" := named.trans (by decide +kernel)
    cases first : preferences.firstDay with
    | sunday => rfl
    | monday =>
      rw [first] at isName
      exact absurd isName (by decide)
  have repeated : preferences.AreRepeated environment offered := by
    refine ⟨fun text found => ?_, fun text found => ?_, fun text found => ?_, fun blank => ?_⟩
    · rw [noFirstDay] at found
      cases found
    · rw [isAdded] at found
      rw [← Option.some.inj found, codes]
      decide +kernel
    · rw [noLevel] at found
      cases found
    · rw [← level] at blank
      exact absurd blank (by decide)
  rw [← loaded] at accepted
  refine ⟨VariableReader.isSteady_plain, isAdded, ⟨preferences, accepted, sunday, codes⟩, ?_⟩
  refine (configuration_of_run .plain VariableReader.isSteady_plain environment file).2.1.2
    ⟨fun other isOther => ?_, fun violations rejected => ?_⟩
  · rw [← Except.ok.inj (accepted.symm.trans isOther)]
    exact repeated
  · cases accepted.symm.trans rejected

/-- A variable that is named in capitals is overruled by a file that names it in small letters. -/
theorem file_overrules_environment :
    let environment : Environment := [("WEEK_START", "sunday")]
    let file := some "week_start=monday\n"
    let now := Moment.atStart ⟨739420, by decide, by decide⟩ none
    let firstDay (configuration : Configuration) := configuration.preferences.firstDay
    (configure environment (VariableReader.plain.assignments .file environment file)).map firstDay =
        .ok .sunday ∧
      (configured .plain environment file).map firstDay = .ok .monday ∧
      (run .plain "" ["thisweek"] environment file now).output =
        "Period: 2025-06-16 00:00 to 2025-06-22 23:59\n        16 Jun 2025 - 22 Jun 2025\n" := by
  exact ⟨by decide +kernel, by decide +kernel, by decide +kernel⟩

end CommandLine

end Almanac
