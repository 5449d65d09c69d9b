/-
This file proves what a vocabulary holds that was read from a draft: names as they
were first written, with blanks and letter case, and numbers that need not be those of
months. A draft is read entry by entry. Its code and its names are kept in a plain
form, and of the entries whose names have the same plain form the last one counts.
-/

import Almanac.Language.BuiltIn
import Almanac.Proofs.Dates
import Almanac.Proofs.Folding
import Almanac.Proofs.Outcomes
import Almanac.Proofs.Tables

namespace Almanac

open Text

/-! ### Drafts -/

/-- A vocabulary before it is checked: a code, and names with the numbers of months. -/
structure Draft where
  code : String
  numbers : Table Int

/-- The vocabulary of a draft, if its numbers are those of months. -/
def Draft.read (draft : Draft) : Except UnknownMonth Vocabulary :=
  Vocabulary.ofTable draft.code draft.numbers

/-- An entry is read as the plain form of its name and the month with its number. -/
def ReadsAs (entry : String × Int) (read : String × Month) : Prop :=
  read.1 = nameKey entry.1 ∧ (read.2.number : Int) = entry.2

namespace Vocabulary

theorem readEntry_eq_ok_iff (code : String) (entry : String × Int) (read : String × Month) :
    readEntry code entry = .ok read ↔ ReadsAs entry read := by
  obtain ⟨key, month⟩ := read
  rw [ReadsAs, ← Month.ofNumber?_eq_some_iff]
  unfold readEntry
  cases Month.ofNumber? entry.2 with
  | none => simp
  | some found => simp [eq_comm]

end Vocabulary

namespace Draft

theorem read_eq_ok_iff (draft : Draft) (vocabulary : Vocabulary) :
    draft.read = .ok vocabulary ↔ ∃ entries : List (String × Month),
      List.Forall₂ ReadsAs draft.numbers.entries entries ∧
        vocabulary = ⟨codeKey draft.code, Table.ofList entries⟩ := by
  have entriesRead (entries : List (String × Month)) :
      draft.numbers.entries.mapM (Vocabulary.readEntry draft.code) = .ok entries ↔
        List.Forall₂ ReadsAs draft.numbers.entries entries := by
    simp only [mapM_eq_ok_iff, Vocabulary.readEntry_eq_ok_iff]
  simp only [← entriesRead, read, Vocabulary.ofTable]
  cases draft.numbers.entries.mapM (Vocabulary.readEntry draft.code) with
  | error unknown => simp [bind, Except.bind]
  | ok entries => simp [bind, Except.bind, pure, Except.pure, eq_comm]

end Draft

/-! ### The entry that counts -/

/-- The number in the last entry whose name has a plain form. -/
def lastNumber? (key : String) (entries : List (String × Int)) : Option Int :=
  ((entries.filter fun entry => nameKey entry.1 = key).getLast?).map Prod.snd

theorem lastNumber?_append (key : String) (entries others : List (String × Int)) :
    lastNumber? key (entries ++ others) =
      (lastNumber? key others).or (lastNumber? key entries) := by
  rw [lastNumber?, List.filter_append, List.getLast?_append, Option.map_or]
  rfl

theorem lastNumber?_eq_none_iff (key : String) (entries : List (String × Int)) :
    lastNumber? key entries = none ↔ ∀ entry ∈ entries, nameKey entry.1 ≠ key := by
  simp [lastNumber?]

theorem lookup_reverse_of_readsAs {entries : List (String × Int)}
    {read : List (String × Month)} (reads : List.Forall₂ ReadsAs entries read) (key : String) :
    (read.reverse.lookup key).map (fun month => (month.number : Int)) =
      lastNumber? key entries := by
  induction reads with
  | nil => rfl
  | @cons entry first rest others readsFirst _ inductionHypothesis =>
    obtain ⟨name, month⟩ := first
    obtain ⟨isKey, isNumber⟩ := readsFirst
    dsimp only at isKey isNumber
    have alone : ([(name, month)].lookup key).map (fun month => (month.number : Int)) =
        lastNumber? key [entry] := by
      unfold lastNumber?
      rw [isKey, List.lookup_cons, List.filter_singleton]
      by_cases same : key = nameKey entry.1
      · simp [same, isNumber]
      · simp [beq_false_of_ne same, Ne.symm same]
    rw [List.reverse_cons, List.lookup_append, Option.map_or, inductionHypothesis, alone,
      ← lastNumber?_append]
    rfl

namespace Draft

variable {draft : Draft} {vocabulary : Vocabulary} (reads : draft.read = .ok vocabulary)
include reads

/-- The month of a name in a vocabulary has the number that stands last beside it in the draft. -/
theorem months_of_read (key : String) :
    (vocabulary.months.get? key).map (fun month => (month.number : Int)) =
      lastNumber? key draft.numbers.entries := by
  obtain ⟨entries, readsEntries, rfl⟩ := (read_eq_ok_iff draft vocabulary).1 reads
  rw [Table.get?_ofList]
  exact lookup_reverse_of_readsAs readsEntries key

theorem code_of_read : vocabulary.code = codeKey draft.code := by
  obtain ⟨_, -, rfl⟩ := (read_eq_ok_iff draft vocabulary).1 reads
  rfl

end Draft

/-! ### Plain names -/

/-- The names that are kept: without blanks around them and with their letter case folded away. -/
structure IsPlain (key : String) : Prop where
  trimmed : key.toList ≠ [] → IsTrimmed key.toList
  folded : foldCase key.toList = key.toList

theorem isPlain_nameKey (name : String) : IsPlain (nameKey name) where
  trimmed := by
    intro left
    rw [nameKey, String.toList_ofList] at left ⊢
    refine isTrimmed_foldCase (isTrimmed_strip fun none => left ?_)
    rw [none]
    rfl
  folded := by
    rw [nameKey, String.toList_ofList, foldCase_foldCase]

/-! ### Vocabularies as drafts -/

namespace Vocabulary

/-- The draft with the names and months of a vocabulary. -/
def toDraft (vocabulary : Vocabulary) : Draft where
  code := vocabulary.code
  numbers := ⟨vocabulary.months.entries.map fun entry => (entry.1, (entry.2.number : Int)), by
    rw [List.map_map]
    exact vocabulary.months.distinct⟩

/-- A vocabulary in its plain form is what its own draft is read as. -/
theorem read_toDraft {vocabulary : Vocabulary} (plainCode : codeKey vocabulary.code = vocabulary.code)
    (plainNames : ∀ entry ∈ vocabulary.months.entries, nameKey entry.1 = entry.1) :
    vocabulary.toDraft.read = .ok vocabulary := by
  refine (Draft.read_eq_ok_iff _ _).2 ⟨vocabulary.months.entries, ?_, ?_⟩
  · refine List.forall₂_map_left_iff.2 (List.forall₂_same.2 fun entry member => ?_)
    exact ⟨(plainNames entry member).symm, rfl⟩
  · rw [Table.ofList_entries]
    exact congrArg (fun code => Vocabulary.mk code vocabulary.months) plainCode.symm

theorem builtIn_isPlain : ∀ vocabulary ∈ builtIn, codeKey vocabulary.code = vocabulary.code ∧
    ∀ entry ∈ vocabulary.months.entries, nameKey entry.1 = entry.1 := by
  decide +kernel

/-- The vocabularies at hand can be read from drafts as any others. -/
theorem builtIn_accepted : (builtIn.map toDraft).mapM Draft.read = .ok builtIn := by
  refine (mapM_eq_ok_iff _ _ _).2 ?_
  refine List.forall₂_map_left_iff.2 (List.forall₂_same.2 fun vocabulary member => ?_)
  obtain ⟨plainCode, plainNames⟩ := builtIn_isPlain vocabulary member
  exact read_toDraft plainCode plainNames

end Vocabulary

end Almanac
