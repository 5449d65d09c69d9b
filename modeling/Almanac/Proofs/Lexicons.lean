/-
This file proves how a lexicon answers that was put together from vocabularies. The
last vocabulary that knows a name decides, and in a vocabulary the last entry of the
draft it was read from; so a lookup is the search for the last entry with the name,
through all drafts from first to last.
-/

import Almanac.Language.Lexicon
import Almanac.Proofs.Vocabularies

namespace Almanac

open Text

/-- The form in which a name is looked up. -/
def lookupKey (name : String) : String := String.ofList (foldCase name.toList)

namespace Lexicon

/-- A plain name is looked up as it is. -/
theorem lookup?_of_isPlain {lexicon : Lexicon} {key : String} (plain : IsPlain key) :
    lexicon.lookup? key = lexicon.months.get? key := by
  rw [lookup?, plain.folded, String.ofList_toList]

/-! ### Lexicons of several vocabularies -/

/-- The later vocabularies decide, and the earlier ones know what is left. -/
theorem months_append (first second : List Vocabulary) (key : String) :
    (ofVocabularies (first ++ second)).months.get? key =
      ((ofVocabularies second).months.get? key).or ((ofVocabularies first).months.get? key) := by
  simp only [ofVocabularies, Table.get?_ofList, List.flatMap_append, List.reverse_append,
    List.lookup_append]

theorem months_cons (vocabulary : Vocabulary) (rest : List Vocabulary) (key : String) :
    (ofVocabularies (vocabulary :: rest)).months.get? key =
      ((ofVocabularies rest).months.get? key).or (vocabulary.months.get? key) := by
  have alone : (ofVocabularies [vocabulary]).months.get? key = vocabulary.months.get? key := by
    rw [ofVocabularies, Table.get?_ofList, List.flatMap_singleton, Table.lookup_reverse_entries]
  rw [← alone, ← months_append, List.singleton_append]

/-! ### Lexicons of drafts -/

section Drafts

variable {drafts : List Draft} {vocabularies : List Vocabulary}
  (accepted : drafts.mapM Draft.read = .ok vocabularies)
include accepted

/-- The month of a name has the number that stands last beside it in any of the drafts. -/
theorem months_of_drafts (key : String) :
    ((ofVocabularies vocabularies).months.get? key).map (fun month => (month.number : Int)) =
      lastNumber? key (drafts.flatMap fun draft => draft.numbers.entries) := by
  rw [mapM_eq_ok_iff] at accepted
  induction accepted with
  | nil => rfl
  | cons reads _ inductionHypothesis =>
    rw [months_cons, Option.map_or, inductionHypothesis, Draft.months_of_read reads,
      List.flatMap_cons, lastNumber?_append]

theorem codes_of_drafts :
    (ofVocabularies vocabularies).codes = drafts.map fun draft => codeKey draft.code := by
  rw [mapM_eq_ok_iff] at accepted
  induction accepted with
  | nil => rfl
  | cons reads _ inductionHypothesis =>
    rw [List.map_cons, ← inductionHypothesis, ← Draft.code_of_read reads]
    rfl

/-- A lexicon knows no names but those of its drafts, in their plain form. -/
theorem mem_keys_of_drafts (key : String) : key ∈ (ofVocabularies vocabularies).months.keys ↔
    ∃ entry ∈ drafts.flatMap fun draft => draft.numbers.entries, nameKey entry.1 = key := by
  have absent := lastNumber?_eq_none_iff key (drafts.flatMap fun draft => draft.numbers.entries)
  rw [← months_of_drafts accepted, Option.map_eq_none_iff] at absent
  rw [Table.mem_keys_iff, ← Option.isSome_iff_exists, ← Option.ne_none_iff_isSome, Ne, absent]
  push Not
  rfl

theorem isPlain_of_mem_keys {key : String}
    (registered : key ∈ (ofVocabularies vocabularies).months.keys) : IsPlain key := by
  obtain ⟨entry, -, rfl⟩ := (mem_keys_of_drafts accepted key).1 registered
  exact isPlain_nameKey entry.1

end Drafts

/-- A value is held exactly if it is a text that stands for a month. -/
theorem holds_iff (lexicon : Lexicon) (value : Value) : lexicon.holds value = true ↔
    ∃ name, value = .text name ∧ ∃ month, lexicon.lookup? name = some month := by
  cases value <;> simp [holds, Option.isSome_iff_exists]

/-- In a lexicon that was put together from accepted drafts, a name stands for the month whose
number is in the last entry with that name, through all drafts in their order, and for none if there
is no such entry. The lexicon has as many names as there are different plain ones in the drafts, it
keeps the plain code of every draft, and it holds just the texts that it finds. In any lexicon of
two lists of vocabularies the second list goes before the first. -/
theorem lookup_is_last_entry {drafts : List Draft} {vocabularies : List Vocabulary}
    (accepted : drafts.mapM Draft.read = .ok vocabularies) :
    let lexicon := ofVocabularies vocabularies
    let entries := drafts.flatMap fun draft => draft.numbers.entries
    (∀ name, (lexicon.lookup? name).map (fun month => (month.number : Int)) =
      ((entries.filter fun entry => nameKey entry.1 = lookupKey name).getLast?).map Prod.snd) ∧
    (∀ name, lexicon.lookup? name = none ↔
      ∀ entry ∈ entries, nameKey entry.1 ≠ lookupKey name) ∧
    (∀ name month, lexicon.lookup? name = some month → 1 ≤ month.number ∧ month.number ≤ 12) ∧
    lexicon.size = (entries.map fun entry => nameKey entry.1).toFinset.card ∧
    lexicon.codes = (drafts.map fun draft => codeKey draft.code) ∧
    (∀ value, lexicon.holds value = true ↔
      ∃ name, value = .text name ∧ ∃ month, lexicon.lookup? name = some month) ∧
    ∀ (first second : List Vocabulary) (name : String),
      (ofVocabularies (first ++ second)).lookup? name =
        ((ofVocabularies second).lookup? name).or ((ofVocabularies first).lookup? name) := by
  intro lexicon entries
  have number (name : String) :
      (lexicon.lookup? name).map (fun month => (month.number : Int)) =
        lastNumber? (lookupKey name) entries := months_of_drafts accepted (lookupKey name)
  refine ⟨number, ?_, fun _ month _ => month.number_mem, ?_, codes_of_drafts accepted, ?_, ?_⟩
  · intro name
    rw [← lastNumber?_eq_none_iff, ← number, Option.map_eq_none_iff]
  · have sameNames : lexicon.months.keys.toFinset =
        (entries.map fun entry => nameKey entry.1).toFinset := by
      ext key
      rw [List.mem_toFinset, List.mem_toFinset, mem_keys_of_drafts accepted, List.mem_map]
    rw [← sameNames]
    exact lexicon.months.size_eq_card
  · exact lexicon.holds_iff
  · intro first second name
    exact months_append first second (lookupKey name)

/-- Three drafts of which two have one code. The name `foo` stands in the first one twice, with other
letter case, and in the last one again. -/
theorem lookup_of_foo :
    let drafts : List Draft := [⟨" AA ", .ofList [("Foo ", 1), ("bar", 2), ("foo", 3)]⟩,
      ⟨"bb", .ofList [("BAR", 4)]⟩, ⟨"aa", .ofList [("FOO", 11)]⟩]
    ∃ vocabularies, drafts.mapM Draft.read = .ok vocabularies ∧
      ((ofVocabularies vocabularies).lookup? "fOO").map (fun month => (month.number : Int)) =
        some 11 ∧
      (ofVocabularies vocabularies).size = 2 ∧
      (ofVocabularies vocabularies).codes = ["aa", "bb", "aa"] := by
  let drafts : List Draft := [⟨" AA ", .ofList [("Foo ", 1), ("bar", 2), ("foo", 3)]⟩,
    ⟨"bb", .ofList [("BAR", 4)]⟩, ⟨"aa", .ofList [("FOO", 11)]⟩]
  let vocabularies : List Vocabulary := [⟨"aa", .ofList [("foo", .march), ("bar", .february)]⟩,
    ⟨"bb", .ofList [("bar", .april)]⟩, ⟨"aa", .ofList [("foo", .november)]⟩]
  have accepted : drafts.mapM Draft.read = .ok vocabularies := rfl
  obtain ⟨lookups, -, -, sizes, codes, -⟩ := lookup_is_last_entry accepted
  exact ⟨vocabularies, accepted, (lookups "fOO").trans (by decide +kernel),
    sizes.trans (by decide +kernel), codes.trans (by decide +kernel)⟩

end Lexicon

end Almanac
