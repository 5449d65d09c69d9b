/-
This file proves what is left of a draft once it is read. Every number is checked in the
order of the entries, so the first one that is that of no month is the cause if the draft
is not read, whether or not a later entry has the same key. What is kept is in a form that
reading does not change any more, since stripping, folding and lower case leave their own
outcomes alone. So a vocabulary is read again as it was kept.
-/

import Almanac.Proofs.LowerCase
import Almanac.Proofs.Vocabularies

namespace Almanac

open Text

/-! ### Drafts that are not read -/

theorem Vocabulary.readEntry_eq_error_iff (code : String) (entry : String × Int)
    (unknown : UnknownMonth) : readEntry code entry = .error unknown ↔
      ¬(1 ≤ entry.2 ∧ entry.2 ≤ 12) ∧ unknown = ⟨code, entry.1, entry.2⟩ := by
  rw [← Month.ofNumber?_eq_none_iff]
  unfold readEntry
  cases Month.ofNumber? entry.2 <;> simp [eq_comm]

theorem Vocabulary.isOk_readEntry (code : String) (entry : String × Int) :
    (readEntry code entry).isOk = decide (1 ≤ entry.2 ∧ entry.2 ≤ 12) := by
  have outside := Month.ofNumber?_eq_none_iff entry.2
  rw [Bool.eq_iff_iff, decide_eq_true_iff, ← not_iff_not, ← outside]
  unfold readEntry
  cases Month.ofNumber? entry.2 <;> simp [Except.isOk, Except.toBool]

namespace Draft

/-- An entry has the number of no month, and all in front of it have those of months. -/
def IsFirstFault (draft : Draft) (entry : String × Int) : Prop :=
  ∃ before after : List (String × Int), draft.numbers.entries = before ++ entry :: after ∧
    ¬(1 ≤ entry.2 ∧ entry.2 ≤ 12) ∧ ∀ earlier ∈ before, 1 ≤ earlier.2 ∧ earlier.2 ≤ 12

theorem isFirstFault_iff (draft : Draft) (entry : String × Int) :
    draft.IsFirstFault entry ↔ draft.numbers.entries.find?
      (fun other => !(Vocabulary.readEntry draft.code other).isOk) = some entry := by
  simp only [List.find?_eq_some_iff_append, Vocabulary.isOk_readEntry, Bool.not_not,
    Bool.not_eq_true', decide_eq_false_iff_not, decide_eq_true_eq]
  constructor
  · rintro ⟨before, after, split, outside, accepted⟩
    exact ⟨outside, before, after, split, accepted⟩
  · rintro ⟨outside, before, after, split, accepted⟩
    exact ⟨before, after, split, outside, accepted⟩

/-- The first entry with the number of no month is the cause, whatever comes behind it. -/
theorem read_eq_error_iff (draft : Draft) (unknown : UnknownMonth) :
    draft.read = .error unknown ↔
      ∃ entry, draft.IsFirstFault entry ∧ unknown = ⟨draft.code, entry.1, entry.2⟩ := by
  simp only [read, Vocabulary.ofTable, bind_eq_error_iff, mapM_eq_error_iff, isFirstFault_iff]
  constructor
  · rintro (⟨entry, isFirst, fails⟩ | ⟨_, -, built⟩)
    · exact ⟨entry, isFirst, ((Vocabulary.readEntry_eq_error_iff _ _ _).1 fails).2⟩
    · cases built
  · rintro ⟨entry, isFirst, rfl⟩
    obtain ⟨_, _, -, outside, -⟩ := (isFirstFault_iff draft entry).2 isFirst
    exact Or.inl ⟨entry, isFirst, (Vocabulary.readEntry_eq_error_iff _ _ _).2 ⟨outside, rfl⟩⟩

theorem exists_read_iff (draft : Draft) : (∃ vocabulary, draft.read = .ok vocabulary) ↔
    ∀ entry ∈ draft.numbers.entries, 1 ≤ entry.2 ∧ entry.2 ≤ 12 := by
  have readEntries : (∃ vocabulary, draft.read = .ok vocabulary) ↔
      ∃ entries, draft.numbers.entries.mapM (Vocabulary.readEntry draft.code) = .ok entries := by
    simp only [read, Vocabulary.ofTable, bind_eq_ok_iff]
    constructor
    · rintro ⟨_, entries, found, -⟩
      exact ⟨entries, found⟩
    · rintro ⟨entries, found⟩
      exact ⟨_, entries, found, rfl⟩
  rw [readEntries, exists_mapM_iff]
  exact forall₂_congr fun entry _ => exists_ok_iff (Vocabulary.readEntry_eq_error_iff _ entry)

end Draft

/-! ### Names in their plain form -/

namespace IsPlain

variable {key : String} (plain : IsPlain key)
include plain

theorem strip_eq : strip key.toList = key.toList := by
  by_cases empty : key.toList = []
  · rw [empty]
    rfl
  · exact strip_eq_self (plain.trimmed empty)

/-- A plain name is kept as it is. -/
theorem nameKey_eq : nameKey key = key := by
  rw [nameKey, plain.strip_eq, plain.folded, String.ofList_toList]

end IsPlain

/-! ### What is kept of a draft -/

namespace Draft

variable {draft : Draft} {vocabulary : Vocabulary} (reads : draft.read = .ok vocabulary)
include reads

/-- The names are kept in the order in which their plain forms come up first. -/
theorem keys_of_read : vocabulary.months.keys = (draft.numbers.keys.map nameKey).eraseDups := by
  obtain ⟨entries, readsEntries, rfl⟩ := (read_eq_ok_iff draft vocabulary).1 reads
  have names : entries.map Prod.fst = draft.numbers.keys.map nameKey := by
    rw [Table.keys, List.map_map, ← List.forall₂_eq_eq_eq, List.forall₂_map_left_iff,
      List.forall₂_map_right_iff]
    exact readsEntries.flip.imp fun _ _ readsEntry => readsEntry.1
  rw [Table.keys_ofList, names]

theorem mem_keys_of_read (key : String) :
    key ∈ vocabulary.months.keys ↔ ∃ name ∈ draft.numbers.keys, nameKey name = key := by
  rw [keys_of_read reads, List.mem_eraseDups, List.mem_map]

theorem isPlain_of_read {key : String} (kept : key ∈ vocabulary.months.keys) : IsPlain key := by
  obtain ⟨name, -, rfl⟩ := (mem_keys_of_read reads key).1 kept
  exact isPlain_nameKey name

/-- A vocabulary is read from its own names and months as it is. -/
theorem read_toDraft_of_read : vocabulary.toDraft.read = .ok vocabulary := by
  refine Vocabulary.read_toDraft ?_ fun entry member => ?_
  · rw [code_of_read reads, codeKey_codeKey]
  · exact (isPlain_of_read reads (List.mem_map_of_mem member)).nameKey_eq

end Draft

/-! ### Drafts and vocabularies -/

/-- A draft is read exactly if all its numbers are those of months, and otherwise the first entry of
which that does not hold is the cause. Its code and its names are kept in a plain form, without
blanks around them and in lower case or folded; each name is kept once, where its plain form comes up
first, and with the number that stands last beside it. A vocabulary that was read from a draft is
read again from its own code and names as it is. -/
theorem drafts_are_normalized (draft : Draft) :
    ((∃ vocabulary, draft.read = .ok vocabulary) ↔
      ∀ entry ∈ draft.numbers.entries, 1 ≤ entry.2 ∧ entry.2 ≤ 12) ∧
    (∀ unknown : UnknownMonth, draft.read = .error unknown ↔
      ∃ entry, draft.IsFirstFault entry ∧ unknown = ⟨draft.code, entry.1, entry.2⟩) ∧
    ∀ vocabulary : Vocabulary, draft.read = .ok vocabulary →
      vocabulary.code = codeKey draft.code ∧
      vocabulary.months.keys = (draft.numbers.keys.map nameKey).eraseDups ∧
      vocabulary.months.keys.Nodup ∧
      (∀ key, key ∈ vocabulary.months.keys ↔
        ∃ name ∈ draft.numbers.keys, nameKey name = key) ∧
      (∀ key ∈ vocabulary.months.keys,
        strip key.toList = key.toList ∧ foldCase key.toList = key.toList) ∧
      (∀ key, (vocabulary.months.get? key).map (fun month => (month.number : Int)) =
        ((draft.numbers.entries.filter fun entry => nameKey entry.1 = key).getLast?).map
          Prod.snd) ∧
      vocabulary.toDraft.read = .ok vocabulary := by
  refine ⟨draft.exists_read_iff, draft.read_eq_error_iff, fun vocabulary reads => ?_⟩
  exact ⟨Draft.code_of_read reads, Draft.keys_of_read reads, vocabulary.months.distinct,
    Draft.mem_keys_of_read reads,
    fun _ kept => ⟨(Draft.isPlain_of_read reads kept).strip_eq,
      (Draft.isPlain_of_read reads kept).folded⟩,
    Draft.months_of_read reads, Draft.read_toDraft_of_read reads⟩

/-- March has two names here that are one; April stands last beside them, and May keeps its place
behind. A number that is refused is the cause also where a later name would replace its own. -/
theorem draft_with_one_name_twice :
    let draft : Draft := ⟨" DE ", .ofList [("März ", 3), ("mai", 5), ("MÄRZ", 4)]⟩
    let faulty : Draft := ⟨" DE ", .ofList [("jan", 1), ("Foo", 13), ("foo", 2), ("bar", 0)]⟩
    (∃ vocabulary, draft.read = .ok vocabulary ∧ vocabulary.code = "de" ∧
      vocabulary.months.keys = ["märz", "mai"] ∧
      (vocabulary.months.get? "märz").map (fun month => (month.number : Int)) = some 4 ∧
      vocabulary.toDraft.read = .ok vocabulary) ∧
    faulty.read = .error ⟨" DE ", "Foo", 13⟩ := by
  let draft : Draft := ⟨" DE ", .ofList [("März ", 3), ("mai", 5), ("MÄRZ", 4)]⟩
  let faulty : Draft := ⟨" DE ", .ofList [("jan", 1), ("Foo", 13), ("foo", 2), ("bar", 0)]⟩
  obtain ⟨vocabulary, reads⟩ := (drafts_are_normalized draft).1.2 (by decide +kernel)
  obtain ⟨code, keys, -, -, -, months, again⟩ := (drafts_are_normalized draft).2.2 vocabulary reads
  have isFault : faulty.IsFirstFault ("Foo", 13) :=
    ⟨[("jan", 1)], [("foo", 2), ("bar", 0)], rfl, by decide, by decide⟩
  exact ⟨⟨vocabulary, reads, code.trans (by decide +kernel), keys.trans (by decide +kernel),
    (months "märz").trans (by decide +kernel), again⟩,
    ((drafts_are_normalized faulty).2.1 _).2 ⟨_, isFault, rfl⟩⟩

end Almanac
