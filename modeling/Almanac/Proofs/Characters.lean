/-
This file proves what the tables of characters have to do with each other: letters,
digits and blanks exclude one another, and folding letter case away never turns a
character that is not blank into a blank or into nothing. So a normalized text is
trimmed.
-/

import Almanac.Proofs.Words
import Almanac.Specification.Basic
import Almanac.Text.Decimal
import Almanac.Text.Letter

namespace Almanac.Text

/-! ### Tables without a common character -/

/-- Whether a range of code points and a set of them have nothing in common. -/
def AvoidsRange (low high : Nat) (ranges : CodeRanges) : Prop :=
  ∀ range ∈ ranges, high < range.1 ∨ range.2 < low

instance (low high : Nat) (ranges : CodeRanges) : Decidable (AvoidsRange low high ranges) :=
  inferInstanceAs (Decidable (∀ range ∈ ranges, high < range.1 ∨ range.2 < low))

theorem AvoidsRange.contains_eq_false {low high code : Nat} {ranges : CodeRanges}
    (avoids : AvoidsRange low high ranges) (above : low ≤ code) (below : code ≤ high) :
    ranges.contains code = false := by
  refine Bool.eq_false_iff.2 fun member => ?_
  obtain ⟨range, inRanges, bounds⟩ := CodeRanges.exists_of_contains member
  rcases avoids range inRanges with before | behind <;> omega

theorem letterRanges_avoid_blanks : ∀ range ∈ letterRanges,
    AvoidsRange range.1 range.2 blankRanges := by
  decide +kernel

/-- No letter is a digit, a point or a hyphen: the code points of these are 45 to 57. -/
theorem letterRanges_avoid_digits : AvoidsRange 45 57 letterRanges := by
  decide +kernel

theorem isBlank_of_isLetter {character : Char} (letter : isLetter character = true) :
    isBlank character = false := by
  obtain ⟨range, inRanges, bounds⟩ := CodeRanges.exists_of_contains letter
  exact (letterRanges_avoid_blanks range inRanges).contains_eq_false bounds.1 bounds.2

theorem isLetter_eq_false {character : Char} (above : 45 ≤ character.toNat)
    (below : character.toNat ≤ 57) : isLetter character = false :=
  letterRanges_avoid_digits.contains_eq_false above below

theorem isBlank_eq_false {character : Char} (above : 33 ≤ character.toNat)
    (below : character.toNat ≤ 126) : isBlank character = false := by
  have avoids : AvoidsRange 33 126 blankRanges := by decide
  exact avoids.contains_eq_false above below

theorem isDigit_iff (character : Char) :
    isDigit character = true ↔ 48 ≤ character.toNat ∧ character.toNat ≤ 57 := by
  simp [isDigit]

theorem isBlank_of_isDigit {character : Char} (digit : isDigit character = true) :
    isBlank character = false := by
  have bounds := (isDigit_iff character).1 digit
  exact isBlank_eq_false (by omega) (by omega)

theorem isLetter_of_isDigit {character : Char} (digit : isDigit character = true) :
    isLetter character = false := by
  have bounds := (isDigit_iff character).1 digit
  exact isLetter_eq_false (by omega) bounds.2

/-! ### Case mappings -/

/-- A code point that moves is moved by a run to which it belongs. -/
theorem CaseRun.move_eq_or (runs : List CaseRun) (code : Nat) :
    move runs code = code ∨ ∃ run ∈ runs,
      (run.first ≤ code ∧ code ≤ run.last ∧ (code - run.first) % run.step = 0) ∧
        move runs code = run.image + (code - run.first) := by
  induction runs with
  | nil => exact Or.inl rfl
  | cons run rest inductionHypothesis =>
    unfold move
    split
    · exact Or.inl rfl
    · next reached =>
      split
      · next taken =>
        exact Or.inr ⟨run, List.mem_cons_self, ⟨Nat.le_of_not_lt reached, taken⟩, rfl⟩
      · rcases inductionHypothesis with stays | ⟨found, inRest, moved⟩
        · exact Or.inl stays
        · exact Or.inr ⟨found, List.mem_cons_of_mem _ inRest, moved⟩

/-- A character turns into the several that are listed for it, or it stays, or a run to which it
belongs moves it. -/
theorem CaseMapping.image_cases (mapping : CaseMapping) (character : Char) :
    (∃ codes, (character.toNat, codes) ∈ mapping.several ∧
      mapping.image character = codes.map Char.ofNat) ∨
    mapping.image character = [character] ∨
    ∃ run ∈ mapping.runs, (run.first ≤ character.toNat ∧ character.toNat ≤ run.last ∧
        (character.toNat - run.first) % run.step = 0) ∧
      mapping.image character = [Char.ofNat (run.image + (character.toNat - run.first))] := by
  unfold image
  split
  · next codes found =>
    obtain ⟨before, after, split, -⟩ := List.lookup_eq_some_iff.1 found
    have listed : (character.toNat, codes) ∈ mapping.several := by
      rw [split]
      exact List.mem_append_right _ List.mem_cons_self
    exact Or.inl ⟨codes, listed, rfl⟩
  · rcases CaseRun.move_eq_or mapping.runs character.toNat with
      stays | ⟨run, inRuns, belongs, moved⟩
    · rw [stays, Char.ofNat_toNat]
      exact Or.inr (Or.inl rfl)
    · rw [moved]
      exact Or.inr (Or.inr ⟨run, inRuns, belongs, rfl⟩)

/-- A code point that is no character at all counts as the character zero. -/
theorem toNat_ofNat_or (code : Nat) :
    (Char.ofNat code).toNat = code ∨ Char.ofNat code = Char.ofNat 0 := by
  by_cases valid : code.isValidChar
  · refine Or.inl ?_
    rw [Char.ofNat, dif_pos valid]
    rfl
  · refine Or.inr ?_
    rw [Char.ofNat, dif_neg valid]
    rfl

/-- What a mapping leads to is not blank, as its table shows, and no character vanishes. -/
structure CaseMapping.AvoidsBlanks (mapping : CaseMapping) : Prop where
  several : ∀ entry ∈ mapping.several,
    entry.2 ≠ [] ∧ ∀ code ∈ entry.2, isBlank (Char.ofNat code) = false
  runs : ∀ run ∈ mapping.runs,
    AvoidsRange run.image (run.image + (run.last - run.first)) blankRanges

theorem foldMapping_avoidsBlanks : foldMapping.AvoidsBlanks where
  several := by decide +kernel
  runs := by decide +kernel

theorem isBlank_ofNat {code : Nat} (noBlank : blankRanges.contains code = false) :
    isBlank (Char.ofNat code) = false := by
  rcases toNat_ofNat_or code with place | isZero
  · rw [isBlank, place]
    exact noBlank
  · rw [isZero]
    rfl

/-- The image of a character that is not blank is a word. -/
theorem CaseMapping.AvoidsBlanks.isWord_image {mapping : CaseMapping}
    (avoids : mapping.AvoidsBlanks) {character : Char} (noBlank : isBlank character = false) :
    IsWord (mapping.image character) := by
  rcases mapping.image_cases character with
    ⟨codes, listed, image⟩ | stays | ⟨run, inRuns, ⟨above, below, -⟩, moved⟩
  · obtain ⟨nonempty, noBlanks⟩ := avoids.several _ listed
    rw [image]
    exact ⟨fun empty => nonempty (List.map_eq_nil_iff.1 empty), List.forall_mem_map.2 noBlanks⟩
  · rw [stays]
    exact ⟨List.cons_ne_nil _ _, List.forall_mem_singleton.2 noBlank⟩
  · rw [moved]
    refine ⟨List.cons_ne_nil _ _, List.forall_mem_singleton.2 (isBlank_ofNat ?_)⟩
    exact (avoids.runs run inRuns).contains_eq_false (by omega) (by omega)

theorem isTrimmed_foldCase {text : List Char} (trimmed : IsTrimmed text) :
    IsTrimmed (foldCase text) := by
  obtain ⟨⟨first, isFirst, firstNoBlank⟩, ⟨last, isLast, lastNoBlank⟩⟩ := trimmed
  obtain ⟨firstImage, -⟩ := (foldMapping_avoidsBlanks.isWord_image firstNoBlank).isTrimmed
  obtain ⟨-, lastImage⟩ := (foldMapping_avoidsBlanks.isWord_image lastNoBlank).isTrimmed
  obtain ⟨firstCharacter, begins, firstResult⟩ := firstImage
  obtain ⟨lastCharacter, ends, lastResult⟩ := lastImage
  refine ⟨⟨firstCharacter, ?_, firstResult⟩, ⟨lastCharacter, ?_, lastResult⟩⟩
  · obtain ⟨rest, rfl⟩ := List.head?_eq_some_iff.1 isFirst
    rw [foldCase, CaseMapping.apply, List.flatMap_cons, List.head?_append, begins]
    rfl
  · obtain ⟨front, rfl⟩ := List.getLast?_eq_some_iff.1 isLast
    rw [foldCase, CaseMapping.apply, List.flatMap_append, List.getLast?_append,
      List.flatMap_singleton, ends]
    rfl

end Almanac.Text

namespace Almanac.Specification

open Text

/-- A normalized text is trimmed; in particular it is not empty. -/
theorem isTrimmed_normalize (text : Option String) : IsTrimmed (normalize text) := by
  unfold normalize
  dsimp only
  split
  · exact ⟨⟨'t', rfl, by decide⟩, ⟨'y', rfl, by decide⟩⟩
  · next left => exact isTrimmed_foldCase (isTrimmed_strip left)

end Almanac.Specification
