/-
This file proves what writing a text in lower case does to it. Doing it twice is doing
it once, although a capital sigma is written by the letters around it, and a text that
is trimmed stays trimmed. So the form in which a language code is kept is its own.
-/

import Almanac.Language.Vocabulary
import Almanac.Proofs.Folding

namespace Almanac

namespace Text

/-! ### The table of lower case -/

theorem lowerMapping_avoidsBlanks : lowerMapping.AvoidsBlanks where
  several := by decide +kernel
  runs := by decide +kernel

theorem lowerMapping_isSettled : lowerMapping.IsSettled where
  zero := rfl
  several := by decide +kernel
  targets := by decide +kernel

/-! ### One character among others -/

/-- A character in lower case after the characters in `before` and in front of those in `rest`. -/
def lowerImage (before : List Char) (character : Char) (rest : List Char) : List Char :=
  if character = 'Σ' then
    if startsCased before && !startsCased rest then ['ς'] else ['σ']
  else
    lowerMapping.image character

theorem lowerAfter_cons (before : List Char) (character : Char) (rest : List Char) :
    lowerAfter before (character :: rest) =
      lowerImage before character rest ++ lowerAfter (character :: before) rest := rfl

/-- A capital sigma aside, the characters around one do not count. -/
theorem lowerImage_of_ne {character : Char} (noSigma : character ≠ 'Σ')
    (before rest : List Char) :
    lowerImage before character rest = lowerMapping.image character := if_neg noSigma

theorem lowerImage_cases (before : List Char) (character : Char) (rest : List Char) :
    lowerImage before character rest = ['ς'] ∨ lowerImage before character rest = ['σ'] ∨
      lowerImage before character rest = lowerMapping.image character := by
  by_cases isSigma : character = 'Σ'
  · rw [lowerImage, if_pos isSigma]
    exact (ite_eq_or_eq _ _ _).imp_right Or.inl
  · exact Or.inr (Or.inr (lowerImage_of_ne isSigma before rest))

theorem image_of_mem_lowerImage {before rest : List Char} {character other : Char}
    (member : other ∈ lowerImage before character rest) : lowerMapping.image other = [other] := by
  rcases lowerImage_cases before character rest with final | inside | alone
  · obtain rfl := List.mem_singleton.1 (final ▸ member)
    decide
  · obtain rfl := List.mem_singleton.1 (inside ▸ member)
    decide
  · exact lowerMapping_isSettled.image_of_mem_image (alone ▸ member)

theorem isWord_lowerImage {character : Char} (noBlank : isBlank character = false)
    (before rest : List Char) : IsWord (lowerImage before character rest) := by
  rcases lowerImage_cases before character rest with final | inside | alone
  · rw [final]
    exact ⟨List.cons_ne_nil _ _, List.forall_mem_singleton.2 (by decide)⟩
  · rw [inside]
    exact ⟨List.cons_ne_nil _ _, List.forall_mem_singleton.2 (by decide)⟩
  · rw [alone]
    exact lowerMapping_avoidsBlanks.isWord_image noBlank

/-! ### Texts in lower case -/

theorem image_of_mem_lowerAfter {before text : List Char} {character : Char}
    (member : character ∈ lowerAfter before text) :
    lowerMapping.image character = [character] := by
  induction text generalizing before with
  | nil => cases member
  | cons first rest inductionHypothesis =>
    rw [lowerAfter_cons, List.mem_append] at member
    rcases member with here | behind
    · exact image_of_mem_lowerImage here
    · exact inductionHypothesis behind

/-- No capital sigma is left in such a text, so that every character stands for itself wherever it
is. -/
theorem lowerAfter_eq_self {text : List Char}
    (lowered : ∀ character ∈ text, lowerMapping.image character = [character])
    (before : List Char) : lowerAfter before text = text := by
  induction text generalizing before with
  | nil => rfl
  | cons character rest inductionHypothesis =>
    have here := lowered character List.mem_cons_self
    have noSigma : character ≠ 'Σ' := by
      rintro rfl
      exact absurd here (by decide)
    have behind := inductionHypothesis
      (fun other member => lowered other (List.mem_cons_of_mem _ member)) (character :: before)
    rw [lowerAfter_cons, lowerImage_of_ne noSigma, here, behind]
    rfl

/-- Lower case of lower case is lower case. -/
theorem toLower_toLower (text : List Char) : toLower (toLower text) = toLower text :=
  lowerAfter_eq_self (fun _ => image_of_mem_lowerAfter) []

/-- What is in front of a text only counts as such for the lower case of the text. -/
theorem exists_lowerAfter_append (before front rest : List Char) :
    ∃ image, lowerAfter before (front ++ rest) =
      image ++ lowerAfter (front.reverse ++ before) rest := by
  induction front generalizing before with
  | nil => exact ⟨[], rfl⟩
  | cons character front inductionHypothesis =>
    obtain ⟨image, split⟩ := inductionHypothesis (character :: before)
    refine ⟨lowerImage before character (front ++ rest) ++ image, ?_⟩
    rw [List.cons_append, lowerAfter_cons, split, List.reverse_cons, List.append_assoc,
      List.append_assoc]
    rfl

theorem isTrimmed_toLower {text : List Char} (trimmed : IsTrimmed text) :
    IsTrimmed (toLower text) := by
  obtain ⟨⟨first, isFirst, firstNoBlank⟩, ⟨last, isLast, lastNoBlank⟩⟩ := trimmed
  refine ⟨?_, ?_⟩
  · obtain ⟨rest, rfl⟩ := List.head?_eq_some_iff.1 isFirst
    obtain ⟨character, begins, noBlank⟩ := (isWord_lowerImage firstNoBlank [] rest).isTrimmed.head
    refine ⟨character, ?_, noBlank⟩
    rw [toLower, lowerAfter_cons, List.head?_append, begins]
    rfl
  · obtain ⟨front, rfl⟩ := List.getLast?_eq_some_iff.1 isLast
    obtain ⟨image, split⟩ := exists_lowerAfter_append [] front [last]
    obtain ⟨character, ends, noBlank⟩ :=
      (isWord_lowerImage lastNoBlank (front.reverse ++ []) []).isTrimmed.last
    refine ⟨character, ?_, noBlank⟩
    rw [toLower, split, lowerAfter_cons, List.getLast?_append, lowerAfter, List.append_nil, ends]
    rfl

end Text

open Text

/-- The form in which a code is kept is kept as it is. -/
theorem codeKey_codeKey (code : String) : codeKey (codeKey code) = codeKey code := by
  have keptAlready : strip (toLower (strip code.toList)) = toLower (strip code.toList) := by
    by_cases empty : strip code.toList = []
    · rw [empty]
      rfl
    · exact strip_eq_self (isTrimmed_toLower (isTrimmed_strip empty))
  rw [codeKey, codeKey, String.toList_ofList, keptAlready, toLower_toLower]

end Almanac
