/-
This file relates the words of a text to the ways of writing them. A text that
neither starts nor ends with a blank is its words with a gap of blanks between any
two of them, and no other list of words can be spaced out to the same text.
-/

import Mathlib.Data.List.DropRight
import Almanac.Text.Blank

namespace Almanac.Text

/-! ### Words and gaps -/

/-- Blanks only, or nothing. -/
def IsBlankRun (text : List Char) : Prop := ∀ character ∈ text, isBlank character = true

/-- Blanks only, and at least one. -/
def IsGap (text : List Char) : Prop := text ≠ [] ∧ IsBlankRun text

/-- No blanks, and at least one character. -/
def IsWord (text : List Char) : Prop := text ≠ [] ∧ ∀ character ∈ text, isBlank character = false

/-- Words in a row, with a gap between any two of them. -/
inductive Spaced : List (List Char) → List Char → Prop
  | last {word : List Char} (isWord : IsWord word) : Spaced [word] word
  | more {word gap text : List Char} {others : List (List Char)} (isWord : IsWord word)
      (isGap : IsGap gap) (rest : Spaced others text) :
      Spaced (word :: others) (word ++ gap ++ text)

/-- A text that starts and ends with characters that are not blank. -/
structure IsTrimmed (text : List Char) : Prop where
  head : ∃ character, text.head? = some character ∧ isBlank character = false
  last : ∃ character, text.getLast? = some character ∧ isBlank character = false

theorem isWord_of_any {word : List Char} (nonempty : word ≠ [])
    (noBlank : word.any isBlank = false) : IsWord word :=
  ⟨nonempty, fun character member =>
    Bool.eq_false_iff.2 (List.any_eq_false.1 noBlank character member)⟩

theorem IsWord.append {first second : List Char} (isFirst : IsWord first)
    (isSecond : IsWord second) : IsWord (first ++ second) :=
  ⟨List.append_ne_nil_of_left_ne_nil isFirst.1 _,
    List.forall_mem_append.2 ⟨isFirst.2, isSecond.2⟩⟩

theorem IsWord.isTrimmed {word : List Char} (isWord : IsWord word) : IsTrimmed word := by
  obtain ⟨nonempty, noBlank⟩ := isWord
  exact ⟨⟨word.head nonempty, List.head?_eq_some_head nonempty, noBlank _ (List.head_mem nonempty)⟩,
    ⟨word.getLast nonempty, List.getLast?_eq_some_getLast nonempty,
      noBlank _ (List.getLast_mem nonempty)⟩⟩

/-! ### The words of a spaced text -/

theorem pieces_of_noBlank {run : List Char}
    (noBlank : ∀ character ∈ run, isBlank character = false) :
    pieces isBlank run = [run] := by
  induction run with
  | nil => rfl
  | cons character rest inductionHypothesis =>
    have restPieces := inductionHypothesis fun other member =>
      noBlank other (List.mem_cons_of_mem _ member)
    rw [pieces, noBlank character List.mem_cons_self, if_neg Bool.false_ne_true, restPieces]

theorem pieces_ne_nil (text : List Char) : pieces isBlank text ≠ [] := by
  cases text with
  | nil => exact List.cons_ne_nil _ _
  | cons character rest =>
    unfold pieces
    split
    · exact List.cons_ne_nil _ _
    · split <;> exact List.cons_ne_nil _ _

/-- A blank ends the pieces in front of it. -/
theorem pieces_append_blank {blank : Char} (isBlank_blank : isBlank blank = true)
    (before after : List Char) :
    pieces isBlank (before ++ blank :: after) = pieces isBlank before ++ pieces isBlank after := by
  induction before with
  | nil => exact if_pos isBlank_blank
  | cons character before inductionHypothesis =>
    rw [List.cons_append, pieces, pieces, inductionHypothesis]
    split
    · rfl
    · obtain ⟨piece, others, split⟩ := List.exists_cons_of_ne_nil (pieces_ne_nil before)
      rw [split]
      rfl

theorem words_of_isWord {word : List Char} (isWord : IsWord word) : words word = [word] := by
  rw [words, pieces_of_noBlank isWord.2]
  exact List.filter_cons_of_pos (by simpa using isWord.1)

/-- Blanks in front of a text add no words. -/
theorem words_append_of_isBlankRun {run : List Char} (blanks : IsBlankRun run) (text : List Char) :
    words (run ++ text) = words text := by
  induction run with
  | nil => rfl
  | cons blank run inductionHypothesis =>
    have rest := inductionHypothesis fun other member =>
      blanks other (List.mem_cons_of_mem _ member)
    rw [← rest, words, List.cons_append, pieces, if_pos (blanks blank List.mem_cons_self)]
    rfl

/-- A gap ends the words in front of it. -/
theorem words_append_gap {gap : List Char} (isGap : IsGap gap) (before after : List Char) :
    words (before ++ gap ++ after) = words before ++ words after := by
  obtain ⟨nonempty, blanks⟩ := isGap
  cases gap with
  | nil => exact absurd rfl nonempty
  | cons blank gap =>
    have rest := words_append_of_isBlankRun
      (fun other member => blanks other (List.mem_cons_of_mem _ member)) after
    rw [List.append_assoc, List.cons_append, words,
      pieces_append_blank (blanks blank List.mem_cons_self), List.filter_append, ← rest]
    rfl

theorem IsBlankRun.eq_nil_or_isGap {run : List Char} (blanks : IsBlankRun run) :
    run = [] ∨ IsGap run :=
  (em (run = [])).imp_right fun nonempty => ⟨nonempty, blanks⟩

/-- Blanks behind a text add no words. -/
theorem words_append_blanks {run : List Char} (blanks : IsBlankRun run) (text : List Char) :
    words (text ++ run) = words text := by
  rcases blanks.eq_nil_or_isGap with rfl | isGap
  · rw [List.append_nil]
  · have same := words_append_gap isGap text []
    rw [List.append_nil] at same
    exact same.trans (List.append_nil _)

/-- The words of a spaced text are those that it was made from. -/
theorem Spaced.words_eq {list : List (List Char)} {text : List Char} (spaced : Spaced list text) :
    words text = list := by
  induction spaced with
  | last isWord => exact words_of_isWord isWord
  | more isWord isGap rest inductionHypothesis =>
    rw [words_append_gap isGap, words_of_isWord isWord, inductionHypothesis]
    rfl

theorem words_pair {first gap second : List Char} (isFirst : IsWord first) (isGap : IsGap gap)
    (isSecond : IsWord second) : words (first ++ gap ++ second) = [first, second] :=
  (Spaced.more isFirst isGap (.last isSecond)).words_eq

theorem words_triple {first gap second nextGap third : List Char} (isFirst : IsWord first)
    (isGap : IsGap gap) (isSecond : IsWord second) (isNextGap : IsGap nextGap)
    (isThird : IsWord third) :
    words (first ++ gap ++ (second ++ nextGap ++ third)) = [first, second, third] :=
  (Spaced.more isFirst isGap (.more isSecond isNextGap (.last isThird))).words_eq

/-! ### Every trimmed text is spaced -/

/-- One more character in front of a spaced text lengthens its first word. -/
theorem Spaced.cons {list : List (List Char)} {text : List Char} {character : Char}
    (spaced : Spaced list text) (noBlank : isBlank character = false) :
    ∃ longer, Spaced longer (character :: text) := by
  have isWord_cons {word : List Char} (isWord : IsWord word) : IsWord (character :: word) :=
    ⟨List.cons_ne_nil _ _, List.forall_mem_cons.2 ⟨noBlank, isWord.2⟩⟩
  cases spaced with
  | last isWord => exact ⟨_, .last (isWord_cons isWord)⟩
  | more isWord isGap rest => exact ⟨_, .more (isWord_cons isWord) isGap rest⟩

/-- A text that ends with a character that is not blank is a spaced text behind blanks. -/
theorem exists_spaced (text : List Char)
    (last : ∃ character, text.getLast? = some character ∧ isBlank character = false) :
    ∃ blanks list rest, text = blanks ++ rest ∧ IsBlankRun blanks ∧ Spaced list rest := by
  induction text with
  | nil =>
    obtain ⟨_, none, _⟩ := last
    cases none
  | cons character text inductionHypothesis =>
    cases text with
    | nil =>
      obtain ⟨_, same, noBlank⟩ := last
      cases same
      exact ⟨[], [[character]], [character], rfl, List.forall_mem_nil _,
        .last ⟨List.cons_ne_nil _ _, List.forall_mem_singleton.2 noBlank⟩⟩
    | cons second others =>
      rw [List.getLast?_cons_cons] at last
      obtain ⟨blanks, list, rest, split, areBlanks, spaced⟩ := inductionHypothesis last
      rw [split]
      cases isBlankCharacter : isBlank character with
      | true =>
        exact ⟨character :: blanks, list, rest, rfl,
          List.forall_mem_cons.2 ⟨isBlankCharacter, areBlanks⟩, spaced⟩
      | false =>
        -- the character starts a word of its own or lengthens the first one
        cases blanks with
        | nil =>
          obtain ⟨longer, isSpaced⟩ := spaced.cons isBlankCharacter
          exact ⟨[], longer, character :: rest, rfl, List.forall_mem_nil _, isSpaced⟩
        | cons blank blanks =>
          have isWord : IsWord [character] :=
            ⟨List.cons_ne_nil _ _, List.forall_mem_singleton.2 isBlankCharacter⟩
          exact ⟨[], _, [character] ++ (blank :: blanks) ++ rest, rfl, List.forall_mem_nil _,
            .more isWord ⟨List.cons_ne_nil _ _, areBlanks⟩ spaced⟩

/-- A trimmed text is its words with gaps between them, and no other words make it up. -/
theorem words_eq_iff {text : List Char} (trimmed : IsTrimmed text) (list : List (List Char)) :
    words text = list ↔ Spaced list text := by
  refine ⟨?_, Spaced.words_eq⟩
  rintro rfl
  obtain ⟨blanks, list, rest, rfl, areBlanks, spaced⟩ := exists_spaced text trimmed.last
  cases blanks with
  | nil =>
    have same : words ([] ++ rest) = list := spaced.words_eq
    rwa [same]
  | cons blank blanks =>
    obtain ⟨_, same, noBlank⟩ := trimmed.head
    cases same
    rw [areBlanks blank List.mem_cons_self] at noBlank
    cases noBlank

theorem spaced_pair_iff (first second text : List Char) :
    Spaced [first, second] text ↔ IsWord first ∧ IsWord second ∧
      ∃ gap, IsGap gap ∧ text = first ++ gap ++ second := by
  constructor
  · rintro (_ | ⟨isFirst, isGap, rest⟩)
    cases rest with
    | last isSecond => exact ⟨isFirst, isSecond, _, isGap, rfl⟩
    | more _ _ none => cases none
  · rintro ⟨isFirst, isSecond, gap, isGap, rfl⟩
    exact .more isFirst isGap (.last isSecond)

theorem spaced_triple_iff (first second third text : List Char) :
    Spaced [first, second, third] text ↔ IsWord first ∧ IsWord second ∧ IsWord third ∧
      ∃ gap, IsGap gap ∧ ∃ nextGap, IsGap nextGap ∧
        text = first ++ gap ++ (second ++ nextGap ++ third) := by
  constructor
  · rintro (_ | ⟨isFirst, isGap, rest⟩)
    obtain ⟨isSecond, isThird, nextGap, isNextGap, rfl⟩ := (spaced_pair_iff _ _ _).1 rest
    exact ⟨isFirst, isSecond, isThird, _, isGap, nextGap, isNextGap, rfl⟩
  · rintro ⟨isFirst, isSecond, isThird, gap, isGap, nextGap, isNextGap, rfl⟩
    exact .more isFirst isGap (.more isSecond isNextGap (.last isThird))

/-! ### Stripping -/

/-- What is left of a text without the blanks around it is trimmed, if anything is. -/
theorem isTrimmed_strip {text : List Char} (left : strip text ≠ []) : IsTrimmed (strip text) := by
  have isRight : strip text = (text.dropWhile isBlank).rdropWhile isBlank := rfl
  rw [isRight] at left ⊢
  have begins := List.rdropWhile_prefix isBlank (text.dropWhile isBlank)
  have front : text.dropWhile isBlank ≠ [] := fun empty => left (by rw [empty]; rfl)
  refine ⟨⟨_, List.head?_eq_some_head left, ?_⟩, ⟨_, List.getLast?_eq_some_getLast left, ?_⟩⟩
  · rw [begins.head left]
    exact List.head_dropWhile_not isBlank front
  · exact Bool.eq_false_iff.2 (List.rdropWhile_last_not isBlank _ left)

/-- Blanks in front of a text are dropped, up to its first character that is not blank. -/
theorem dropWhile_append_of_head {run text : List Char} (isRun : IsBlankRun run) {first : Char}
    (begins : text.head? = some first) (noBlank : isBlank first = false) :
    (run ++ text).dropWhile isBlank = text := by
  obtain ⟨rest, rfl⟩ := List.head?_eq_some_iff.1 begins
  rw [List.dropWhile_append_of_pos isRun]
  exact List.dropWhile_cons_of_neg (by rw [noBlank]; exact Bool.false_ne_true)

theorem strip_append {before core behind : List Char} (isBefore : IsBlankRun before)
    (isBehind : IsBlankRun behind) (trimmed : IsTrimmed core) :
    strip (before ++ (core ++ behind)) = core := by
  obtain ⟨⟨first, begins, firstNoBlank⟩, ⟨last, ends, lastNoBlank⟩⟩ := trimmed
  have front : (before ++ (core ++ behind)).dropWhile isBlank = core ++ behind :=
    dropWhile_append_of_head isBefore (by rw [List.head?_append, begins]; rfl) firstNoBlank
  have back : (behind.reverse ++ core.reverse).dropWhile isBlank = core.reverse :=
    dropWhile_append_of_head (fun character member => isBehind character (List.mem_reverse.1 member))
      (by rw [List.head?_reverse, ends]) lastNoBlank
  rw [strip, front, stripEnd, List.reverse_append, back, List.reverse_reverse]

theorem strip_eq_self {text : List Char} (trimmed : IsTrimmed text) : strip text = text := by
  have noBlanks : IsBlankRun [] := List.forall_mem_nil _
  have stripped := strip_append noBlanks noBlanks trimmed
  rwa [List.nil_append, List.append_nil] at stripped

/-- Stripping takes nothing off a text but blanks. -/
theorem exists_append_strip (text : List Char) : ∃ before behind : List Char,
    IsBlankRun before ∧ IsBlankRun behind ∧ text = before ++ (strip text ++ behind) := by
  refine ⟨text.takeWhile isBlank, (text.dropWhile isBlank).rtakeWhile isBlank,
    fun _ => List.mem_takeWhile_imp, fun _ => List.mem_rtakeWhile_imp, ?_⟩
  have isRight : strip text = (text.dropWhile isBlank).rdropWhile isBlank := rfl
  rw [isRight, List.rdropWhile_append_rtakeWhile, List.takeWhile_append_dropWhile]

/-- The blanks around a text add no words. -/
theorem words_strip (text : List Char) : words (strip text) = words text := by
  obtain ⟨before, behind, isBefore, isBehind, around⟩ := exists_append_strip text
  calc words (strip text)
      = words (strip text ++ behind) := (words_append_blanks isBehind _).symm
    _ = words (before ++ (strip text ++ behind)) :=
        (words_append_of_isBlankRun isBefore _).symm
    _ = words text := by rw [← around]

theorem words_ne_nil {text : List Char} (trimmed : IsTrimmed text) : words text ≠ [] := by
  intro none
  cases (words_eq_iff trimmed []).1 none

end Almanac.Text
