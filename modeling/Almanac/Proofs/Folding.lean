/-
This file proves what folding letter case away does to a text. Which characters a case
mapping leaves alone can be read off its table. The table of folding leads to characters
that it does not change any more, and it leaves blanks alone; so folding twice is folding
once, and a text folds word by word. Therefore normalizing keeps of a text its folded
words, and normalizing once more changes nothing.
-/

import Almanac.Proofs.Characters

namespace Almanac

namespace Text

/-! ### Strides of code points -/

/-- Every `step`-th code point from `first` to `last`. -/
structure Stride where
  first : Nat
  last : Nat
  step : Nat

namespace Stride

def Holds (stride : Stride) (code : Nat) : Prop :=
  stride.first ≤ code ∧ code ≤ stride.last ∧ (code - stride.first) % stride.step = 0

def single (code : Nat) : Stride := ⟨code, code, 1⟩

theorem single_holds (code : Nat) : (single code).Holds code :=
  ⟨Nat.le_refl code, Nat.le_refl code, Nat.mod_one _⟩

/-- Whether the code points of a stride are all even or all odd, as a test on its numbers. -/
def alternates (stride : Stride) : Bool :=
  Nat.beq stride.first stride.last || Nat.beq stride.step 2

theorem mod_two_of_alternates {stride : Stride} {code : Nat}
    (isAlternating : stride.alternates = true) (holds : stride.Holds code) :
    code % 2 = stride.first % 2 := by
  obtain ⟨above, below, place⟩ := holds
  simp only [alternates, Bool.or_eq_true, Nat.beq_eq] at isAlternating
  rcases isAlternating with alone | two
  · omega
  · rw [two] at place
    omega

/-- Whether two strides are seen to have no common code point: one ends before the other starts, or
one takes even code points and the other odd ones. -/
def apart (stride other : Stride) : Bool :=
  Nat.blt stride.last other.first || Nat.blt other.last stride.first ||
    (stride.alternates && other.alternates && Nat.beq ((stride.first + other.first) % 2) 1)

theorem not_holds_of_apart {stride other : Stride} {code : Nat}
    (areApart : stride.apart other = true) (holds : stride.Holds code) : ¬other.Holds code := by
  intro otherHolds
  simp only [apart, Bool.or_eq_true, Bool.and_eq_true, Nat.blt_eq, Nat.beq_eq] at areApart
  rcases areApart with (before | behind) | ⟨⟨alternating, otherAlternating⟩, odd⟩
  · exact absurd (holds.2.1.trans_lt before) (Nat.not_lt.2 otherHolds.1)
  · exact absurd (otherHolds.2.1.trans_lt behind) (Nat.not_lt.2 holds.1)
  · have parity := mod_two_of_alternates alternating holds
    have otherParity := mod_two_of_alternates otherAlternating otherHolds
    omega

end Stride

namespace CaseRun

/-- The code points that a run moves. -/
def source (run : CaseRun) : Stride := ⟨run.first, run.last, run.step⟩

/-- The code points to which a run moves. -/
def target (run : CaseRun) : Stride :=
  ⟨run.image, run.image + (run.last - run.first), run.step⟩

theorem target_holds (run : CaseRun) {code : Nat} (belongs : run.source.Holds code) :
    run.target.Holds (run.image + (code - run.first)) := by
  obtain ⟨above, below, place⟩ := belongs
  refine ⟨Nat.le_add_right _ _, Nat.add_le_add_left (Nat.sub_le_sub_right below _) _, ?_⟩
  have distance : run.image + (code - run.first) - run.target.first = code - run.first :=
    Nat.add_sub_cancel_left _ _
  rw [distance]
  exact place

end CaseRun

/-! ### Characters that a mapping leaves alone -/

/-- Whether ascending runs are seen to move no code point of a stride. Like the move itself, the test
ends at the first run that starts behind. -/
def Stride.clears (stride : Stride) : List CaseRun → Bool
  | [] => true
  | run :: rest =>
    bif Nat.blt run.last stride.first then stride.clears rest
    else Nat.blt stride.last run.first || (stride.apart run.source && stride.clears rest)

theorem CaseRun.move_eq_self {stride : Stride} {runs : List CaseRun} {code : Nat}
    (clears : stride.clears runs = true) (holds : stride.Holds code) : move runs code = code := by
  have above := holds.1
  have below := holds.2.1
  induction runs with
  | nil => rfl
  | cons run rest inductionHypothesis =>
    rw [Stride.clears, Bool.cond_eq_ite] at clears
    unfold move
    split
    · rfl
    · next reached =>
      split at clears
      · next behind =>
        rw [Nat.blt_eq] at behind
        rw [if_neg (by omega)]
        exact inductionHypothesis clears
      · simp only [Bool.or_eq_true, Bool.and_eq_true, Nat.blt_eq] at clears
        rcases clears with before | ⟨areApart, clearsRest⟩
        · exact absurd (below.trans_lt before) reached
        · have notHere := Stride.not_holds_of_apart areApart holds
          split
          · next taken => exact absurd ⟨Nat.le_of_not_lt reached, taken⟩ notHere
          · exact inductionHypothesis clearsRest

namespace CaseMapping

variable {mapping : CaseMapping} {stride : Stride}

/-- Whether a mapping is seen to change no code point of a stride. -/
def keeps (mapping : CaseMapping) (stride : Stride) : Bool :=
  (mapping.several.all fun entry => stride.apart (.single entry.1)) && stride.clears mapping.runs

theorem image_of_keeps {character : Char} (kept : mapping.keeps stride = true)
    (holds : stride.Holds character.toNat) : mapping.image character = [character] := by
  simp only [keeps, Bool.and_eq_true, List.all_eq_true] at kept
  have alone : mapping.several.lookup character.toNat = none := by
    refine List.lookup_eq_none_iff.2 fun entry member => ?_
    have different := Stride.not_holds_of_apart (kept.1 entry member) holds
    rw [bne_iff_ne]
    intro same
    rw [same] at different
    exact different (Stride.single_holds _)
  have stays : CaseRun.move mapping.runs character.toNat = character.toNat :=
    CaseRun.move_eq_self kept.2 holds
  rw [image, alone, stays, Char.ofNat_toNat]

/-- A code point that is kept stays, also where it is no character and counts as the character
zero. -/
theorem image_ofNat {code : Nat} (zero : mapping.image (Char.ofNat 0) = [Char.ofNat 0])
    (kept : mapping.keeps stride = true) (holds : stride.Holds code) :
    mapping.image (Char.ofNat code) = [Char.ofNat code] := by
  rcases toNat_ofNat_or code with place | isZero
  · rw [← place] at holds
    exact image_of_keeps kept holds
  · rw [isZero, zero]

/-- What a mapping leads to is not changed by it any more, as its table shows. -/
structure IsSettled (mapping : CaseMapping) : Prop where
  zero : mapping.image (Char.ofNat 0) = [Char.ofNat 0]
  several : ∀ entry ∈ mapping.several, ∀ code ∈ entry.2, mapping.keeps (.single code) = true
  targets : ∀ run ∈ mapping.runs, mapping.keeps run.target = true

theorem IsSettled.image_of_mem_image (settled : mapping.IsSettled) {character other : Char}
    (member : other ∈ mapping.image character) : mapping.image other = [other] := by
  rcases mapping.image_cases character with
    ⟨codes, listed, image⟩ | stays | ⟨run, inRuns, belongs, moved⟩
  · obtain ⟨code, inCodes, rfl⟩ := List.mem_map.1 (image ▸ member)
    exact image_ofNat settled.zero (settled.several _ listed code inCodes)
      (Stride.single_holds code)
  · obtain rfl := List.mem_singleton.1 (stays ▸ member)
    exact stays
  · obtain rfl := List.mem_singleton.1 (moved ▸ member)
    exact image_ofNat settled.zero (settled.targets run inRuns) (run.target_holds belongs)

end CaseMapping

/-! ### The table of folding -/

/-- Folding leads to characters that do not fold any more. -/
theorem foldMapping_isSettled : foldMapping.IsSettled where
  zero := rfl
  several := by decide +kernel
  targets := by decide +kernel

theorem blanks_isFolded : ∀ range ∈ blankRanges,
    foldMapping.keeps ⟨range.1, range.2, 1⟩ = true := by
  decide +kernel

/-- The hyphen, the point and the digits, with the stroke between them. -/
theorem digits_isFolded : foldMapping.keeps ⟨45, 57, 1⟩ = true := by
  decide +kernel

theorem image_of_isBlank {character : Char} (blank : isBlank character = true) :
    foldMapping.image character = [character] := by
  obtain ⟨range, inRanges, above, below⟩ := CodeRanges.exists_of_contains blank
  exact CaseMapping.image_of_keeps (blanks_isFolded range inRanges)
    ⟨above, below, Nat.mod_one _⟩

/-! ### Texts that are folded -/

theorem foldCase_cons (character : Char) (rest : List Char) :
    foldCase (character :: rest) = foldMapping.image character ++ foldCase rest := rfl

theorem foldCase_eq_self {text : List Char}
    (folded : ∀ character ∈ text, foldMapping.image character = [character]) :
    foldCase text = text := by
  induction text with
  | nil => rfl
  | cons character rest inductionHypothesis =>
    have restFolded := inductionHypothesis fun other member =>
      folded other (List.mem_cons_of_mem _ member)
    rw [foldCase_cons, folded character List.mem_cons_self, restFolded]
    rfl

/-- Folding twice is folding once. -/
theorem foldCase_foldCase (text : List Char) : foldCase (foldCase text) = foldCase text := by
  refine foldCase_eq_self fun character member => ?_
  obtain ⟨origin, -, inImage⟩ := List.mem_flatMap.1 member
  exact foldMapping_isSettled.image_of_mem_image inImage

/-! ### Folding word by word -/

theorem foldCase_ne_nil {text : List Char} (nonempty : text ≠ []) : foldCase text ≠ [] := by
  cases text with
  | nil => exact absurd rfl nonempty
  | cons character rest =>
    have imageNonempty : foldMapping.image character ≠ [] := by
      cases blank : isBlank character with
      | true =>
        rw [image_of_isBlank blank]
        exact List.cons_ne_nil _ _
      | false => exact (foldMapping_avoidsBlanks.isWord_image blank).1
    exact List.append_ne_nil_of_left_ne_nil imageNonempty _

/-- Characters that are not blank lengthen the first piece behind them. -/
theorem pieces_append_of_noBlank {run rest piece : List Char} {others : List (List Char)}
    (noBlank : ∀ character ∈ run, isBlank character = false)
    (split : pieces isBlank rest = piece :: others) :
    pieces isBlank (run ++ rest) = (run ++ piece) :: others := by
  induction run with
  | nil => exact split
  | cons character run inductionHypothesis =>
    have behind := inductionHypothesis fun other member =>
      noBlank other (List.mem_cons_of_mem _ member)
    rw [List.cons_append, pieces, noBlank character List.mem_cons_self,
      if_neg Bool.false_ne_true, behind]
    rfl

theorem pieces_foldCase (text : List Char) :
    pieces isBlank (foldCase text) = (pieces isBlank text).map foldCase := by
  induction text with
  | nil => rfl
  | cons character rest inductionHypothesis =>
    rw [foldCase_cons]
    cases blank : isBlank character with
    | true =>
      rw [image_of_isBlank blank, List.cons_append, List.nil_append, pieces, if_pos blank, pieces,
        if_pos blank, inductionHypothesis]
      rfl
    | false =>
      obtain ⟨piece, others, split⟩ := List.exists_cons_of_ne_nil (pieces_ne_nil rest)
      rw [split] at inductionHypothesis
      have lengthened : pieces isBlank (character :: rest) = (character :: piece) :: others :=
        pieces_append_of_noBlank (List.forall_mem_singleton.2 blank) split
      have isImageWord := foldMapping_avoidsBlanks.isWord_image blank
      rw [pieces_append_of_noBlank isImageWord.2 inductionHypothesis, lengthened]
      rfl

/-- The words of a folded text are the words of the text, folded. -/
theorem words_foldCase (text : List Char) : words (foldCase text) = (words text).map foldCase := by
  rw [words, words, pieces_foldCase, List.filter_map]
  refine congrArg (List.map foldCase) (List.filter_congr fun piece _ => ?_)
  cases piece with
  | nil => rfl
  | cons character rest =>
    have nonempty := foldCase_ne_nil (List.cons_ne_nil character rest)
    simp [nonempty]

end Text

/-! ### Normalized texts -/

namespace Specification

open Text

/-- A folded text without blanks around it is normalized. -/
theorem normalize_eq_self {text : List Char} (trimmed : IsTrimmed text)
    (folded : foldCase text = text) : normalize (some (String.ofList text)) = text := by
  have nonempty : text ≠ [] := by
    rintro rfl
    obtain ⟨_, none, -⟩ := trimmed.head
    cases none
  have stripped := strip_eq_self trimmed
  rw [normalize, Option.getD_some, String.toList_ofList, stripped]
  exact (if_neg nonempty).trans folded

theorem foldCase_normalize (text : Option String) : foldCase (normalize text) = normalize text := by
  unfold normalize
  dsimp only
  split
  · rfl
  · exact foldCase_foldCase _

/-- Normalizing twice is normalizing once. -/
theorem normalize_normalize (text : Option String) :
    normalize (some (String.ofList (normalize text))) = normalize text :=
  normalize_eq_self (isTrimmed_normalize text) (foldCase_normalize text)

/-- The words of a normalized text are the folded words of the text, or the default. -/
theorem words_normalize (text : Option String) : words (normalize text) =
    if words (foldCase (text.getD "").toList) = [] then [defaultText.toList]
    else words (foldCase (text.getD "").toList) := by
  have sameWords := words_strip (text.getD "").toList
  rw [words_foldCase]
  unfold normalize
  dsimp only
  split
  · next blank =>
    rw [blank] at sameWords
    rw [← sameWords]
    rfl
  · next left =>
    have nonempty := words_ne_nil (isTrimmed_strip left)
    rw [words_foldCase, sameWords]
    rw [sameWords] at nonempty
    rw [if_neg (mt List.map_eq_nil_iff.1 nonempty)]

end Specification

end Almanac
