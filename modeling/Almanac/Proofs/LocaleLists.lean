/-
This file proves how a list of locales is read and written. The list is cut at its
commas, and each piece that is not blank names a vocabulary at hand. Joining the codes
of the vocabularies again gives a list with just these codes, whether it is only cut
at its commas or read as before.
-/

import Mathlib.Data.List.Find
import Almanac.Preferences.Basic
import Almanac.Proofs.LowerCase
import Almanac.Proofs.Vocabularies

namespace Almanac

open Text

theorem Text.pieces_eq_splitOnP (separates : Char → Bool) (text : List Char) :
    pieces separates text = text.splitOnP separates := by
  induction text with
  | nil => rw [List.splitOnP_nil, pieces]
  | cons character rest inductionHypothesis =>
    rw [List.splitOnP_cons_eq_if_modifyHead, pieces, inductionHypothesis]
    obtain ⟨piece, others, split⟩ :=
      List.exists_cons_of_ne_nil (List.splitOnP_ne_nil separates rest)
    rw [split]
    rfl

theorem map_codeKey_eq_self {codes : List String}
    (kept : ∀ code ∈ codes, codeKey code = code) : codes.map codeKey = codes :=
  (List.map_congr_left kept).trans (List.map_id codes)

/-! ### Vocabularies at hand -/

namespace Vocabulary

/-- The codes of the vocabularies that are always at hand. -/
def codesAtHand : List String := builtIn.map Vocabulary.code

theorem eq_of_code_eq {first second : Vocabulary} (isFirst : first ∈ builtIn)
    (isSecond : second ∈ builtIn) (sameCode : first.code = second.code) : first = second := by
  have distinct : codesAtHand.Nodup := by decide
  exact List.inj_on_of_nodup_map distinct isFirst isSecond sameCode

theorem ofCode_eq_ok_iff (code : Option String) (vocabulary : Vocabulary) :
    ofCode code = .ok vocabulary ↔
      vocabulary ∈ builtIn ∧ vocabulary.code = codeKey (code.getD "") := by
  unfold ofCode
  dsimp only
  constructor
  · intro found
    split at found
    · next member isFound =>
      obtain rfl := Except.ok.inj found
      have sameCode := List.find?_some isFound
      exact ⟨List.mem_of_find?_eq_some isFound, of_decide_eq_true sameCode⟩
    · cases found
  · rintro ⟨member, sameCode⟩
    rw [← sameCode]
    rcases List.mem_pair.1 member with rfl | rfl <;> rfl

theorem ofCode_eq_error_iff (code : Option String) (unknown : UnknownLocale) :
    ofCode code = .error unknown ↔ codeKey (code.getD "") ∉ codesAtHand ∧ unknown = ⟨code⟩ := by
  have notFound : builtIn.find? (fun vocabulary => vocabulary.code = codeKey (code.getD "")) =
      none ↔ codeKey (code.getD "") ∉ codesAtHand := by
    simp [codesAtHand]
  rw [← notFound, ofCode]
  cases builtIn.find? (fun vocabulary => vocabulary.code = codeKey (code.getD "")) with
  | none => simp [eq_comm]
  | some found => simp

theorem mapM_ofCode_eq_ok_iff (codes : List String) (vocabularies : List Vocabulary) :
    (codes.mapM fun code => ofCode (some code)) = .ok vocabularies ↔
      (∀ vocabulary ∈ vocabularies, vocabulary ∈ builtIn) ∧
        vocabularies.map Vocabulary.code = codes.map codeKey := by
  have turn : List.Forall₂ (fun code vocabulary => ofCode (some code) = .ok vocabulary) codes
      vocabularies ↔ List.Forall₂ (fun vocabulary code => vocabulary ∈ builtIn ∧
        vocabulary.code = codeKey code) vocabularies codes := by
    simp only [ofCode_eq_ok_iff, Option.getD_some]
    exact ⟨List.Forall₂.flip, List.Forall₂.flip⟩
  rw [mapM_eq_ok_iff, turn, List.forall₂_and_left, ← List.forall₂_eq_eq_eq,
    List.forall₂_map_left_iff, List.forall₂_map_right_iff]

end Vocabulary

open Vocabulary

namespace Preferences

/-! ### Lists of locales -/

/-- The codes that a list of locales names. -/
def namedCodes (text : String) : List String :=
  ((text.toList.splitOn ',').filter fun piece => strip piece ≠ []).map fun piece =>
    codeKey (String.ofList piece)

theorem localeItems_eq_namedCodes (text : String) : localeItems text = namedCodes text := by
  unfold localeItems namedCodes
  dsimp only
  have cut : pieces (· = ',') text.toList = text.toList.splitOn ',' := pieces_eq_splitOnP _ _
  rw [cut, List.filter_map, List.map_map]
  have sameTest : ((fun item : List Char => !item.isEmpty) ∘ strip) =
      fun piece => decide (strip piece ≠ []) := by
    funext piece
    rw [Function.comp_apply]
    cases strip piece <;> rfl
  rw [sameTest]
  refine List.map_congr_left fun piece member => ?_
  have left : strip piece ≠ [] := of_decide_eq_true (List.mem_filter.1 member).2
  have stripped := strip_eq_self (isTrimmed_strip left)
  simp only [Function.comp_apply, codeKey, String.toList_ofList, stripped]

/-- A code is brought to its plain form when a list is read and again when it is looked up. The second
time does not change it. -/
theorem codeKey_of_mem_namedCodes {text code : String} (member : code ∈ namedCodes text) :
    codeKey code = code := by
  obtain ⟨piece, -, rfl⟩ := List.mem_map.1 member
  exact codeKey_codeKey _

/-- A code that can stand in a list of locales as it is. -/
structure IsListable (code : String) : Prop where
  kept : codeKey code = code
  notBlank : strip code.toList ≠ []
  noComma : ',' ∉ code.toList

theorem isListable_of_mem : ∀ code ∈ codesAtHand, IsListable code := by
  intro code member
  rcases List.mem_pair.1 member with rfl | rfl
  · exact ⟨by decide, by decide, by decide⟩
  · exact ⟨by decide, by decide, by decide⟩

variable {codes : List String}

theorem splitOn_intercalate (nonempty : codes ≠ [])
    (listable : ∀ code ∈ codes, IsListable code) :
    (",".intercalate codes).toList.splitOn ',' = codes.map String.toList := by
  rw [String.toList_intercalate]
  refine List.splitOn_intercalate ',' ?_ (mt List.map_eq_nil_iff.1 nonempty)
  exact List.forall_mem_map.2 fun code member => (listable code member).noComma

/-- Joining codes and reading the list that results gives the codes back. -/
theorem namedCodes_intercalate (nonempty : codes ≠ [])
    (listable : ∀ code ∈ codes, IsListable code) :
    namedCodes (",".intercalate codes) = codes := by
  have noneBlank : (codes.map String.toList).filter (fun piece => strip piece ≠ []) =
      codes.map String.toList := by
    refine List.filter_eq_self.2 (List.forall_mem_map.2 fun code member => ?_)
    exact decide_eq_true (listable code member).notBlank
  have spelled : (fun piece => codeKey (String.ofList piece)) ∘ String.toList = codeKey := by
    funext code
    exact congrArg codeKey String.ofList_toList
  rw [namedCodes, splitOn_intercalate nonempty listable, noneBlank, List.map_map, spelled]
  exact map_codeKey_eq_self fun code member => (listable code member).kept

/-! ### Reading a list of locales -/

/-- Whether a list of codes names vocabularies at hand only, and some. -/
def AreAtHand (codes : List String) : Prop := codes ≠ [] ∧ ∀ code ∈ codes, code ∈ codesAtHand

instance (codes : List String) : Decidable (AreAtHand codes) :=
  inferInstanceAs (Decidable (codes ≠ [] ∧ ∀ code ∈ codes, code ∈ codesAtHand))

/-- What is wrong with a list of codes that are not all at hand: the first that is not, or that
there is none. -/
def localesFault (codes : List String) : Fault :=
  match codes.find? fun code => code ∉ codesAtHand with
  | some code => .unknownLocale ⟨some code⟩
  | none => .noLocales

theorem readLocales_of_eq_nil {text : String} (empty : namedCodes text = []) :
    readLocales text = .error .noLocales := by
  rw [readLocales, localeItems_eq_namedCodes, empty]

theorem readLocales_of_ne_nil {text : String} (nonempty : namedCodes text ≠ []) :
    readLocales text =
      ((namedCodes text).mapM fun code => ofCode (some code)).mapError .unknownLocale := by
  rw [readLocales, localeItems_eq_namedCodes]
  obtain ⟨code, others, cons⟩ := List.exists_cons_of_ne_nil nonempty
  rw [cons]
  dsimp only
  cases (code :: others).mapM fun code => ofCode (some code) <;> rfl

theorem readLocales_eq_ok_iff (text : String) (vocabularies : List Vocabulary) :
    readLocales text = .ok vocabularies ↔ vocabularies ≠ [] ∧
      (∀ vocabulary ∈ vocabularies, vocabulary ∈ builtIn) ∧
        vocabularies.map Vocabulary.code = namedCodes text := by
  by_cases empty : namedCodes text = []
  · rw [readLocales_of_eq_nil empty, empty, List.map_eq_nil_iff]
    constructor
    · rintro ⟨⟩
    · rintro ⟨some, -, none⟩
      exact absurd none some
  · rw [readLocales_of_ne_nil empty, mapError_eq_ok_iff, mapM_ofCode_eq_ok_iff,
      map_codeKey_eq_self fun _ => codeKey_of_mem_namedCodes]
    refine (and_iff_right_of_imp ?_).symm
    rintro ⟨-, named⟩ rfl
    exact empty named.symm

/-- The first code of a list that is not at hand is the first that is not found. -/
theorem find?_namedCodes (text : String) :
    (namedCodes text).find? (fun code => !(ofCode (some code)).isOk) =
      (namedCodes text).find? fun code => code ∉ codesAtHand := by
  refine List.find?_congr fun code member => ?_
  have failed := ofCode_eq_error_iff (some code)
  rw [Option.getD_some, codeKey_of_mem_namedCodes member] at failed
  cases found : ofCode (some code) with
  | error unknown => exact (decide_eq_true ((failed unknown).1 found).1).symm
  | ok vocabulary =>
    refine (decide_eq_false fun missing => ?_).symm
    rw [(failed ⟨some code⟩).2 ⟨missing, rfl⟩] at found
    cases found

theorem readLocales_eq_error_iff (text : String) (fault : Fault) :
    readLocales text = .error fault ↔
      ¬AreAtHand (namedCodes text) ∧ fault = localesFault (namedCodes text) := by
  by_cases empty : namedCodes text = []
  · rw [readLocales_of_eq_nil empty, empty, Except.error.injEq, eq_comm]
    exact (and_iff_right fun atHand => atHand.1 rfl).symm
  rw [readLocales_of_ne_nil empty, mapError_eq_error_iff]
  simp only [mapM_eq_error_iff, find?_namedCodes, localesFault]
  cases found : (namedCodes text).find? fun code => code ∉ codesAtHand with
  | none =>
    have allAtHand : AreAtHand (namedCodes text) :=
      ⟨empty, fun code member =>
        of_not_not fun missing => List.find?_eq_none.1 found code member (decide_eq_true missing)⟩
    simp [allAtHand]
  | some code =>
    have member := List.mem_of_find?_eq_some found
    have missing : code ∉ codesAtHand := by
      have tested := List.find?_some found
      exact of_decide_eq_true tested
    have notAtHand : ¬AreAtHand (namedCodes text) := fun atHand => missing (atHand.2 code member)
    have failed := (ofCode_eq_error_iff (some code) ⟨some code⟩).2
      ⟨by rwa [Option.getD_some, codeKey_of_mem_namedCodes member], rfl⟩
    simp [notAtHand, failed, eq_comm]

theorem exists_readLocales_iff (text : String) :
    (∃ vocabularies, readLocales text = .ok vocabularies) ↔ AreAtHand (namedCodes text) :=
  exists_ok_iff (readLocales_eq_error_iff text)

end Preferences

end Almanac
