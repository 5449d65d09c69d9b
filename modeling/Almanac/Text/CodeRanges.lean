/-
This file defines sets of characters that are written as ranges of code points,
the form in which a character standard lists its properties.
-/

namespace Almanac.Text

/-- A set of code points: closed ranges in ascending order. -/
abbrev CodeRanges := List (Nat × Nat)

/-- Membership of a code point. The ranges ascend, so the search ends at the first range that
starts behind the code point. -/
def CodeRanges.contains : CodeRanges → Nat → Bool
  | [], _ => false
  | (first, last) :: rest, code =>
    if code < first then false
    else if code ≤ last then true
    else contains rest code

/-- A set of code points lists some range that holds every code point it contains. -/
theorem CodeRanges.exists_of_contains {ranges : CodeRanges} {code : Nat}
    (member : ranges.contains code = true) :
    ∃ range ∈ ranges, range.1 ≤ code ∧ code ≤ range.2 := by
  induction ranges with
  | nil => cases member
  | cons range rest inductionHypothesis =>
    obtain ⟨first, last⟩ := range
    simp only [contains] at member
    split at member
    · cases member
    · split at member
      · exact ⟨(first, last), List.mem_cons_self, by omega, by omega⟩
      · obtain ⟨found, inRest, bounds⟩ := inductionHypothesis member
        exact ⟨found, List.mem_cons_of_mem _ inRest, bounds⟩

end Almanac.Text
