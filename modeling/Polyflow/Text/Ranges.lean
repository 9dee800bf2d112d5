/-
# Sets of characters given by ranges

A property of characters is held as a list of closed ranges of code points,
ascending and apart from each other. Membership walks the list and stops at the
first range that begins above the character. In an ascending list nothing is
missed that way: a code point is found exactly if one of the ranges covers it.
-/

namespace Polyflow.Text

/-- Closed ranges of code points, each a first and a last one. -/
abbrev Ranges : Type := List (Nat × Nat)

namespace Ranges

/-- Whether a code point lies in one of the ranges of an ascending list. -/
def contains : Ranges → Nat → Bool
  | [], _ => false
  | (first, last) :: rest, code =>
    if code < first then false else if code ≤ last then true else contains rest code

/-- Every range is nonempty and ends below the begin of the next. -/
def ascending : Ranges → Bool
  | [] => true
  | [(first, last)] => first ≤ last
  | (first, last) :: (next, nextLast) :: rest =>
    first ≤ last && last < next && ascending ((next, nextLast) :: rest)

/-- Some range covers the code point, wherever it stands in the list. -/
def Covers (ranges : Ranges) (code : Nat) : Prop :=
  ∃ range ∈ ranges, range.1 ≤ code ∧ code ≤ range.2

theorem not_covers_nil (code : Nat) : ¬ Covers [] code := by
  rintro ⟨range, member, -⟩
  cases member

theorem covers_cons {first last code : Nat} {rest : Ranges} :
    Covers ((first, last) :: rest) code ↔ first ≤ code ∧ code ≤ last ∨ rest.Covers code := by
  simp [Covers]

theorem ascending_tail {range : Nat × Nat} {rest : Ranges}
    (inOrder : ascending (range :: rest) = true) : rest.ascending = true := by
  cases rest with
  | nil => rfl
  | cons next later =>
      simp only [ascending, Bool.and_eq_true] at inOrder
      exact inOrder.2

/-- The first of the ranges begins below all code points that are covered. -/
theorem first_le_of_covers {first last code : Nat} {rest : Ranges}
    (inOrder : ascending ((first, last) :: rest) = true)
    (covers : Covers ((first, last) :: rest) code) : first ≤ code := by
  induction rest generalizing first last with
  | nil =>
      rcases covers_cons.mp covers with ⟨above, -⟩ | none
      · exact above
      · exact absurd none (not_covers_nil code)
  | cons next later ih =>
      rcases covers_cons.mp covers with ⟨above, -⟩ | covers
      · exact above
      · have below : next.1 ≤ code := ih (ascending_tail inOrder) covers
        simp only [ascending, Bool.and_eq_true, decide_eq_true_iff] at inOrder
        omega

/-- A code point is found in an ascending list exactly if a range covers it. -/
theorem contains_iff_covers {ranges : Ranges} {code : Nat} (inOrder : ranges.ascending = true) :
    ranges.contains code = true ↔ ranges.Covers code := by
  induction ranges with
  | nil => exact iff_of_false (Bool.false_ne_true ·) (not_covers_nil code)
  | cons range rest ih =>
      rw [contains]
      split
      case isTrue below =>
        refine iff_of_false Bool.false_ne_true fun covers => ?_
        exact Nat.not_le_of_lt below (first_le_of_covers inOrder covers)
      case isFalse above =>
        rw [covers_cons]
        split
        case isTrue within => exact iff_of_true rfl (.inl ⟨Nat.le_of_not_lt above, within⟩)
        case isFalse beyond =>
          rw [ih (ascending_tail inOrder), or_iff_right fun both => beyond both.2]

end Ranges

end Polyflow.Text
