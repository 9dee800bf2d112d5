/-
# Complete types

Nothing is left open in a complete type. Of two such types agreement and equality are
the same, so that what is checked with one of them may be read as the other.
-/

import Polyflow.Proofs.Ty.Equality

namespace Polyflow.Ty

/-- Complete types that agree are equal, and the other way round. -/
theorem agrees_iff_equiv {left right : Ty} (wellNamed : left.WellNamed)
    (wellNamed' : right.WellNamed) (complete : left.holes = 0) (complete' : right.holes = 0) :
    left.Agrees right ↔ left.Equiv right := by
  induction left using inductionOnChildren generalizing right with
  | parent left ih =>
      obtain ⟨known, completeChildren⟩ := (holes_eq_zero_iff wellNamed).mp complete
      obtain ⟨known', completeChildren'⟩ := (holes_eq_zero_iff wellNamed').mp complete'
      rw [agrees_iff wellNamed, equiv_iff wellNamed wellNamed', or_iff_right known,
        or_iff_right known']
      apply and_congr_right
      intro _
      apply forall_congr'
      intro step
      rw [rel_iff, rel_iff]
      apply and_congr_right
      intro _
      apply forall₄_congr
      intro ours theirs found found'
      exact ih step ours found (wellNamed.child found) (wellNamed'.child found')
        (completeChildren step ours found) (completeChildren' step theirs found')

/-- A complete type is known. -/
theorem ne_unknown_of_complete {ty : Ty} (complete : ty.holes = 0) : ty ≠ .unknown := by
  intro unknown
  rw [unknown, holes] at complete
  cases complete

/-- The members of a complete record type are complete. -/
theorem complete_member {members : List (String × Ty)} {name : String} {ty : Ty}
    (complete : (Ty.record members).holes = 0) (found : members.lookup name = some ty) :
    ty.holes = 0 := by
  rw [holes, holesOfEach_eq_zero] at complete
  exact complete _ (mem_of_lookup found)

theorem complete_func {args : List (String × Ty)} {ret : Ty} :
    (Ty.func args ret).holes = 0 ↔ (∀ entry ∈ args, entry.2.holes = 0) ∧ ret.holes = 0 := by
  rw [holes, Nat.add_eq_zero_iff, holesOfEach_eq_zero]

/-- Only text equals text. -/
theorem eq_text_of_equiv {ty : Ty} (equal : ty.Equiv .text) : ty = .text := by
  cases ty with
  | prim kind => rw [beq_iff_eq.mp equal]
  | _ => cases equal

/-- Only text is known and agrees with text. -/
theorem eq_text_of_agrees {ty : Ty} (known : ty ≠ .unknown) (agrees : ty.Agrees .text) :
    ty = .text := by
  cases ty with
  | prim kind => cases kind <;> first | rfl | cases agrees
  | unknown => exact absurd rfl known
  | _ => cases agrees

end Polyflow.Ty
