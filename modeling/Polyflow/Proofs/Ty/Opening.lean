/-
# Types that can be opened

Some types are firm: whatever known type agrees with such a type and has no more
holes than it also resolves it. These are the complete types, which leave nothing
to resolve, and the shallow ones, of which no child is known. Every other type can
be opened: another type agrees with it, has no more holes, and still leaves open a
position that it knows.
-/

import Polyflow.Proofs.Ty.Position

namespace Polyflow.Ty

/-- Nothing is known below the outermost level. -/
def IsShallow (ty : Ty) : Prop :=
  ∀ step child, ty.child? step = some child → child = .unknown

/-- Where a complete type has a position, it is known there. -/
theorem holes_of_at? {ty part : Ty} {path : List Step} (wellNamed : ty.WellNamed)
    (complete : ty.holes = 0) (isThere : ty.at? path = some part) : part.holes = 0 := by
  induction path generalizing ty with
  | nil =>
      cases isThere
      exact complete
  | cons step path ih =>
      rcases Option.bind_eq_some_iff.mp isThere with ⟨child, found, isThere⟩
      apply ih (wellNamed.child found) _ isThere
      exact ((holes_eq_zero_iff wellNamed).mp complete).2 step child found

theorem resolves_of_complete {precise rough : Ty} (wellNamed : precise.WellNamed)
    (complete : precise.holes = 0) : precise.Resolves rough := by
  intro path ty isOpen _
  have closed := holes_of_at? wellNamed complete isOpen
  rw [holes] at closed
  cases closed

theorem resolves_of_shallow {precise rough : Ty} (known : precise ≠ .unknown)
    (shallow : rough.IsShallow) : precise.Resolves rough := by
  intro path ty isOpen isThere
  cases path with
  | nil =>
      rw [at?_nil, Option.some.injEq] at isOpen
      exact absurd isOpen known
  | cons step path =>
      rcases Option.bind_eq_some_iff.mp isThere with ⟨child, found, isThere⟩
      have unknown := shallow step child found
      subst unknown
      cases path with
      | nil => exact (Option.some.inj isThere).symm
      | cons next path => simp [at?] at isThere

/-- Known types that agree with a firm one resolve it, unless they have more holes. -/
theorem resolves_of_firm {precise rough : Ty} (known : precise ≠ .unknown)
    (wellNamed : precise.WellNamed) (noMore : precise.holes ≤ rough.holes)
    (firm : rough.holes = 0 ∨ rough.IsShallow) : precise.Resolves rough := by
  rcases firm with complete | shallow
  · exact resolves_of_complete wellNamed (Nat.eq_zero_of_le_zero (complete ▸ noMore))
  · exact resolves_of_shallow known shallow

/-- A type that is neither complete nor shallow can be opened. -/
theorem exists_opening {ty : Ty} (wellNamed : ty.WellNamed) (incomplete : ty.holes ≠ 0)
    (deep : ¬ ty.IsShallow) :
    ∃ opened : Ty, opened.WellNamed ∧ opened ≠ .unknown ∧ opened.Agrees ty ∧
      opened.holes ≤ ty.holes ∧
      ∃ path part, opened.at? path = some .unknown ∧ ty.at? path = some part ∧
        part ≠ .unknown := by
  simp only [IsShallow, not_forall] at deep
  rcases deep with ⟨step, part, found, known⟩
  -- The known child is opened, and all others are completed in exchange.
  have changeable (at_ : Step) (child : Ty) (present : ty.child? at_ = some child) :
      ∃ changed : Ty, changed.WellNamed ∧ child.Agrees changed ∧
        (at_ ≠ step → changed.holes = 0) ∧ (at_ = step → changed = .unknown) := by
    by_cases same : at_ = step
    · exact ⟨.unknown, trivial, agrees_unknown _, fun differs => absurd same differs, fun _ => rfl⟩
    · obtain ⟨whole, named, complete, agrees⟩ := exists_completion (wellNamed.child present)
      exact ⟨whole, named, agrees, fun _ => complete, fun equal => absurd equal same⟩
  choose! change named agrees complete opens using changeable
  have openedNamed := wellNamed_mapChildren wellNamed named
  have foundOpen : (ty.mapChildren change).child? step = some .unknown := by
    rw [child?_mapChildren, found, Option.map_some, opens step part found rfl]
  refine ⟨ty.mapChildren change, openedNamed, ne_unknown_of_child foundOpen,
    (agrees_mapChildren wellNamed agrees).symm wellNamed openedNamed, ?_, [step], part, ?_, ?_,
    known⟩
  · have others : ∀ other child, (ty.mapChildren change).child? other = some child →
        other ≠ step → child.holes = 0 := by
      intro other child isChild differs
      rw [child?_mapChildren] at isChild
      obtain ⟨original, present, rfl⟩ := Option.map_eq_some_iff.mp isChild
      exact complete other original present differs
    have atMostOne : (ty.mapChildren change).holes ≤ 1 := by
      apply holes_le_one openedNamed others
      intro child isChild
      rw [foundOpen, Option.some.injEq] at isChild
      rw [← isChild]
      exact Nat.le_refl 1
    omega
  · rw [at?_cons foundOpen, at?_nil]
  · rw [at?_cons found, at?_nil]

end Polyflow.Ty
