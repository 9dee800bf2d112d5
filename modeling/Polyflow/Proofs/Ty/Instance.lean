/-
# Types that two partly known types may both turn out to be

What is known in part may turn out to be any complete type that agrees with it. Two
types agree exactly when they may turn out to be the same one, so the verdict does not
depend on the order in which they are compared. From two types that agree, such a
complete type is put together step by step: where both say something it is found below
their children, and where one of them is unknown the other one is completed.
-/

import Polyflow.Proofs.Ty.Position

namespace Polyflow.Ty

/-- A type agrees with the changed form of another if each of its children agrees with
what its counterpart was changed to. -/
theorem agrees_mapChildren_of_counterparts {change : Step → Ty → Ty} {ty other : Ty}
    (wellNamed : other.WellNamed) (heads : other.head = ty.head)
    (counterparts : ∀ step, Option.Rel (fun theirs ours => theirs.Agrees (change step ours))
      (other.child? step) (ty.child? step)) : other.Agrees (ty.mapChildren change) := by
  apply agrees_of_children wellNamed (heads.trans (head_mapChildren change ty).symm)
  intro step
  have related := counterparts step
  rw [child?_mapChildren]
  generalize other.child? step = theirs at related ⊢
  generalize ty.child? step = ours at related ⊢
  cases related with
  | none => exact .none
  | some agrees => exact .some agrees

/-- Two types that agree may turn out to be the same complete one. -/
theorem Agrees.exists_common {left right : Ty} (agrees : left.Agrees right)
    (wellNamed : left.WellNamed) (wellNamed' : right.WellNamed) :
    ∃ whole : Ty, whole.WellNamed ∧ whole.holes = 0 ∧ left.Agrees whole ∧ right.Agrees whole := by
  induction left using inductionOnChildren generalizing right with
  | parent left ih =>
      by_cases known : left = .unknown
      · obtain ⟨whole, named, complete, ofRight⟩ := exists_completion wellNamed'
        exact ⟨whole, named, complete, known ▸ unknown_agrees whole, ofRight⟩
      rcases ((agrees_iff wellNamed).mp agrees).resolve_left known with rfl | ⟨heads, children⟩
      · obtain ⟨whole, named, complete, ofLeft⟩ := exists_completion wellNamed
        exact ⟨whole, named, complete, ofLeft, unknown_agrees whole⟩
      -- Each child of the left type is changed to what it has in common with its counterpart.
      have changeable (step : Step) (ours : Ty) (found : left.child? step = some ours) :
          ∃ whole : Ty, whole.WellNamed ∧ whole.holes = 0 ∧ ours.Agrees whole ∧
            ∀ theirs, right.child? step = some theirs → theirs.Agrees whole := by
        obtain ⟨theirs, found', agrees⟩ := exists_right_of_rel (children step) found
        obtain ⟨whole, named, complete, ofOurs, ofTheirs⟩ :=
          ih step ours found agrees (wellNamed.child found) (wellNamed'.child found')
        refine ⟨whole, named, complete, ofOurs, fun other isOther => ?_⟩
        cases found'.symm.trans isOther
        exact ofTheirs
      choose! change named complete ofLeft ofRight using changeable
      have wholeNamed := wellNamed_mapChildren wellNamed named
      refine ⟨left.mapChildren change, wholeNamed, holes_mapChildren wholeNamed known complete,
        agrees_mapChildren wellNamed ofLeft, ?_⟩
      apply agrees_mapChildren_of_counterparts wellNamed' heads.symm
      intro step
      apply rel_swap (children step)
      intro ours theirs found found' _
      exact ofRight step ours found theirs found'

/-- Two types agree exactly when some complete type agrees with both of them, and their
order does not matter. -/
theorem agrees_iff_exists_common {left right : Ty} (wellNamed : left.WellNamed)
    (wellNamed' : right.WellNamed) :
    (left.Agrees right ↔
        ∃ whole : Ty, whole.WellNamed ∧ whole.holes = 0 ∧
          left.Agrees whole ∧ right.Agrees whole) ∧
      (left.Agrees right ↔ right.Agrees left) := by
  refine ⟨⟨fun agrees => agrees.exists_common wellNamed wellNamed', fun common => ?_⟩,
    fun agrees => agrees.symm wellNamed wellNamed', fun agrees => agrees.symm wellNamed' wellNamed⟩
  rcases common with ⟨whole, named, complete, ofLeft, ofRight⟩
  exact agrees_of_common wellNamed wellNamed' named complete ofLeft ofRight

/-- A record of which the argument of one member is known. -/
private def argumentKnown : Ty :=
  .record [("handler", .func [("event", .record [("at", .prim .int), ("by", .unknown)])] .unknown),
    ("count", .unknown)]

/-- A record of which the return of that member is known, in another order and with
another name for the argument. -/
private def returnKnown : Ty :=
  .record [("count", .prim .int),
    ("handler", .func [("input", .record [("by", .text), ("at", .unknown)])] (.prim .bool))]

/-- Both may turn out to be one type, although neither knows all that the other does. -/
theorem exists_common_of_half_known :
    argumentKnown.WellNamed ∧ returnKnown.WellNamed ∧
      (∃ whole : Ty, whole.WellNamed ∧ whole.holes = 0 ∧
        argumentKnown.Agrees whole ∧ returnKnown.Agrees whole) ∧
      returnKnown.Agrees argumentKnown := by
  have named : argumentKnown.WellNamed := by decide
  have named' : returnKnown.WellNamed := by decide
  have agrees : argumentKnown.Agrees returnKnown := by decide
  have verdict := agrees_iff_exists_common named named'
  exact ⟨named, named', verdict.1.mp agrees, verdict.2.mp agrees⟩

end Polyflow.Ty
