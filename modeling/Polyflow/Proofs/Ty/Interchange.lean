/-
# Equal types are interchangeable

A type may be told in several ways: members in another order, arguments under other names.
Equality is what all ways of telling a type have in common. It is an equivalence, and where
nothing is left open it is the same as agreement. Where something is, agreement says less,
but it does not depend on how the two types are told, and neither does the number of holes.
-/

import Polyflow.Proofs.Construction
import Polyflow.Proofs.Ty.Complete

namespace Polyflow.Ty

/-- Equal types agree with the same types. -/
theorem agrees_congr {left left' right right' : Ty} (equal : left.Equiv left')
    (equal' : right.Equiv right') (leftNamed : left.WellNamed) (leftNamed' : left'.WellNamed)
    (rightNamed : right.WellNamed) (rightNamed' : right'.WellNamed) :
    left.Agrees right ↔ left'.Agrees right' := by
  have exchange {first first' second second' : Ty} (firsts : first.Equiv first')
      (seconds : second.Equiv second') (named : first.WellNamed) (named' : first'.WellNamed)
      (other : second.WellNamed) (other' : second'.WellNamed)
      (agrees : first.Agrees second) : first'.Agrees second' := by
    have ofSecond : first.Agrees second' := agrees.trans_equiv seconds named other other'
    have ofFirst := (ofSecond.symm named other').trans_equiv firsts other' named named'
    exact ofFirst.symm other' named'
  constructor
  · exact exchange equal equal' leftNamed leftNamed' rightNamed rightNamed'
  · exact exchange (equal.symm leftNamed leftNamed') (equal'.symm rightNamed rightNamed')
      leftNamed' leftNamed rightNamed' rightNamed

/-- Something is known about both of two equal types or about neither. -/
theorem Equiv.isKnown_eq {left right : Ty} (equal : left.Equiv right) :
    left.isKnown = right.isKnown := by
  cases left <;> cases right <;> first | rfl | cases equal

/-- A type that can be made. -/
abbrev Constructed := { ty : Ty // ty.Constructible }

theorem Constructed.wellNamed (ty : Constructed) : ty.1.WellNamed :=
  constructible_iff.mp ty.2

/-- Equality is an equivalence, agrees with agreement on complete types, and does not change
the verdict of agreement or the number of holes. -/
theorem equiv_equivalence_and_congruence :
    (Equivalence fun left right : Constructed => left.1.Equiv right.1) ∧
      (∀ left right : Constructed, left.1.holes = 0 → right.1.holes = 0 →
        (left.1.Agrees right.1 ↔ left.1.Equiv right.1)) ∧
      ∀ left left' : Constructed, left.1.Equiv left'.1 →
        left.1.holes = left'.1.holes ∧
          ∀ right right' : Constructed, right.1.Equiv right'.1 →
            (left.1.Agrees right.1 ↔ left'.1.Agrees right'.1) := by
  refine ⟨⟨?_, ?_, ?_⟩, ?_, ?_⟩
  · intro ty
    exact equiv_refl ty.wellNamed
  · intro left right equal
    exact equal.symm left.wellNamed right.wellNamed
  · intro left middle right equal equal'
    exact equal.trans equal' left.wellNamed middle.wellNamed right.wellNamed
  · intro left right complete complete'
    exact agrees_iff_equiv left.wellNamed right.wellNamed complete complete'
  · intro left left' equal
    refine ⟨equal.holes_eq left.wellNamed left'.wellNamed, fun right right' equal' => ?_⟩
    exact agrees_congr equal equal' left.wellNamed left'.wellNamed right.wellNamed
      right'.wellNamed

/-- A function whose argument is known in part, in a record beside a number. -/
private def partly : Constructed :=
  ⟨.record [("on", .func [("event", .record [("at", .prim .int), ("by", .unknown)])] .unknown),
    ("count", .prim .int)], constructible_iff.mpr (by decide)⟩

/-- The same, in another order and with another name for the argument. -/
private def partly' : Constructed :=
  ⟨.record [("count", .prim .int),
    ("on", .func [("input", .record [("by", .unknown), ("at", .prim .int)])] .unknown)],
    constructible_iff.mpr (by decide)⟩

/-- What it may turn out to be. -/
private def fully : Constructed :=
  ⟨.record [("count", .prim .int),
    ("on", .func [("event", .record [("at", .prim .int), ("by", .text)])] (.prim .bool))],
    constructible_iff.mpr (by decide)⟩

/-- The same again in another order. -/
private def fully' : Constructed :=
  ⟨.record [("on", .func [("e", .record [("by", .text), ("at", .prim .int)])] (.prim .bool)),
    ("count", .prim .int)], constructible_iff.mpr (by decide)⟩

/-- Two ways of telling a type with two holes, and two of telling a complete one. -/
theorem equiv_of_reordered_and_renamed :
    partly.1.Equiv partly'.1 ∧ fully.1.Equiv fully'.1 ∧ fully'.1.Equiv fully.1 ∧
      partly.1.holes = 2 ∧ partly.1.holes = partly'.1.holes ∧
      (partly.1.Agrees fully.1 ↔ partly'.1.Agrees fully'.1) ∧ partly.1.Agrees fully.1 ∧
      fully.1.holes = 0 ∧ fully'.1.holes = 0 ∧
      (fully.1.Agrees fully'.1 ↔ fully.1.Equiv fully'.1) := by
  obtain ⟨equivalence, onComplete, congruence⟩ := equiv_equivalence_and_congruence
  have equal : partly.1.Equiv partly'.1 := by decide
  have equal' : fully.1.Equiv fully'.1 := by decide
  obtain ⟨holes, agrees⟩ := congruence partly partly' equal
  exact ⟨equal, equal', equivalence.symm equal', rfl, holes, agrees fully fully' equal',
    by decide, rfl, rfl, onComplete fully fully' rfl rfl⟩

end Polyflow.Ty
