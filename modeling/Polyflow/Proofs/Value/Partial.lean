/-
# Equality of values is a partial equivalence

Repeated records and repeated results are recognised by comparing values. Equality is
symmetric and transitive. It fails to be reflexive exactly on values with a not-a-number
somewhere in them. Values that are equal cannot be told apart by their types or by looking
up members, and the type of a value is complete, with distinct names at every level.
-/

import Polyflow.Proofs.Construction
import Polyflow.Proofs.Value.Sample

namespace Polyflow.Value

/-- A value stands somewhere in another one: it is the other one, or it stands in a member
of it. -/
inductive Inside (part : Value) : Value → Prop
  | here : Inside part part
  | member {members : List (String × Value)} {entry : String × Value} (isMember : entry ∈ members)
      (inside : Inside part entry.2) : Inside part (.record members)

/-- A value is free of not-a-number if every number that stands in it is one. -/
theorem hasNaN_eq_false_iff {value : Value} (wellNamed : value.WellNamed) :
    value.hasNaN = false ↔ ∀ number, (Value.float number).Inside value → number.isNaN = false := by
  induction value using inductionOnMembers with
  | parent value ih =>
      cases value with
      | record members =>
          obtain ⟨distinct, each⟩ := wellNamed_record.mp wellNamed
          have ofMember (entry : String × Value) (member : entry ∈ members) :=
            ih members entry.1 entry.2 rfl ((lookup_eq_some_iff_mem distinct).mpr member)
              (each entry member)
          rw [hasNaN, anyHasNaN_eq_false_iff]
          constructor
          · intro numbers number inside
            cases inside with
            | member isMember inside =>
                exact (ofMember _ isMember).mp (numbers _ isMember) number inside
          · intro numbers entry isMember
            exact (ofMember entry isMember).mpr fun number inside =>
              numbers number (.member isMember inside)
      | float number =>
          constructor
          · intro isNumber other inside
            cases inside
            exact isNumber
          · intro numbers
            exact numbers number .here
      | _ =>
          apply iff_of_true rfl
          intro number inside
          cases inside

/-- Equal records have the same members, up to equality. -/
theorem Equiv.members {ours : List (String × Value)} {value : Value}
    (equal : (Value.record ours).Equiv value) (wellNamed : (Value.record ours).WellNamed)
    (wellNamed' : value.WellNamed) :
    ∃ theirs, value = .record theirs ∧
      ∀ name, Option.Rel Equiv (ours.lookup name) (theirs.lookup name) := by
  obtain ⟨theirs, rfl⟩ := exists_record_of_equiv equal
  exact ⟨theirs, rfl, (record_equiv_record wellNamed wellNamed').mp equal⟩

/-- A value that can be made. -/
abbrev Constructed := { value : Value // value.Constructible }

theorem Constructed.wellNamed (value : Constructed) : value.1.WellNamed :=
  constructible_iff.mp value.2

/-- Equality is symmetric and transitive, and reflexive but for not-a-number; equal values
have equal types and equal members; and the type of a value is complete and well named. -/
theorem equiv_partial_equivalence :
    (∀ left right : Constructed, left.1.Equiv right.1 → right.1.Equiv left.1) ∧
      (∀ left middle right : Constructed, left.1.Equiv middle.1 → middle.1.Equiv right.1 →
        left.1.Equiv right.1) ∧
      (∀ value : Constructed, value.1.Equiv value.1 ↔
        ∀ number, (Value.float number).Inside value.1 → number.isNaN = false) ∧
      (∀ left right : Constructed, left.1.Equiv right.1 →
        left.1.ty.Equiv right.1.ty ∧
          ∀ ours, left.1 = .record ours → ∃ theirs, right.1 = .record theirs ∧
            ∀ name, Option.Rel Equiv (ours.lookup name) (theirs.lookup name)) ∧
      ∀ value : Constructed, value.1.ty.holes = 0 ∧ value.1.ty.WellNamed := by
  refine ⟨?_, ?_, ?_, ?_, ?_⟩
  · intro left right equal
    exact equal.symm left.wellNamed right.wellNamed
  · intro left middle right equal equal'
    exact equal.trans equal' left.wellNamed middle.wellNamed right.wellNamed
  · intro value
    rw [equiv_self_iff value.wellNamed, hasNaN_eq_false_iff value.wellNamed]
  · intro left right equal
    refine ⟨equal.ty left.wellNamed right.wellNamed, fun ours isRecord => ?_⟩
    have wellNamed := left.wellNamed
    rw [isRecord] at equal wellNamed
    exact equal.members wellNamed right.wellNamed
  · intro value
    exact ⟨holes_ty value.wellNamed, value.wellNamed.ty⟩

/-- A reading with a zero in it, beside a record. -/
private def reading : Constructed :=
  ⟨.record [("at", .float ⟨0⟩), ("by", .record [("id", .int 1), ("name", .text "a")])],
    constructible_iff.mpr (by simp [WellNamed, EachWellNamed])⟩

/-- The same in another order, and with the zero's other sign. -/
private def reading' : Constructed :=
  ⟨.record [("by", .record [("name", .text "a"), ("id", .int 1)]),
    ("at", .float ⟨0x8000000000000000⟩)],
    constructible_iff.mpr (by simp [WellNamed, EachWellNamed])⟩

/-- A reading that failed. -/
private def failed : Constructed :=
  ⟨.record [("at", .float ⟨0x7ff8000000000000⟩)],
    constructible_iff.mpr (by simp [WellNamed, EachWellNamed])⟩

/-- Two ways of telling a value, and one that is not equal to itself. -/
theorem equiv_of_reordered_and_signed :
    reading.1.Equiv reading'.1 ∧ reading'.1.Equiv reading.1 ∧ reading.1.Equiv reading.1 ∧
      reading.1.ty.Equiv reading'.1.ty ∧ reading'.1.ty.holes = 0 ∧
      (∀ number, (Value.float number).Inside reading.1 → number.isNaN = false) ∧
      ¬failed.1.Equiv failed.1 := by
  obtain ⟨symm, trans, itself, same, complete⟩ := equiv_partial_equivalence
  have equal : reading.1.Equiv reading'.1 := by decide
  have equal' := symm reading reading' equal
  have equal'' := trans reading reading' reading equal equal'
  refine ⟨equal, equal', equal'', (same reading reading' equal).1, (complete reading').1,
    (itself reading).mp equal'', fun equal => ?_⟩
  have number := (itself failed).mp equal ⟨0x7ff8000000000000⟩
    (.member (List.mem_singleton.mpr rfl) .here)
  exact absurd number (by decide)

end Polyflow.Value
