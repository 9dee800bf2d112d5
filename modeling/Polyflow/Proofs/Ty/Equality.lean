/-
# Laws of equality between types

Equality matches members by name and arguments by position, like agreement, but
takes an unknown for equal to nothing else. Two well-named types are equal when
they have the same head and equal children. Agreement cannot tell equal types
apart, and they have equally many holes.
-/

import Polyflow.Proofs.Ty.Agreement

namespace Polyflow.Ty

/-- Equality as a relation. -/
abbrev Equiv (left right : Ty) : Prop :=
  left.equiv right = true

/-- Our members are equal to theirs when each has an equal counterpart. -/
theorem equivMembers_iff {ours theirs : List (String × Ty)} :
    equivMembers ours theirs = true ↔
      ∀ entry ∈ ours, ∃ ty, theirs.lookup entry.1 = some ty ∧ entry.2.Equiv ty := by
  induction ours with
  | nil => simp [equivMembers]
  | cons entry rest ih =>
      rcases entry with ⟨name, ty⟩
      rw [List.forall_mem_cons, ← ih, equivMembers, Bool.and_eq_true]
      cases found : theirs.lookup name <;> simp

/-- Equally many arguments are equal when they are so position by position. -/
theorem equivArgs_iff {ours theirs : List (String × Ty)} :
    (ours.length = theirs.length ∧ equivArgs ours theirs = true) ↔
      Aligned Equiv ours theirs := by
  induction ours generalizing theirs with
  | nil =>
      cases theirs with
      | nil => simp [equivArgs, aligned_nil]
      | cons entry rest => simp
  | cons entry rest ih =>
      cases theirs with
      | nil => simp
      | cons entry' rest' =>
          rw [aligned_cons, ← ih, equivArgs, Bool.and_eq_true, List.length_cons, List.length_cons,
            Nat.succ_inj]
          exact and_left_comm

theorem record_equiv_record {ours theirs : List (String × Ty)}
    (distinct : (ours.map Prod.fst).Nodup) (distinct' : (theirs.map Prod.fst).Nodup) :
    (Ty.record ours).Equiv (.record theirs) ↔ Matched Equiv ours theirs := by
  rw [matched_iff_of_length distinct distinct', ← equivMembers_iff]
  simp [Equiv, equiv]

theorem func_equiv_func {ours theirs : List (String × Ty)} {ret theirRet : Ty} :
    (Ty.func ours ret).Equiv (.func theirs theirRet) ↔
      Aligned Equiv ours theirs ∧ ret.Equiv theirRet := by
  rw [← equivArgs_iff]
  simp [Equiv, equiv]

/-- Types are equal when they have the same head and equal children. -/
theorem equiv_iff {left right : Ty} (wellNamed : left.WellNamed) (wellNamed' : right.WellNamed) :
    left.Equiv right ↔
      left.head = right.head ∧
        ∀ step, Option.Rel Equiv (left.child? step) (right.child? step) := by
  cases left with
  | unknown => cases right <;> simp [Equiv, equiv, head]
  | prim kind => cases right <;> simp [Equiv, equiv, head]
  | record ours =>
      cases right with
      | record theirs =>
          rw [record_equiv_record (wellNamed_record.mp wellNamed).1
            (wellNamed_record.mp wellNamed').1, matched_iff_child?]
          simp [head]
      | _ => simp [Equiv, equiv, head]
  | func ours ret =>
      cases right with
      | func theirs theirRet =>
          rw [func_equiv_func, aligned_iff_child?]
          simp [head]
      | _ => simp [Equiv, equiv, head]

/-- What equals a record type is one, with equal members. -/
theorem exists_record_of_equiv {ty : Ty} {theirs : List (String × Ty)}
    (equal : ty.Equiv (.record theirs)) (wellNamed : ty.WellNamed)
    (wellNamed' : (Ty.record theirs).WellNamed) :
    ∃ ours, ty = .record ours ∧ Matched Equiv ours theirs := by
  cases ty with
  | record ours =>
      exact ⟨ours, rfl, (record_equiv_record (wellNamed_record.mp wellNamed).1
        (wellNamed_record.mp wellNamed').1).mp equal⟩
  | _ => cases equal

/-- What equals a function type is one, with equal arguments and an equal return. -/
theorem exists_func_of_equiv {ty theirRet : Ty} {theirs : List (String × Ty)}
    (equal : ty.Equiv (.func theirs theirRet)) :
    ∃ ours ret, ty = .func ours ret ∧ Aligned Equiv ours theirs ∧ ret.Equiv theirRet := by
  cases ty with
  | func ours ret => exact ⟨ours, ret, rfl, func_equiv_func.mp equal⟩
  | _ => cases equal

/-- A type equals itself. -/
theorem equiv_refl {ty : Ty} (wellNamed : ty.WellNamed) : ty.Equiv ty := by
  induction ty using inductionOnChildren with
  | parent ty ih =>
      rw [equiv_iff wellNamed wellNamed]
      apply And.intro rfl
      intro step
      cases found : ty.child? step with
      | none => exact .none
      | some child => exact .some (ih step child found (wellNamed.child found))

theorem Equiv.symm {left right : Ty} (equal : left.Equiv right) (wellNamed : left.WellNamed)
    (wellNamed' : right.WellNamed) : right.Equiv left := by
  induction left using inductionOnChildren generalizing right with
  | parent left ih =>
      obtain ⟨heads, children⟩ := (equiv_iff wellNamed wellNamed').mp equal
      rw [equiv_iff wellNamed' wellNamed]
      apply And.intro heads.symm
      intro step
      apply rel_swap (children step)
      intro ours theirs found found' equal
      exact ih step ours found equal (wellNamed.child found) (wellNamed'.child found')

theorem Equiv.trans {left middle right : Ty} (equal : left.Equiv middle)
    (equal' : middle.Equiv right) (leftNamed : left.WellNamed) (middleNamed : middle.WellNamed)
    (rightNamed : right.WellNamed) : left.Equiv right := by
  induction left using inductionOnChildren generalizing middle right with
  | parent left ih =>
      obtain ⟨heads, children⟩ := (equiv_iff leftNamed middleNamed).mp equal
      obtain ⟨heads', children'⟩ := (equiv_iff middleNamed rightNamed).mp equal'
      rw [equiv_iff leftNamed rightNamed]
      apply And.intro (heads.trans heads')
      intro step
      apply rel_compose (children step) (children' step)
      intro ours part theirs found foundPart found' equal equal'
      exact ih step ours found equal equal' (leftNamed.child found)
        (middleNamed.child foundPart) (rightNamed.child found')

/-- What agrees with a type agrees with every type equal to it. -/
theorem Agrees.trans_equiv {ty left right : Ty} (agrees : ty.Agrees left)
    (equal : left.Equiv right) (wellNamed : ty.WellNamed) (leftNamed : left.WellNamed)
    (rightNamed : right.WellNamed) : ty.Agrees right := by
  induction left using inductionOnChildren generalizing ty right with
  | parent left ih =>
      obtain ⟨heads, children⟩ := (equiv_iff leftNamed rightNamed).mp equal
      rcases (agrees_iff wellNamed).mp agrees with rfl | rfl | ⟨heads', children'⟩
      · exact unknown_agrees _
      · have unknown : right = .unknown := head_eq_unknown.mp heads.symm
        subst unknown
        exact agrees_unknown _
      apply agrees_of_children wellNamed (heads'.trans heads)
      intro step
      apply rel_compose (children' step) (children step)
      intro ours part theirs found foundPart found' agrees equal
      exact ih step part foundPart agrees equal (wellNamed.child found)
        (leftNamed.child foundPart) (rightNamed.child found')

/-- The number of holes of each entry, under its name. -/
def holeCounts (entries : List (String × Ty)) : List (String × Nat) :=
  entries.map fun entry => (entry.1, entry.2.holes)

theorem names_holeCounts (entries : List (String × Ty)) :
    (holeCounts entries).map Prod.fst = entries.map Prod.fst := by
  simp [holeCounts, Function.comp_def]

/-- The order of the entries does not count. -/
theorem holesOfEach_of_perm {ours theirs : List (String × Ty)}
    (perm : (holeCounts ours).Perm (holeCounts theirs)) :
    holesOfEach ours = holesOfEach theirs := by
  have isSum (entries : List (String × Ty)) :
      holesOfEach entries = ((holeCounts entries).map Prod.snd).sum := by
    induction entries with
    | nil => rfl
    | cons entry rest ih =>
        rw [holesOfEach, ih]
        rfl
  rw [isSum, isSum]
  exact (perm.map Prod.snd).sum_nat

/-- Members that match and have equally many holes each have equally many together. -/
theorem holesOfEach_of_matched {ours theirs : List (String × Ty)}
    (distinct : (ours.map Prod.fst).Nodup) (distinct' : (theirs.map Prod.fst).Nodup)
    (matched : Matched (fun our their => our.holes = their.holes) ours theirs) :
    holesOfEach ours = holesOfEach theirs := by
  -- The order of the members may differ, so their numbers of holes are compared by name.
  apply holesOfEach_of_perm
  apply perm_of_names
  · rw [names_holeCounts, names_holeCounts]
    exact matched.names_perm distinct distinct'
  · rw [names_holeCounts]
    exact distinct
  · intro count member count' member' same
    obtain ⟨entry, present, rfl⟩ := List.mem_map.mp member
    obtain ⟨entry', present', rfl⟩ := List.mem_map.mp member'
    have found := (lookup_eq_some_iff_mem distinct).mpr present
    have found' := (lookup_eq_some_iff_mem distinct').mpr present'
    exact (rel_iff.mp (matched entry.1)).2 entry.2 entry'.2 found (same ▸ found')

/-- So have arguments that are aligned. -/
theorem holesOfEach_of_aligned {ours theirs : List (String × Ty)}
    (aligned : Aligned (fun our their => our.holes = their.holes) ours theirs) :
    holesOfEach ours = holesOfEach theirs := by
  induction ours generalizing theirs with
  | nil =>
      cases theirs with
      | nil => rfl
      | cons entry rest => exact absurd aligned not_aligned_nil_cons
  | cons entry rest ih =>
      cases theirs with
      | nil => exact absurd aligned not_aligned_cons_nil
      | cons entry' rest' =>
          obtain ⟨first, later⟩ := aligned_cons.mp aligned
          rw [holesOfEach, holesOfEach, first, ih later]

/-- Equal types have equally many holes. -/
theorem Equiv.holes_eq {left right : Ty} (equal : left.Equiv right) (wellNamed : left.WellNamed)
    (wellNamed' : right.WellNamed) : left.holes = right.holes := by
  induction left using inductionOnChildren generalizing right with
  | parent left ih =>
      obtain ⟨heads, children⟩ := (equiv_iff wellNamed wellNamed').mp equal
      have counted (step : Step) : Option.Rel (fun our their => holes our = holes their)
          (left.child? step) (right.child? step) := by
        rcases rel_iff.mp (children step) with ⟨both, equalChildren⟩
        refine rel_iff.mpr ⟨both, fun ours theirs found found' => ?_⟩
        exact ih step ours found (equalChildren ours theirs found found')
          (wellNamed.child found) (wellNamed'.child found')
      cases left with
      | unknown => rw [head_eq_unknown.mp heads.symm]
      | prim kind => cases right <;> first | rfl | cases heads
      | record ours =>
          cases right with
          | record theirs =>
              exact holesOfEach_of_matched (wellNamed_record.mp wellNamed).1
                (wellNamed_record.mp wellNamed').1 (matched_iff_child?.mpr counted)
          | _ => cases heads
      | func ours ret =>
          cases right with
          | func theirs theirRet =>
              obtain ⟨args, rets⟩ := aligned_iff_child?.mpr counted
              rw [holes, holes, holesOfEach_of_aligned args, rets]
          | _ => cases heads

end Polyflow.Ty
