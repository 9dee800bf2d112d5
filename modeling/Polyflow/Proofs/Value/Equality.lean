/-
# Laws of equality between values

Equality matches members by name and compares numbers as numbers. It is not
reflexive, for not-a-number differs from itself, but it is symmetric and transitive,
and it is respected by what a program can observe of a record: its members and its
type.
-/

import Polyflow.Proofs.Ty.Equality
import Polyflow.Value.Basic

namespace Polyflow

/-- Which of two numbers comes first does not matter. -/
theorem Binary64.equals_symm {x y : Binary64} (equal : x.equals y = true) : y.equals x = true := by
  simp only [equals, Bool.and_eq_true, Bool.or_eq_true, beq_iff_eq] at equal ⊢
  rcases equal with ⟨⟨isNumber, isNumber'⟩, bits | ⟨zero, zero'⟩⟩
  · exact ⟨⟨isNumber', isNumber⟩, .inl bits.symm⟩
  · exact ⟨⟨isNumber', isNumber⟩, .inr ⟨zero', zero⟩⟩

/-- Numbers that are equal to the same one are equal. -/
theorem Binary64.equals_trans {x y z : Binary64} (equal : x.equals y = true)
    (equal' : y.equals z = true) : x.equals z = true := by
  simp only [equals, Bool.and_eq_true, Bool.or_eq_true, beq_iff_eq] at equal equal' ⊢
  rcases equal with ⟨⟨isNumber, -⟩, same⟩
  rcases equal' with ⟨⟨-, isNumber'⟩, same'⟩
  refine ⟨⟨isNumber, isNumber'⟩, ?_⟩
  rcases same with bits | ⟨zero, zero'⟩
  · have sameNumber : x = y := congrArg Binary64.mk bits
    rw [sameNumber]
    exact same'
  · rcases same' with bits | ⟨-, zero''⟩
    · have sameNumber : y = z := congrArg Binary64.mk bits
      exact .inr ⟨zero, sameNumber ▸ zero'⟩
    · exact .inr ⟨zero, zero''⟩

namespace Value

/-- Equality as a relation. -/
abbrev Equiv (left right : Value) : Prop :=
  left.equiv right = true

/-- To prove something of every value, prove it of a value all of whose members have
the property. -/
theorem inductionOnMembers {motive : Value → Prop}
    (parent : ∀ value, (∀ members name item, value = .record members →
      members.lookup name = some item → motive item) → motive value)
    (value : Value) : motive value :=
  parent value fun members name item isRecord found =>
    have : sizeOf item < sizeOf value := by
      have inside := List.sizeOf_lt_of_mem (mem_of_lookup found)
      simp only [isRecord, record.sizeOf_spec, Prod.mk.sizeOf_spec] at inside ⊢
      omega
    inductionOnMembers parent item
termination_by sizeOf value

theorem eachWellNamed_iff {members : List (String × Value)} :
    EachWellNamed members ↔ ∀ entry ∈ members, entry.2.WellNamed := by
  induction members with
  | nil => simp [EachWellNamed]
  | cons entry rest ih => simp [EachWellNamed, ih]

theorem wellNamed_record {members : List (String × Value)} :
    (Value.record members).WellNamed ↔
      (members.map Prod.fst).Nodup ∧ ∀ entry ∈ members, entry.2.WellNamed := by
  rw [WellNamed, eachWellNamed_iff]

/-- The members of a well-named record are well named. -/
theorem WellNamed.member {members : List (String × Value)} {name : String} {item : Value}
    (wellNamed : (Value.record members).WellNamed) (found : members.lookup name = some item) :
    item.WellNamed :=
  (wellNamed_record.mp wellNamed).2 _ (mem_of_lookup found)

theorem equivMembers_iff {ours theirs : List (String × Value)} :
    equivMembers ours theirs = true ↔
      ∀ entry ∈ ours, ∃ item, theirs.lookup entry.1 = some item ∧ entry.2.Equiv item := by
  induction ours with
  | nil => simp [equivMembers]
  | cons entry rest ih =>
      rcases entry with ⟨name, value⟩
      rw [List.forall_mem_cons, ← ih, equivMembers, Bool.and_eq_true]
      cases found : theirs.lookup name <;> simp

/-- Records are equal when their members match under equality. -/
theorem record_equiv_record {ours theirs : List (String × Value)}
    (wellNamed : (Value.record ours).WellNamed) (wellNamed' : (Value.record theirs).WellNamed) :
    (Value.record ours).Equiv (.record theirs) ↔ Matched Equiv ours theirs := by
  rw [matched_iff_of_length (wellNamed_record.mp wellNamed).1 (wellNamed_record.mp wellNamed').1,
    ← equivMembers_iff]
  simp [Equiv, equiv]

/-- What a record equals is a record. -/
theorem exists_record_of_equiv {ours : List (String × Value)} {value : Value}
    (equal : (Value.record ours).Equiv value) : ∃ theirs, value = .record theirs := by
  cases value with
  | record theirs => exact ⟨theirs, rfl⟩
  | _ => cases equal

/-- A value other than a float or a record equals only itself. -/
theorem eq_of_equiv {left right : Value} (equal : left.Equiv right)
    (notFloat : ∀ number, left ≠ .float number) (notRecord : ∀ members, left ≠ .record members) :
    right = left := by
  rw [Equiv] at equal
  fun_cases equiv left right with
  | case1 ours theirs => rw [beq_iff_eq.mp equal]
  | case2 ours theirs => rw [beq_iff_eq.mp equal]
  | case3 ours theirs => rw [beq_iff_eq.mp equal]
  | case4 ours theirs => exact absurd rfl (notFloat ours)
  | case5 ours theirs => exact absurd rfl (notRecord ours)
  | case6 => simp_all [equiv]

theorem Equiv.symm {left right : Value} (equal : left.Equiv right) (wellNamed : left.WellNamed)
    (wellNamed' : right.WellNamed) : right.Equiv left := by
  induction left using inductionOnMembers generalizing right with
  | parent left ih =>
      cases left with
      | record ours =>
          obtain ⟨theirs, rfl⟩ := exists_record_of_equiv equal
          have matched := (record_equiv_record wellNamed wellNamed').mp equal
          rw [record_equiv_record wellNamed' wellNamed]
          intro name
          apply rel_swap (matched name)
          intro our their found found' equal
          exact ih ours name our rfl found equal (wellNamed.member found)
            (wellNamed'.member found')
      | float ours =>
          cases right with
          | float theirs => exact Binary64.equals_symm equal
          | _ => cases equal
      | _ =>
          have same := eq_of_equiv equal (by simp) (by simp)
          rwa [same] at equal ⊢

theorem Equiv.trans {left middle right : Value} (equal : left.Equiv middle)
    (equal' : middle.Equiv right) (leftNamed : left.WellNamed) (middleNamed : middle.WellNamed)
    (rightNamed : right.WellNamed) : left.Equiv right := by
  induction left using inductionOnMembers generalizing middle right with
  | parent left ih =>
      cases left with
      | record ours =>
          obtain ⟨between, rfl⟩ := exists_record_of_equiv equal
          obtain ⟨theirs, rfl⟩ := exists_record_of_equiv equal'
          have matched := (record_equiv_record leftNamed middleNamed).mp equal
          have matched' := (record_equiv_record middleNamed rightNamed).mp equal'
          rw [record_equiv_record leftNamed rightNamed]
          intro name
          apply rel_compose (matched name) (matched' name)
          intro our part their found foundPart found' equal equal'
          exact ih ours name our rfl found equal equal' (leftNamed.member found)
            (middleNamed.member foundPart) (rightNamed.member found')
      | float ours =>
          cases middle with
          | float between =>
              cases right with
              | float theirs => exact Binary64.equals_trans equal equal'
              | _ => cases equal'
          | _ => cases equal
      | _ =>
          rw [eq_of_equiv equal (by simp) (by simp)] at equal'
          exact equal'

mutual

/-- Whether there is a not-a-number in a value, at any depth. -/
def hasNaN : Value → Bool
  | .float number => number.isNaN
  | .record members => anyHasNaN members
  | _ => false

/-- Whether there is a not-a-number in some member. -/
def anyHasNaN : List (String × Value) → Bool
  | [] => false
  | (_, value) :: rest => value.hasNaN || anyHasNaN rest

end

theorem anyHasNaN_eq_false_iff {members : List (String × Value)} :
    anyHasNaN members = false ↔ ∀ entry ∈ members, entry.2.hasNaN = false := by
  induction members with
  | nil => simp [anyHasNaN]
  | cons entry rest ih => simp [anyHasNaN, ih]

/-- A value equals itself exactly if there is no not-a-number in it. -/
theorem equiv_self_iff {value : Value} (wellNamed : value.WellNamed) :
    value.Equiv value ↔ value.hasNaN = false := by
  induction value using inductionOnMembers with
  | parent value ih =>
      cases value with
      | record members =>
          rcases wellNamed_record.mp wellNamed with ⟨distinct, each⟩
          have ofMember (entry : String × Value) (member : entry ∈ members) :
              members.lookup entry.1 = some entry.2 ∧
                (entry.2.Equiv entry.2 ↔ entry.2.hasNaN = false) := by
            have found := (lookup_eq_some_iff_mem distinct).mpr member
            exact ⟨found, ih members entry.1 entry.2 rfl found (each entry member)⟩
          rw [record_equiv_record wellNamed wellNamed, hasNaN, anyHasNaN_eq_false_iff]
          constructor
          · intro matched entry member
            obtain ⟨found, itself⟩ := ofMember entry member
            obtain ⟨other, found', equal⟩ := exists_right_of_rel (matched entry.1) found
            cases found.symm.trans found'
            exact itself.mp equal
          · intro numbers name
            refine rel_iff.mpr ⟨Iff.rfl, fun ours theirs found found' => ?_⟩
            cases found.symm.trans found'
            have member := mem_of_lookup found
            exact (ofMember (name, ours) member).2.mpr (numbers (name, ours) member)
      | float number => simp [Equiv, equiv, Binary64.equals, hasNaN]
      | _ => simp [Equiv, equiv, hasNaN]

theorem tyOfEach_eq_map (members : List (String × Value)) :
    tyOfEach members = members.map fun entry => (entry.1, entry.2.ty) := by
  induction members with
  | nil => rfl
  | cons entry rest ih => rw [tyOfEach, ih, List.map_cons]

theorem lookup_tyOfEach (members : List (String × Value)) (name : String) :
    (tyOfEach members).lookup name = (members.lookup name).map ty := by
  rw [tyOfEach_eq_map]
  exact lookup_map members (fun _ => ty) name

/-- The type of a well-named value is well named. -/
theorem WellNamed.ty {value : Value} (wellNamed : value.WellNamed) : value.ty.WellNamed := by
  induction value using inductionOnMembers with
  | parent value ih =>
      cases value with
      | record members =>
          rcases wellNamed_record.mp wellNamed with ⟨distinct, each⟩
          rw [Value.ty, Ty.wellNamed_record, tyOfEach_eq_map]
          apply And.intro (by simpa [Function.comp_def] using distinct)
          intro entry member
          obtain ⟨original, present, rfl⟩ := List.mem_map.mp member
          exact ih members original.1 original.2 rfl
            ((lookup_eq_some_iff_mem distinct).mpr present) (each original present)
      | _ => trivial

/-- Equal values have equal types. -/
theorem Equiv.ty {left right : Value} (equal : left.Equiv right) (wellNamed : left.WellNamed)
    (wellNamed' : right.WellNamed) : left.ty.Equiv right.ty := by
  induction left using inductionOnMembers generalizing right with
  | parent left ih =>
      cases left with
      | record ours =>
          obtain ⟨theirs, rfl⟩ := exists_record_of_equiv equal
          have matched := (record_equiv_record wellNamed wellNamed').mp equal
          have distinct := (Ty.wellNamed_record.mp wellNamed.ty).1
          have distinct' := (Ty.wellNamed_record.mp wellNamed'.ty).1
          apply (Ty.record_equiv_record distinct distinct').mpr
          intro name
          rw [lookup_tyOfEach, lookup_tyOfEach]
          rcases rel_iff.mp (matched name) with ⟨both, related⟩
          refine rel_iff.mpr ⟨by simpa using both, fun ty ty' isTy isTy' => ?_⟩
          obtain ⟨our, found, rfl⟩ := Option.map_eq_some_iff.mp isTy
          obtain ⟨their, found', rfl⟩ := Option.map_eq_some_iff.mp isTy'
          exact ih ours name our rfl found (related our their found found')
            (wellNamed.member found) (wellNamed'.member found')
      | _ => cases right <;> first | rfl | cases equal

end Value

end Polyflow
