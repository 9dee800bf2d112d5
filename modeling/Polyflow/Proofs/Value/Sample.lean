/-
# Values of a type

The type of a value is complete, and there is no function in it. A type without functions
has values: where nothing is known of it, any value will do. So the values of a type that
is open somewhere do not all have the same type.
-/

import Polyflow.Proofs.Ty.Complete
import Polyflow.Proofs.Value.Equality

namespace Polyflow

namespace Ty

mutual

/-- Whether there is a function type in a type, at any depth. -/
def hasFunc : Ty → Bool
  | .func _ _ => true
  | .record members => anyHasFunc members
  | _ => false

/-- Whether there is a function type in some entry. -/
def anyHasFunc : List (String × Ty) → Bool
  | [] => false
  | (_, ty) :: rest => ty.hasFunc || anyHasFunc rest

end

theorem anyHasFunc_eq_false_iff {entries : List (String × Ty)} :
    anyHasFunc entries = false ↔ ∀ entry ∈ entries, entry.2.hasFunc = false := by
  induction entries with
  | nil => simp [anyHasFunc]
  | cons entry rest ih => simp [anyHasFunc, ih]

end Ty

namespace Value

/-- The type of a value is complete. -/
theorem holes_ty {value : Value} (wellNamed : value.WellNamed) : value.ty.holes = 0 := by
  induction value using inductionOnMembers with
  | parent value ih =>
      cases value with
      | record members =>
          obtain ⟨distinct, each⟩ := wellNamed_record.mp wellNamed
          rw [ty, tyOfEach_eq_map, Ty.holes, Ty.holesOfEach_eq_zero]
          intro entry member
          obtain ⟨original, present, rfl⟩ := List.mem_map.mp member
          exact ih members original.1 original.2 rfl
            ((lookup_eq_some_iff_mem distinct).mpr present) (each original present)
      | _ => rfl

/-- A type that the type of some value agrees with has no function in it. -/
theorem hasFunc_of_agrees {value : Value} {ty : Ty} (tyNamed : ty.WellNamed)
    (agrees : ty.Agrees value.ty) : ty.hasFunc = false := by
  induction value using inductionOnMembers generalizing ty with
  | parent value ih =>
      cases ty with
      | prim kind => rfl
      | unknown => rfl
      | func args ret => cases value <;> cases agrees
      | record members =>
          obtain ⟨distinct, each⟩ := Ty.wellNamed_record.mp tyNamed
          rw [Ty.hasFunc, Ty.anyHasFunc_eq_false_iff]
          intro entry member
          cases value with
          | record items =>
              have matched := (Ty.record_agrees_record distinct).mp agrees
              obtain ⟨itemTy, found, agreesItem⟩ := exists_right_of_rel (matched entry.1)
                ((lookup_eq_some_iff_mem distinct).mpr member)
              rw [lookup_tyOfEach] at found
              obtain ⟨item, present, rfl⟩ := Option.map_eq_some_iff.mp found
              exact ih items entry.1 item rfl present (each entry member) agreesItem
          | _ => cases agrees

mutual

/-- A value of a type without functions, with the filler wherever nothing is known. -/
def sample (filler : Value) : Ty → Value
  | .prim .bool => .bool false
  | .prim .text => .text ""
  | .prim .int => .int 0
  | .prim .float => .float ⟨0⟩
  | .record members => .record (sampleEach filler members)
  | .func _ _ => filler
  | .unknown => filler

/-- A value of each entry's type, under its name. -/
def sampleEach (filler : Value) : List (String × Ty) → List (String × Value)
  | [] => []
  | (name, ty) :: rest => (name, sample filler ty) :: sampleEach filler rest

end

theorem sampleEach_eq_map (filler : Value) (members : List (String × Ty)) :
    sampleEach filler members = members.map fun entry => (entry.1, sample filler entry.2) := by
  induction members with
  | nil => rfl
  | cons entry rest ih => rw [sampleEach, ih, List.map_cons]

/-- The type of the sample of a member. -/
theorem lookup_tyOfEach_sampleEach (filler : Value) (members : List (String × Ty))
    (name : String) :
    (tyOfEach (sampleEach filler members)).lookup name =
      (members.lookup name).map fun ty => (sample filler ty).ty := by
  rw [lookup_tyOfEach, sampleEach_eq_map, lookup_map members (fun _ => sample filler) name,
    Option.map_map]
  rfl

theorem sample_wellNamed {filler : Value} {ty : Ty} (fillerNamed : filler.WellNamed)
    (tyNamed : ty.WellNamed) : (sample filler ty).WellNamed := by
  induction ty using Ty.inductionOnChildren with
  | parent ty ih =>
      cases ty with
      | prim kind => cases kind <;> trivial
      | func args ret => exact fillerNamed
      | unknown => exact fillerNamed
      | record members =>
          obtain ⟨distinct, each⟩ := Ty.wellNamed_record.mp tyNamed
          rw [sample, sampleEach_eq_map, wellNamed_record]
          apply And.intro (by simpa [Function.comp_def] using distinct)
          intro entry member
          obtain ⟨original, present, rfl⟩ := List.mem_map.mp member
          exact ih (.member original.1) original.2
            ((lookup_eq_some_iff_mem distinct).mpr present) (each original present)

/-- A type without functions agrees with the types of its samples. -/
theorem agrees_ty_sample (filler : Value) {ty : Ty} (tyNamed : ty.WellNamed)
    (noFunc : ty.hasFunc = false) : ty.Agrees (sample filler ty).ty := by
  induction ty using Ty.inductionOnChildren with
  | parent ty ih =>
      cases ty with
      | prim kind => cases kind <;> rfl
      | func args ret => cases noFunc
      | unknown => exact Ty.unknown_agrees _
      | record members =>
          obtain ⟨distinct, each⟩ := Ty.wellNamed_record.mp tyNamed
          rw [Ty.hasFunc, Ty.anyHasFunc_eq_false_iff] at noFunc
          rw [sample, Value.ty, Ty.record_agrees_record distinct]
          intro name
          rw [lookup_tyOfEach_sampleEach]
          cases found : members.lookup name with
          | none => exact .none
          | some ty =>
              have member := mem_of_lookup found
              exact .some (ih (.member name) ty found (each _ member) (noFunc _ member))

/-- Two samples of a type that is open somewhere have the same type only if the fillers
have. -/
theorem ty_equiv_of_sample {filler other : Value} {ty : Ty} (fillerNamed : filler.WellNamed)
    (otherNamed : other.WellNamed) (tyNamed : ty.WellNamed) (noFunc : ty.hasFunc = false)
    (isOpen : ty.holes ≠ 0) (equal : (sample filler ty).ty.Equiv (sample other ty).ty) :
    filler.ty.Equiv other.ty := by
  induction ty using Ty.inductionOnChildren with
  | parent ty ih =>
      cases ty with
      | prim kind => exact absurd rfl isOpen
      | func args ret => cases noFunc
      | unknown => exact equal
      | record members =>
          obtain ⟨distinct, each⟩ := Ty.wellNamed_record.mp tyNamed
          rw [Ty.hasFunc, Ty.anyHasFunc_eq_false_iff] at noFunc
          rw [Ty.holes, ne_eq, Ty.holesOfEach_eq_zero] at isOpen
          push Not at isOpen
          obtain ⟨entry, member, isOpen⟩ := isOpen
          have found := (lookup_eq_some_iff_mem distinct).mpr member
          have sampleNamed := (sample_wellNamed fillerNamed tyNamed).ty
          have otherSampleNamed := (sample_wellNamed otherNamed tyNamed).ty
          have matched := (Ty.record_equiv_record (Ty.wellNamed_record.mp sampleNamed).1
            (Ty.wellNamed_record.mp otherSampleNamed).1).mp equal entry.1
          rw [lookup_tyOfEach_sampleEach, lookup_tyOfEach_sampleEach, found] at matched
          have equalHere := (rel_iff.mp matched).2 _ _ rfl rfl
          exact ih (.member entry.1) entry.2 found (each entry member) (noFunc entry member)
            isOpen equalHere

end Value

end Polyflow
