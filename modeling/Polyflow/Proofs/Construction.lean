/-
# What can be constructed

Types and values are made step by step: a record or a function is made of parts that were
made before, and a repeated name is refused. So names are distinct at every level of what
was made. Nothing else is asked of it: every type and every value with distinct names can
be made. Statements about all types or all values that there can be are about these.
-/

import Polyflow.Proofs.Value.Equality

namespace Polyflow

namespace Ty

theorem record?_eq_ok_iff {members : List (String × Ty)} {ty : Ty} :
    record? members = .ok ty ↔ (members.map Prod.fst).Nodup ∧ Ty.record members = ty :=
  map_distinctNames_eq_ok_iff

theorem func?_eq_ok_iff {args : List (String × Ty)} {ret ty : Ty} :
    func? args ret = .ok ty ↔ (args.map Prod.fst).Nodup ∧ Ty.func args ret = ty :=
  map_distinctNames_eq_ok_iff

/-- The types that can be made. -/
inductive Constructible : Ty → Prop
  | prim (kind : Prim) : Constructible (.prim kind)
  | unknown : Constructible .unknown
  | record {members : List (String × Ty)} {ty : Ty}
      (each : ∀ entry ∈ members, Constructible entry.2) (made : record? members = .ok ty) :
      Constructible ty
  | func {args : List (String × Ty)} {ret ty : Ty}
      (each : ∀ entry ∈ args, Constructible entry.2) (ofRet : Constructible ret)
      (made : func? args ret = .ok ty) : Constructible ty

/-- They are those whose names are distinct at every level. -/
theorem constructible_iff {ty : Ty} : ty.Constructible ↔ ty.WellNamed := by
  constructor
  · intro constructible
    induction constructible with
    | prim kind => trivial
    | unknown => trivial
    | record _ made each =>
        obtain ⟨distinct, rfl⟩ := record?_eq_ok_iff.mp made
        exact wellNamed_record.mpr ⟨distinct, each⟩
    | func _ _ made each ofRet =>
        obtain ⟨distinct, rfl⟩ := func?_eq_ok_iff.mp made
        exact wellNamed_func.mpr ⟨distinct, each, ofRet⟩
  · intro wellNamed
    induction ty using inductionOnChildren with
    | parent ty ih =>
        have ofChild (step : Step) (child : Ty) (found : ty.child? step = some child) :
            child.Constructible := ih step child found (wellNamed.child found)
        cases ty with
        | prim kind => exact .prim kind
        | unknown => exact .unknown
        | record members =>
            have distinct := (wellNamed_record.mp wellNamed).1
            refine .record (fun entry member => ?_) (record?_eq_ok_iff.mpr ⟨distinct, rfl⟩)
            exact ofChild (.member entry.1) _ ((lookup_eq_some_iff_mem distinct).mpr member)
        | func args ret =>
            have distinct := (wellNamed_func.mp wellNamed).1
            refine .func (fun entry member => ?_) (ofChild .ret ret rfl)
              (func?_eq_ok_iff.mpr ⟨distinct, rfl⟩)
            obtain ⟨index, found⟩ := List.getElem?_of_mem member
            exact ofChild (.arg index) entry.2 (child?_arg_of_getElem? found)

end Ty

namespace Value

theorem record?_eq_ok_iff {members : List (String × Value)} {value : Value} :
    record? members = .ok value ↔ (members.map Prod.fst).Nodup ∧ Value.record members = value :=
  map_distinctNames_eq_ok_iff

/-- The values that can be made. -/
inductive Constructible : Value → Prop
  | bool (value : Bool) : Constructible (.bool value)
  | text (value : String) : Constructible (.text value)
  | int (value : Int64) : Constructible (.int value)
  | float (value : Binary64) : Constructible (.float value)
  | record {members : List (String × Value)} {value : Value}
      (each : ∀ entry ∈ members, Constructible entry.2) (made : record? members = .ok value) :
      Constructible value

/-- They are those whose names are distinct at every level. -/
theorem constructible_iff {value : Value} : value.Constructible ↔ value.WellNamed := by
  constructor
  · intro constructible
    induction constructible with
    | record _ made each =>
        obtain ⟨distinct, rfl⟩ := record?_eq_ok_iff.mp made
        exact wellNamed_record.mpr ⟨distinct, each⟩
    | _ => trivial
  · intro wellNamed
    induction value using inductionOnMembers with
    | parent value ih =>
        cases value with
        | bool value => exact .bool value
        | text value => exact .text value
        | int value => exact .int value
        | float value => exact .float value
        | record members =>
            obtain ⟨distinct, each⟩ := wellNamed_record.mp wellNamed
            refine .record (fun entry member => ?_) (record?_eq_ok_iff.mpr ⟨distinct, rfl⟩)
            exact ih members entry.1 entry.2 rfl ((lookup_eq_some_iff_mem distinct).mpr member)
              (each entry member)

end Value

end Polyflow
