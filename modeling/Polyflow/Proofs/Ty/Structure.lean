/-
# The structure of types

A type has a head, which says what stands at its outermost level, and children,
each reached by one step: a member by its name, an argument by its position, or
the return type. Facts about records and about functions are the same facts once
they are told in terms of heads and children, and so is an induction over types.
-/

import Polyflow.Proofs.Entries
import Polyflow.Ty.Basic

namespace Polyflow.Ty

/-- What stands at the outermost level of a type. -/
inductive Head
  | prim (kind : Prim)
  | record
  | func
  | unknown
deriving DecidableEq, Repr

/-- The head of a type. -/
def head : Ty → Head
  | .prim kind => .prim kind
  | .record _ => .record
  | .func _ _ => .func
  | .unknown => .unknown

/-- One step into a type. -/
inductive Step
  /-- To the member of this name. -/
  | member (name : String)
  /-- To the argument at this position, counted from zero. -/
  | arg (index : Nat)
  /-- To the return type. -/
  | ret
deriving DecidableEq, Repr

/-- The type that a step leads to, if the type has such a part. -/
def child? : Ty → Step → Option Ty
  | .record members, .member name => members.lookup name
  | .func args _, .arg index => args[index]?.map Prod.snd
  | .func _ ret, .ret => some ret
  | _, _ => none

@[simp]
theorem head_eq_unknown {ty : Ty} : ty.head = .unknown ↔ ty = .unknown := by
  cases ty <;> simp [head]

/-- Something is known about a type unless it is the unknown. -/
theorem isKnown_iff {ty : Ty} : ty.isKnown = true ↔ ty ≠ .unknown := by
  cases ty <;> simp [isKnown]

instance (ty : Ty) : Decidable (ty = .unknown) :=
  decidable_of_iff (ty.isKnown = false) (by cases ty <;> simp [isKnown])

/-- An unknown has no children. -/
@[simp]
theorem child?_unknown (step : Step) : Ty.unknown.child? step = none := by
  cases step <;> rfl

/-- A primitive type has no children. -/
@[simp]
theorem child?_prim (kind : Prim) (step : Step) : (Ty.prim kind).child? step = none := by
  cases step <;> rfl

/-- A member is the child under its name. -/
theorem child?_member_of_getElem? {members : List (String × Ty)}
    (distinct : (members.map Prod.fst).Nodup) {position : Nat} {entry : String × Ty}
    (found : members[position]? = some entry) :
    (Ty.record members).child? (.member entry.1) = some entry.2 :=
  (lookup_eq_some_iff_mem distinct).mpr (List.mem_of_getElem? found)

/-- An argument is the child under its position. -/
theorem child?_arg_of_getElem? {args : List (String × Ty)} {ret : Ty} {position : Nat}
    {entry : String × Ty} (found : args[position]? = some entry) :
    (Ty.func args ret).child? (.arg position) = some entry.2 := by
  simp [child?, found]

/-- A child is smaller than its parent. -/
theorem sizeOf_child_lt {ty child : Ty} {step : Step} (found : ty.child? step = some child) :
    sizeOf child < sizeOf ty := by
  cases ty with
  | prim kind => simp at found
  | unknown => simp at found
  | record members =>
      cases step with
      | member name =>
          have inside := List.sizeOf_lt_of_mem (mem_of_lookup found)
          simp only [Prod.mk.sizeOf_spec, record.sizeOf_spec] at inside ⊢
          omega
      | arg index => cases found
      | ret => cases found
  | func args ret =>
      cases step with
      | member name => cases found
      | arg index =>
          obtain ⟨entry, member, rfl⟩ := Option.map_eq_some_iff.mp found
          have inside := List.sizeOf_lt_of_mem (List.mem_of_getElem? member)
          have part : sizeOf entry.2 < sizeOf entry := by
            rcases entry with ⟨name, ty⟩
            simp only [Prod.mk.sizeOf_spec]
            omega
          simp only [func.sizeOf_spec]
          omega
      | ret =>
          cases found
          simp only [func.sizeOf_spec]
          omega

/-- To prove something of every type, prove it of a type all of whose children
have the property. -/
theorem inductionOnChildren {motive : Ty → Prop}
    (parent : ∀ ty, (∀ step child, ty.child? step = some child → motive child) → motive ty)
    (ty : Ty) : motive ty :=
  parent ty fun _ child found =>
    have := sizeOf_child_lt found
    inductionOnChildren parent child
termination_by sizeOf ty

/-- All entries are well named, each by itself. -/
theorem eachWellNamed_iff {entries : List (String × Ty)} :
    EachWellNamed entries ↔ ∀ entry ∈ entries, entry.2.WellNamed := by
  induction entries with
  | nil => simp [EachWellNamed]
  | cons entry rest ih => simp [EachWellNamed, ih]

theorem wellNamed_record {members : List (String × Ty)} :
    (Ty.record members).WellNamed ↔
      (members.map Prod.fst).Nodup ∧ ∀ entry ∈ members, entry.2.WellNamed := by
  rw [WellNamed, eachWellNamed_iff]

theorem wellNamed_func {args : List (String × Ty)} {ret : Ty} :
    (Ty.func args ret).WellNamed ↔
      (args.map Prod.fst).Nodup ∧ (∀ entry ∈ args, entry.2.WellNamed) ∧ ret.WellNamed := by
  rw [WellNamed, eachWellNamed_iff]

/-- The members of a well-named record are well named. -/
theorem WellNamed.member {members : List (String × Ty)} {name : String} {ty : Ty}
    (wellNamed : (Ty.record members).WellNamed) (found : members.lookup name = some ty) :
    ty.WellNamed :=
  (wellNamed_record.mp wellNamed).2 _ (mem_of_lookup found)

/-- The children of a well-named type are well named. -/
theorem WellNamed.child {ty child : Ty} (wellNamed : ty.WellNamed) {step : Step}
    (found : ty.child? step = some child) : child.WellNamed := by
  cases ty with
  | prim kind => simp at found
  | unknown => simp at found
  | record members =>
      cases step with
      | member name => exact wellNamed.member found
      | arg index => cases found
      | ret => cases found
  | func args ret =>
      cases step with
      | member name => cases found
      | arg index =>
          obtain ⟨entry, member, rfl⟩ := Option.map_eq_some_iff.mp found
          exact (wellNamed_func.mp wellNamed).2.1 _ (List.mem_of_getElem? member)
      | ret =>
          cases found
          exact (wellNamed_func.mp wellNamed).2.2

mutual

/-- Decides whether names are distinct at every level. -/
def decideWellNamed : (ty : Ty) → Decidable ty.WellNamed
  | .prim _ => .isTrue trivial
  | .record members =>
    have := decideEachWellNamed members
    inferInstanceAs (Decidable ((members.map Prod.fst).Nodup ∧ EachWellNamed members))
  | .func args ret =>
    have := decideEachWellNamed args
    have := decideWellNamed ret
    inferInstanceAs (Decidable ((args.map Prod.fst).Nodup ∧ EachWellNamed args ∧ ret.WellNamed))
  | .unknown => .isTrue trivial

/-- Decides whether names are distinct at every level of each entry. -/
def decideEachWellNamed : (entries : List (String × Ty)) → Decidable (EachWellNamed entries)
  | [] => .isTrue trivial
  | (_, ty) :: rest =>
    have := decideWellNamed ty
    have := decideEachWellNamed rest
    inferInstanceAs (Decidable (ty.WellNamed ∧ EachWellNamed rest))

end

instance (ty : Ty) : Decidable ty.WellNamed := decideWellNamed ty

/-- Entries have no holes when none of them has. -/
theorem holesOfEach_eq_zero {entries : List (String × Ty)} :
    holesOfEach entries = 0 ↔ ∀ entry ∈ entries, entry.2.holes = 0 := by
  induction entries with
  | nil => simp [holesOfEach]
  | cons entry rest ih => simp [holesOfEach, ih]

/-- A type has no holes exactly when it is known and its children have none. -/
theorem holes_eq_zero_iff {ty : Ty} (wellNamed : ty.WellNamed) :
    ty.holes = 0 ↔
      ty ≠ .unknown ∧ ∀ step child, ty.child? step = some child → child.holes = 0 := by
  cases ty with
  | prim kind => simp [holes]
  | unknown => simp [holes]
  | record members =>
      have distinct := (wellNamed_record.mp wellNamed).1
      rw [holes, holesOfEach_eq_zero]
      constructor
      · intro complete
        apply And.intro (by simp)
        intro step child found
        cases step with
        | member name => exact complete _ (mem_of_lookup found)
        | arg index => cases found
        | ret => cases found
      · intro complete entry member
        rcases complete with ⟨-, complete⟩
        exact complete (.member entry.1) entry.2 ((lookup_eq_some_iff_mem distinct).mpr member)
  | func args ret =>
      rw [holes, Nat.add_eq_zero_iff, holesOfEach_eq_zero]
      constructor
      · intro complete
        rcases complete with ⟨completeArgs, completeRet⟩
        apply And.intro (by simp)
        intro step child found
        cases step with
        | member name => cases found
        | arg index =>
            obtain ⟨entry, member, rfl⟩ := Option.map_eq_some_iff.mp found
            exact completeArgs _ (List.mem_of_getElem? member)
        | ret =>
            cases found
            exact completeRet
      · intro complete
        rcases complete with ⟨-, complete⟩
        refine ⟨fun entry member => ?_, complete .ret ret rfl⟩
        obtain ⟨index, found⟩ := List.getElem?_of_mem member
        exact complete (.arg index) entry.2 (child?_arg_of_getElem? found)

/-- Entries that are complete but for one, which has at most one hole, have at most
one together. -/
theorem holesOfEach_le_one {entries : List (String × Ty)} {index : Nat}
    (others : ∀ position entry, entries[position]? = some entry → position ≠ index →
      entry.2.holes = 0)
    (here : ∀ entry, entries[index]? = some entry → entry.2.holes ≤ 1) :
    holesOfEach entries ≤ 1 := by
  induction entries generalizing index with
  | nil => exact Nat.zero_le 1
  | cons entry rest ih =>
      rw [holesOfEach]
      cases index with
      | zero =>
          have complete : holesOfEach rest = 0 := holesOfEach_eq_zero.mpr fun other member => by
            obtain ⟨position, found⟩ := List.getElem?_of_mem member
            exact others (position + 1) other found (Nat.succ_ne_zero position)
          have first := here entry rfl
          omega
      | succ index =>
          have first := others 0 entry rfl (Nat.succ_ne_zero index).symm
          have settled : ∀ other, rest[index]? = some other → other.2.holes ≤ 1 := here
          have later := ih (fun position other found differs =>
            others (position + 1) other found fun same => differs (Nat.succ.inj same)) settled
          omega

/-- If all children but one are complete and that one has at most one hole, no child
has more. -/
theorem holes_child_le_one {ty : Ty} {step : Step}
    (others : ∀ other child, ty.child? other = some child → other ≠ step → child.holes = 0)
    (here : ∀ child, ty.child? step = some child → child.holes ≤ 1)
    {other : Step} {child : Ty} (found : ty.child? other = some child) : child.holes ≤ 1 := by
  by_cases same : other = step
  · exact here child (same ▸ found)
  · rw [others other child found same]
    exact Nat.zero_le 1

private theorem holes_record_le_one {members : List (String × Ty)} {step : Step}
    (distinct : (members.map Prod.fst).Nodup)
    (others : ∀ other child, (Ty.record members).child? other = some child → other ≠ step →
      child.holes = 0)
    (here : ∀ child, (Ty.record members).child? step = some child → child.holes ≤ 1) :
    (Ty.record members).holes ≤ 1 := by
  rw [holes]
  by_cases present : ∃ (index : Nat) (entry : String × Ty),
      members[index]? = some entry ∧ .member entry.1 = step
  · rcases present with ⟨index, entry, found, rfl⟩
    have othersComplete (position : Nat) (other : String × Ty)
        (found' : members[position]? = some other) (differs : position ≠ index) :
        other.2.holes = 0 := by
      apply others _ _ (child?_member_of_getElem? distinct found')
      intro same
      have bound : position < (members.map Prod.fst).length := by
        simpa using (List.getElem?_eq_some_iff.mp found').1
      apply differs
      apply (List.getElem?_inj bound distinct).mp
      simp [found, found', Step.member.inj same]
    apply holesOfEach_le_one othersComplete
    intro other found'
    exact holes_child_le_one others here (child?_member_of_getElem? distinct found')
  · have complete : holesOfEach members = 0 := by
      rw [holesOfEach_eq_zero]
      intro entry member
      obtain ⟨position, found⟩ := List.getElem?_of_mem member
      apply others _ _ (child?_member_of_getElem? distinct found)
      intro same
      exact present ⟨position, entry, found, same⟩
    rw [complete]
    exact Nat.zero_le 1

private theorem holes_func_le_one {args : List (String × Ty)} {ret : Ty} {step : Step}
    (others : ∀ other child, (Ty.func args ret).child? other = some child → other ≠ step →
      child.holes = 0)
    (here : ∀ child, (Ty.func args ret).child? step = some child → child.holes ≤ 1) :
    (Ty.func args ret).holes ≤ 1 := by
  rw [holes]
  by_cases present : ∃ index, .arg index = step
  · rcases present with ⟨index, rfl⟩
    rw [others .ret ret rfl (by simp), Nat.add_zero]
    have othersComplete (position : Nat) (entry : String × Ty)
        (found : args[position]? = some entry) (differs : position ≠ index) :
        entry.2.holes = 0 := by
      apply others _ _ (child?_arg_of_getElem? found)
      intro same
      exact differs (Step.arg.inj same)
    apply holesOfEach_le_one othersComplete
    intro entry found
    exact holes_child_le_one others here (child?_arg_of_getElem? found)
  · have complete : holesOfEach args = 0 := by
      rw [holesOfEach_eq_zero]
      intro entry member
      obtain ⟨position, found⟩ := List.getElem?_of_mem member
      apply others _ _ (child?_arg_of_getElem? found)
      intro same
      exact present ⟨position, same⟩
    have isRet : (Ty.func args ret).child? .ret = some ret := rfl
    rw [complete, Nat.zero_add]
    exact holes_child_le_one others here isRet

/-- So has a type whose children are complete but for one. -/
theorem holes_le_one {ty : Ty} {step : Step} (wellNamed : ty.WellNamed)
    (others : ∀ other child, ty.child? other = some child → other ≠ step → child.holes = 0)
    (here : ∀ child, ty.child? step = some child → child.holes ≤ 1) : ty.holes ≤ 1 := by
  cases ty with
  | prim kind => exact Nat.zero_le 1
  | unknown => exact Nat.le_refl 1
  | record members => exact holes_record_le_one (wellNamed_record.mp wellNamed).1 others here
  | func args ret => exact holes_func_le_one others here

end Polyflow.Ty
