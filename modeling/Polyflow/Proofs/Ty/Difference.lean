/-
# Where two types differ

A report of a conflict is about one position, and the position can be found: there is a path
that exists in both types, and what the report shows of each is what stands at its end. There
the two types differ themselves, and not only in their parts. Either they are of different
kinds, different primitives or functions with different numbers of arguments; then the place
that is reported is the last step of the path. Or they are records and one of them lacks a
member that the other has; then the place is that member.
-/

import Polyflow.Proofs.Ty.Position

namespace Polyflow

namespace Ty

/-- What a report calls a step. -/
def Step.place : Step → Place
  | .member name => .member name
  | .arg index => .arg index
  | .ret => .ret

/-- What a report calls the end of a path: its last step, and the outermost level if there
is none. -/
def placeOf (path : List Step) : Place :=
  (path.getLast?.map Step.place).getD .top

/-- Only the empty path ends at the outermost level. -/
theorem placeOf_eq_top_iff {path : List Step} : placeOf path = .top ↔ path = [] := by
  rw [placeOf, ← List.getLast?_eq_none_iff]
  cases path.getLast? with
  | none => simp
  | some step => cases step <;> simp [Step.place]

theorem placeOf_cons (step : Step) (path : List Step) :
    placeOf (step :: path) = if placeOf path = .top then step.place else placeOf path := by
  cases path with
  | nil => rfl
  | cons next rest =>
      have inside : placeOf (next :: rest) ≠ .top := fun atTop => by
        cases placeOf_eq_top_iff.mp atTop
      rw [if_neg inside, placeOf, placeOf, List.getLast?_cons_cons]

/-- Something is known of both types, and they differ in kind, in primitive, or as functions
in the number of their arguments. -/
structure Clash (ours theirs : Ty) : Prop where
  known : ours ≠ .unknown ∧ theirs ≠ .unknown
  differ : ours.head ≠ theirs.head ∨ ∃ args ret args' ret', ours = .func args ret ∧
    theirs = .func args' ret' ∧ args.length ≠ args'.length

/-- Both types are records, and exactly one of them has a member of the name. -/
def OneSided (name : String) (ours theirs : Ty) : Prop :=
  ∃ members members', ours = .record members ∧ theirs = .record members' ∧
    (members.lookup name).isSome ≠ (members'.lookup name).isSome

end Ty

namespace Mismatch

open Ty

/-- A report on two types is about the position at the end of a path. -/
structure IsAt (mismatch : Mismatch) (ours theirs : Ty) (path : List Step) : Prop where
  expected : ours.at? path = some mismatch.expected
  found : theirs.at? path = some mismatch.found
  differ : (Clash mismatch.expected mismatch.found ∧ mismatch.place = placeOf path) ∨
    ∃ name, OneSided name mismatch.expected mismatch.found ∧ mismatch.place = .member name

@[simp]
theorem expected_within (mismatch : Mismatch) (place : Place) :
    (mismatch.within place).expected = mismatch.expected := by
  rw [within]
  split <;> rfl

@[simp]
theorem found_within (mismatch : Mismatch) (place : Place) :
    (mismatch.within place).found = mismatch.found := by
  rw [within]
  split <;> rfl

theorem place_within (mismatch : Mismatch) (place : Place) :
    (mismatch.within place).place = if mismatch.place = .top then place else mismatch.place := by
  rw [within]
  split
  case h_1 atTop => rw [if_pos atTop]
  case h_2 inside => rw [if_neg inside]

/-- What is reported of two children is about the same position when it is seen from their
parents. -/
theorem IsAt.within {mismatch : Mismatch} {ours theirs child child' : Ty} {path : List Step}
    (isAt : mismatch.IsAt child child' path) {step : Step}
    (isChild : ours.child? step = some child) (isChild' : theirs.child? step = some child') :
    (mismatch.within step.place).IsAt ours theirs (step :: path) := by
  refine ⟨?_, ?_, ?_⟩
  · rw [at?_cons isChild, isAt.expected, expected_within]
  · rw [at?_cons isChild', isAt.found, found_within]
  · rw [expected_within, found_within, place_within, placeOf_cons]
    rcases isAt.differ with ⟨clash, isLast⟩ | ⟨name, oneSided, isMember⟩
    · rw [isLast]
      exact .inl ⟨clash, rfl⟩
    · -- The member that one side lacks is a place already, so it stays.
      rw [isMember]
      exact .inr ⟨name, oneSided, rfl⟩

end Mismatch

namespace Ty

/-- A conflict of two types arises from what they are themselves, from a member that one of
them lacks, or from a conflict of two of their children. -/
inductive Arises (ours theirs : Ty) : Mismatch → Prop
  | here (clash : Clash ours theirs) : Arises ours theirs ⟨ours, theirs, .top⟩
  | absent {name : String} (oneSided : OneSided name ours theirs) :
      Arises ours theirs ⟨ours, theirs, .member name⟩
  | below (step : Step) {child child' : Ty} {mismatch : Mismatch}
      (isChild : ours.child? step = some child) (isChild' : theirs.child? step = some child')
      (conflict : child.conflict? child' = some mismatch) :
      Arises ours theirs (mismatch.within step.place)

/-- A conflict among members is about one of ours: the other side lacks it, or has it and it
differs. -/
theorem exists_of_memberConflict? {ours theirs : List (String × Ty)} {conflict : MemberConflict}
    (found : memberConflict? ours theirs = some conflict) :
    ∃ entry ∈ ours, (theirs.lookup entry.1 = none ∧ conflict = .absent entry.1) ∨
      ∃ ty mismatch, theirs.lookup entry.1 = some ty ∧ entry.2.conflict? ty = some mismatch ∧
        conflict = .differs (mismatch.within (.member entry.1)) := by
  induction ours with
  | nil => cases found
  | cons entry rest ih =>
      rw [memberConflict?] at found
      split at found
      case h_1 absent =>
        cases found
        exact ⟨entry, List.mem_cons_self, .inl ⟨absent, rfl⟩⟩
      case h_2 ty present =>
        split at found
        case h_1 mismatch differs =>
          cases found
          exact ⟨entry, List.mem_cons_self, .inr ⟨ty, mismatch, present, differs, rfl⟩⟩
        case h_2 =>
          obtain ⟨other, member, isOther⟩ := ih found
          exact ⟨other, List.mem_cons_of_mem _ member, isOther⟩

/-- A conflict among arguments is one of two arguments at the same position. -/
theorem exists_of_argConflict? {index : Nat} {ours theirs : List (String × Ty)}
    {mismatch : Mismatch} (found : argConflict? index ours theirs = some mismatch) :
    ∃ (position : Nat) (entry entry' : String × Ty) (inner : Mismatch),
      ours[position]? = some entry ∧ theirs[position]? = some entry' ∧
        entry.2.conflict? entry'.2 = some inner ∧
        mismatch = inner.within (.arg (index + position)) := by
  induction ours generalizing index theirs with
  | nil => cases found
  | cons entry rest ih =>
      cases theirs with
      | nil => cases found
      | cons entry' rest' =>
          rw [argConflict?] at found
          split at found
          case h_1 inner differs =>
            cases found
            exact ⟨0, entry, entry', inner, rfl, rfl, differs, rfl⟩
          case h_2 =>
            obtain ⟨position, other, other', inner, present, present', differs, rfl⟩ := ih found
            refine ⟨position + 1, other, other', inner, present, present', differs, ?_⟩
            rw [Nat.add_assoc, Nat.add_comm 1]

/-- Records that conflict have different names of members, or a member that conflicts. -/
theorem arises_of_records {ours theirs : List (String × Ty)} {mismatch : Mismatch}
    (distinct : (ours.map Prod.fst).Nodup)
    (conflict : (Ty.record ours).conflict? (.record theirs) = some mismatch) :
    Arises (.record ours) (.record theirs) mismatch := by
  rw [conflict?] at conflict
  split at conflict
  case h_1 name ty extra =>
    cases conflict
    have isTheirs := lookup_isSome_iff_mem.mpr
      (List.mem_map_of_mem (List.mem_of_find?_eq_some extra))
    have notOurs := List.find?_some extra
    refine .absent ⟨ours, theirs, rfl, rfl, ?_⟩
    rw [Option.isNone_iff_eq_none.mp notOurs, isTheirs]
    simp
  case h_2 =>
    split at conflict
    case h_1 => cases conflict
    case h_2 name absent =>
      cases conflict
      obtain ⟨entry, member, ⟨notTheirs, same⟩ | ⟨_, _, -, -, same⟩⟩ :=
        exists_of_memberConflict? absent
      · cases same
        have isOurs := lookup_isSome_iff_mem.mpr (List.mem_map_of_mem member)
        refine .absent ⟨ours, theirs, rfl, rfl, ?_⟩
        rw [notTheirs, isOurs]
        simp
      · cases same
    case h_3 inner differs =>
      cases conflict
      obtain ⟨entry, member, ⟨-, same⟩ | ⟨ty, inner, isTheirs, differ, same⟩⟩ :=
        exists_of_memberConflict? differs
      · cases same
      · cases same
        have isOurs := (lookup_eq_some_iff_mem distinct).mpr member
        exact .below (.member entry.1) isOurs isTheirs differ

/-- Functions that conflict have different numbers of arguments, or an argument or a return
that conflicts. -/
theorem arises_of_functions {ours theirs : List (String × Ty)} {ret theirRet : Ty}
    {mismatch : Mismatch}
    (conflict : (Ty.func ours ret).conflict? (.func theirs theirRet) = some mismatch) :
    Arises (.func ours ret) (.func theirs theirRet) mismatch := by
  rw [conflict?] at conflict
  split at conflict
  case isFalse arities =>
    cases conflict
    exact .here ⟨by simp, .inr ⟨ours, ret, theirs, theirRet, rfl, rfl, arities⟩⟩
  case isTrue =>
    split at conflict
    case h_1 inner ofArgs =>
      cases conflict
      obtain ⟨position, entry, entry', inner, isOurs, isTheirs, differ, rfl⟩ :=
        exists_of_argConflict? ofArgs
      rw [Nat.zero_add]
      exact .below (.arg position) (child?_arg_of_getElem? isOurs)
        (child?_arg_of_getElem? isTheirs) differ
    case h_2 =>
      obtain ⟨inner, differ, rfl⟩ := Option.map_eq_some_iff.mp conflict
      exact .below .ret rfl rfl differ

/-- Known types of different kinds are reported themselves. -/
theorem conflict?_of_heads {ours theirs : Ty} (known : ours ≠ .unknown)
    (known' : theirs ≠ .unknown) (heads : ours.head ≠ theirs.head) :
    ours.conflict? theirs = some ⟨ours, theirs, .top⟩ := by
  cases ours <;> cases theirs <;> simp_all [conflict?, head]

/-- Every conflict arises in one of these ways. -/
theorem arises_of_conflict? {ours theirs : Ty} {mismatch : Mismatch}
    (wellNamed : ours.WellNamed) (conflict : ours.conflict? theirs = some mismatch) :
    Arises ours theirs mismatch := by
  have known : ours ≠ .unknown := fun unknown => by
    rw [unknown, unknown_agrees theirs] at conflict
    cases conflict
  have known' : theirs ≠ .unknown := fun unknown => by
    rw [unknown, agrees_unknown ours] at conflict
    cases conflict
  by_cases heads : ours.head = theirs.head
  · cases ours with
    | unknown => exact absurd rfl known
    | prim kind =>
        cases theirs with
        | prim kind' =>
            cases heads
            rw [agrees_refl wellNamed] at conflict
            cases conflict
        | _ => cases heads
    | record members =>
        cases theirs with
        | record members' =>
            exact arises_of_records (wellNamed_record.mp wellNamed).1 conflict
        | _ => cases heads
    | func args ret =>
        cases theirs with
        | func args' ret' => exact arises_of_functions conflict
        | _ => cases heads
  · rw [conflict?_of_heads known known' heads] at conflict
    cases conflict
    exact .here ⟨⟨known, known'⟩, .inl heads⟩

/-- What is reported of two types that conflict stands at the end of a path in both of them,
and is where they differ. -/
theorem exists_isAt_of_conflict? {ours theirs : Ty} {mismatch : Mismatch}
    (wellNamed : ours.WellNamed) (conflict : ours.conflict? theirs = some mismatch) :
    ∃ path, mismatch.IsAt ours theirs path := by
  induction ours using inductionOnChildren generalizing theirs mismatch with
  | parent ours ih =>
      cases arises_of_conflict? wellNamed conflict with
      | here clash => exact ⟨[], rfl, rfl, .inl ⟨clash, rfl⟩⟩
      | absent oneSided => exact ⟨[], rfl, rfl, .inr ⟨_, oneSided, rfl⟩⟩
      | below step isChild isChild' differ =>
          obtain ⟨path, isAt⟩ := ih step _ isChild (wellNamed.child isChild) differ
          exact ⟨step :: path, isAt.within isChild isChild'⟩

/-- A record with a function, whose argument is known in part. -/
private def expecting : Ty :=
  .record [("on", .func [("event", .record [("at", .prim .int), ("by", .unknown)])] .unknown),
    ("count", .unknown)]

/-- A record with the same members, in whose argument one member is of another type. -/
private def offering : Ty :=
  .record [("count", .prim .int),
    ("on", .func [("input", .record [("by", .text), ("at", .text)])] (.prim .bool))]

/-- Of a difference in a member of an argument of a member the innermost pair is reported. -/
theorem exists_isAt_in_argument :
    expecting.WellNamed ∧
      expecting.conflict? offering = some ⟨.prim .int, .text, .member "at"⟩ ∧
      ∃ path, Mismatch.IsAt ⟨.prim .int, .text, .member "at"⟩ expecting offering path := by
  have wellNamed : expecting.WellNamed := by decide
  have conflict : expecting.conflict? offering =
      some ⟨.prim .int, .text, .member "at"⟩ := rfl
  exact ⟨wellNamed, conflict, exists_isAt_of_conflict? wellNamed conflict⟩

end Ty

end Polyflow
