/-
# Agreement of partly known types

Two types agree when nothing known of one contradicts what is known of the
other. An unknown on either side, at any depth, agrees with anything; members
are matched by name, arguments by position. Where two types do not agree, the
report names the innermost pair of types that differ and where they stand.
-/

import Polyflow.Ty.Text

namespace Polyflow

/-- Where inside a type two types were found to differ. -/
inductive Place
  /-- The outermost types differ. -/
  | top
  /-- The member of this name differs, or only one side has it. -/
  | member (name : String)
  /-- The argument at this position, counted from zero, differs. -/
  | arg (index : Nat)
  /-- The return type differs. -/
  | ret
deriving DecidableEq, Repr

/-- How a report names a place. -/
def Place.describe : Place → String
  | .top => "types"
  | .member name => "struct field `" ++ name ++ "`"
  | .arg index => "function arg " ++ toString index
  | .ret => "function return type"

/-- Two types do not agree. -/
structure Mismatch where
  /-- The innermost differing type on the left of the comparison. -/
  expected : Ty
  /-- The type that stands there on the right. -/
  found : Ty
  /-- The last step on the way to the two. -/
  place : Place
deriving Repr

namespace Mismatch

/-- The report in words. -/
def message (mismatch : Mismatch) : String :=
  "type mismatch in " ++ mismatch.place.describe ++ ": expected `" ++
    mismatch.expected.render ++ "`, found `" ++ mismatch.found.render ++ "`"

/-- A mismatch of two parts, seen from the whole. Only the last step on the way
to the difference is kept, so a mismatch that has a place keeps it. -/
def within (mismatch : Mismatch) (place : Place) : Mismatch :=
  match mismatch.place with
  | .top => { mismatch with place }
  | _ => mismatch

end Mismatch

namespace Ty

/-- What is wrong among the members of two record types. -/
inductive MemberConflict
  /-- The right side has no member of this name. -/
  | absent (name : String)
  /-- A member of both sides differs. -/
  | differs (mismatch : Mismatch)

mutual

/-- The first contradiction between two types, or `none` if they agree.

A member that only the right side has is reported first, in the order of the
right side; then the members of the left side are taken in their order. Of two
functions the number of arguments counts first, then the arguments in order,
then the return types. -/
def conflict? : Ty → Ty → Option Mismatch
  | .unknown, _ => none
  | _, .unknown => none
  | .prim ours, .prim theirs =>
    if ours = theirs then none else some ⟨.prim ours, .prim theirs, .top⟩
  | .record ours, .record theirs =>
    match theirs.find? fun entry => (ours.lookup entry.1).isNone with
    | some (name, _) => some ⟨.record ours, .record theirs, .member name⟩
    | none =>
      match memberConflict? ours theirs with
      | none => none
      | some (.absent name) => some ⟨.record ours, .record theirs, .member name⟩
      | some (.differs mismatch) => some mismatch
  | .func ours ret, .func theirs theirRet =>
    if ours.length = theirs.length then
      match argConflict? 0 ours theirs with
      | some mismatch => some mismatch
      | none => (conflict? ret theirRet).map (·.within .ret)
    else some ⟨.func ours ret, .func theirs theirRet, .top⟩
  | ours, theirs => some ⟨ours, theirs, .top⟩

/-- The first of our members that the other side lacks or that differs. -/
def memberConflict? : List (String × Ty) → List (String × Ty) → Option MemberConflict
  | [], _ => none
  | (name, ty) :: rest, theirs =>
    match theirs.lookup name with
    | none => some (.absent name)
    | some theirTy =>
      match conflict? ty theirTy with
      | some mismatch => some (.differs (mismatch.within (.member name)))
      | none => memberConflict? rest theirs

/-- The first pair of arguments that differs, positions counted from `index`. -/
def argConflict? (index : Nat) :
    List (String × Ty) → List (String × Ty) → Option Mismatch
  | (_, ty) :: rest, (_, theirTy) :: theirRest =>
    match conflict? ty theirTy with
    | some mismatch => some (mismatch.within (.arg index))
    | none => argConflict? (index + 1) rest theirRest
  | _, _ => none

end

/-- Two types agree when no contradiction is found between them. -/
def Agrees (left right : Ty) : Prop :=
  left.conflict? right = none

instance (left right : Ty) : Decidable (left.Agrees right) :=
  match h : left.conflict? right with
  | none => isTrue h
  | some _ => isFalse (by simp [Agrees, h])

end Ty

end Polyflow
