/-
# Type descriptors

A type is a primitive, a record with named members, a function with named
arguments, or `unknown`: nothing has been found out about it yet. An unknown
may stand at any depth, so a type can be known in part; its unknown positions
are its holes.

Record and function types are made with `record?` and `func?`, which refuse a
repeated name. Member order and argument names are kept for iteration and text.
-/

import Polyflow.Names

namespace Polyflow

/-- The primitive types. -/
inductive Prim
  | bool
  | text
  | int
  | float
deriving DecidableEq, Repr

/-- The word for a primitive type. -/
def Prim.name : Prim → String
  | .bool => "bool"
  | .text => "str"
  | .int => "int"
  | .float => "float"

/-- A type descriptor, possibly with holes. -/
inductive Ty
  | prim (kind : Prim)
  | record (members : List (String × Ty))
  | func (args : List (String × Ty)) (ret : Ty)
  /-- Nothing is known about this type yet. -/
  | unknown
deriving Repr, Inhabited

namespace Ty

/-- The type of texts. -/
abbrev text : Ty := .prim .text

/-- A record type with the given members, unless a name repeats. -/
def record? (members : List (String × Ty)) : Except DuplicateName Ty :=
  (distinctNames members).map .record

/-- A function type with the given arguments and return type, unless an
argument name repeats. -/
def func? (args : List (String × Ty)) (ret : Ty) : Except DuplicateName Ty :=
  (distinctNames args).map (.func · ret)

/-- Whether anything is known about a type at its outermost level. -/
def isKnown : Ty → Bool
  | .unknown => false
  | _ => true

mutual

/-- The number of unknown positions at any depth. -/
def holes : Ty → Nat
  | .prim _ => 0
  | .record members => holesOfEach members
  | .func args ret => holesOfEach args + ret.holes
  | .unknown => 1

/-- The number of unknown positions in all entries together. -/
def holesOfEach : List (String × Ty) → Nat
  | [] => 0
  | (_, ty) :: rest => ty.holes + holesOfEach rest

end

mutual

/-- Names are distinct at every level. Every type made with `record?` and
`func?` from such types is of this kind. -/
def WellNamed : Ty → Prop
  | .prim _ => True
  | .record members => (members.map Prod.fst).Nodup ∧ EachWellNamed members
  | .func args ret =>
    (args.map Prod.fst).Nodup ∧ EachWellNamed args ∧ ret.WellNamed
  | .unknown => True

/-- Names are distinct at every level of each entry. -/
def EachWellNamed : List (String × Ty) → Prop
  | [] => True
  | (_, ty) :: rest => ty.WellNamed ∧ EachWellNamed rest

end

/-- The word for the kind of a type: that of the primitive, or of the shape. -/
def kindName : Ty → String
  | .prim kind => kind.name
  | .record _ => "struct"
  | .func _ _ => "func"
  | .unknown => "unresolved"

/-- The members of a record type. -/
def members? : Ty → Option (List (String × Ty))
  | .record members => some members
  | _ => none

/-- The named entries of a type: a record's members or a function's arguments. -/
def entries? : Ty → Option (List (String × Ty))
  | .record members => some members
  | .func args _ => some args
  | _ => none

mutual

/-- Equality of types as the program sees it. Members are matched by name and
their order does not count; arguments are matched by position and their names
do not count; an unknown equals only an unknown. -/
def equiv : Ty → Ty → Bool
  | .prim ours, .prim theirs => ours == theirs
  | .record ours, .record theirs =>
    ours.length == theirs.length && equivMembers ours theirs
  | .func ours ret, .func theirs theirRet =>
    ours.length == theirs.length && equivArgs ours theirs && ret.equiv theirRet
  | .unknown, .unknown => true
  | _, _ => false

/-- Each of our members equals theirs of the same name. -/
def equivMembers : List (String × Ty) → List (String × Ty) → Bool
  | [], _ => true
  | (name, ty) :: rest, theirs =>
    (match theirs.lookup name with
      | some theirTy => ty.equiv theirTy
      | none => false) && equivMembers rest theirs

/-- Arguments at the same position are equal. -/
def equivArgs : List (String × Ty) → List (String × Ty) → Bool
  | (_, ty) :: rest, (_, theirTy) :: theirRest =>
    ty.equiv theirTy && equivArgs rest theirRest
  | _, _ => true

end

end Ty

end Polyflow
