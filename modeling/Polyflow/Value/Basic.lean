/-
# Values

A value is what flows through a graph: a truth value, a text, an integer of 64
bits, a floating point number, or a record of named values. Records are made
with `record?`, which refuses a repeated name. Equality matches members by name
and compares floating point numbers as numbers, so a value that holds a
not-a-number does not equal itself.
-/

import Polyflow.Binary64.Basic
import Polyflow.Ty.Basic

namespace Polyflow

/-- An immutable datum. -/
inductive Value
  | bool (value : Bool)
  | text (value : String)
  | int (value : Int64)
  | float (value : Binary64)
  | record (members : List (String × Value))

namespace Value

/-- A record with the given members, unless a name repeats. -/
def record? (members : List (String × Value)) : Except DuplicateName Value :=
  (distinctNames members).map .record

mutual

/-- The type of a value; a record's members keep their order. -/
def ty : Value → Ty
  | .bool _ => .prim .bool
  | .text _ => .prim .text
  | .int _ => .prim .int
  | .float _ => .prim .float
  | .record members => .record (tyOfEach members)

/-- The type of each member, under its name. -/
def tyOfEach : List (String × Value) → List (String × Ty)
  | [] => []
  | (name, value) :: rest => (name, value.ty) :: tyOfEach rest

end

mutual

/-- Names are distinct at every level. Every value made with `record?` from such
values is of this kind. -/
def WellNamed : Value → Prop
  | .record members => (members.map Prod.fst).Nodup ∧ EachWellNamed members
  | _ => True

/-- Names are distinct at every level of each member. -/
def EachWellNamed : List (String × Value) → Prop
  | [] => True
  | (_, value) :: rest => value.WellNamed ∧ EachWellNamed rest

end

mutual

/-- Equality of values. Members are matched by name, and their order does not
count. -/
def equiv : Value → Value → Bool
  | .bool ours, .bool theirs => ours == theirs
  | .text ours, .text theirs => ours == theirs
  | .int ours, .int theirs => ours == theirs
  | .float ours, .float theirs => ours.equals theirs
  | .record ours, .record theirs =>
    ours.length == theirs.length && equivMembers ours theirs
  | _, _ => false

/-- Each of our members equals theirs of the same name. -/
def equivMembers : List (String × Value) → List (String × Value) → Bool
  | [], _ => true
  | (name, value) :: rest, theirs =>
    (match theirs.lookup name with
      | some theirValue => value.equiv theirValue
      | none => false) && equivMembers rest theirs

end

/-- The members of a record. -/
def members? : Value → Option (List (String × Value))
  | .record members => some members
  | _ => none

/-- The contents of a text value. -/
def text? : Value → Option String
  | .text value => some value
  | _ => none

end Value

end Polyflow
