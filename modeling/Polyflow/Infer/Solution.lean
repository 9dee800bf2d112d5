/-
# The types solved so far

The solution assigns types to expressions. It only grows: the type first
recorded for an expression stays, and later ones are checked against it.
-/

import Polyflow.Infer.Expr
import Polyflow.Infer.Known
import Std.Data.TreeMap

namespace Polyflow

/-- A partial assignment of types to expressions. -/
structure Solution where
  types : Std.TreeMap ExprId Ty := ∅

namespace Solution

/-- The type solved for an expression. -/
def get? (solution : Solution) (expr : Expr) : Option Ty :=
  solution.types[expr.id]?

/-- Records a type for an expression, even an unknown one. If one is on record
already, the new type has to agree with it and nothing changes. -/
def insert (solution : Solution) (expr : Expr) (ty : Ty) : Except AlreadyKnown Solution :=
  match solution.get? expr with
  | some previous => do
    previous.confirm ty
    return solution
  | none => .ok ⟨solution.types.insert expr.id ty⟩

/-- How many expressions have a type. -/
def size (solution : Solution) : Nat :=
  solution.types.size

/-- Whether no expression has a type. -/
def isEmpty (solution : Solution) : Bool :=
  solution.types.isEmpty

/-- The types by identity, in ascending order. -/
def toList (solution : Solution) : List (ExprId × Ty) :=
  solution.types.toList

end Solution

end Polyflow
