/-
# What the expressions of one inference share

The context numbers the expressions as they are made, keeps the types declared
for them, and remembers the unknowns that were made for the members of records
taken apart. All of it only grows.
-/

import Polyflow.Infer.Expr
import Polyflow.Infer.Known
import Std.Data.TreeMap

namespace Polyflow

/-- The state of one inference. -/
structure Context where
  /-- The identity of the next expression. -/
  next : ExprId := 0
  /-- The types declared for expressions that are not constants. -/
  declared : Std.TreeMap ExprId Ty := ∅
  /-- The unknowns made for members, each under the identity of the expression
  that stands for the record and the name of the member. -/
  memberUnknowns : List ((ExprId × String) × ExprId) := []

namespace Context

/-- A number that no expression has yet. -/
def fresh : StateM Context ExprId :=
  modifyGet fun context => (context.next, { context with next := context.next + 1 })

/-- A new unknown. -/
def placeholder : StateM Context Expr :=
  return .placeholder (← fresh)

/-- A new constant. -/
def literal (value : Value) : StateM Context Expr :=
  return .literal (← fresh) value

/-- A new name. -/
def symbol (name : String) : StateM Context Expr :=
  return .symbol (← fresh) name

/-- A new application. -/
def call (func : String) (args : List Expr) : StateM Context Expr :=
  return .call (← fresh) func args

/-- The declared type of an expression. That of a constant is the type of its
value, from the start. -/
def typeOf? (context : Context) : Expr → Option Ty
  | .literal _ value => some value.ty
  | expr => context.declared[expr.id]?

/-- Declares the type of an expression. An unknown type says nothing and is
passed over. The first type that says something is kept; later ones have to
agree with it. -/
def declare (context : Context) (expr : Expr) (ty : Ty) : Except AlreadyKnown Context :=
  if ty.isKnown then
    match context.typeOf? expr with
    | some previous => do
      previous.confirm ty
      return context
    | none => .ok { context with declared := context.declared.insert expr.id ty }
  else .ok context

/-- The unknown for a member of the record that `container` stands for. It is
made when it is first asked for, and is the same ever after. -/
def memberUnknown (container : Expr) (name : String) : StateM Context Expr := do
  match (← get).memberUnknowns.lookup (container.id, name) with
  | some id => return .placeholder id
  | none =>
    let id ← fresh
    modify fun context =>
      { context with memberUnknowns := ((container.id, name), id) :: context.memberUnknowns }
    return .placeholder id

end Context

end Polyflow
