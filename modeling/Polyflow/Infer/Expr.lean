/-
# Expressions of a graph under inference

An expression stands for one node of the graph whose types are being inferred.
It has an identity, a number no other expression of the same inference has, and
two expressions are the same exactly when their identities are. What an
expression is never changes; what is known of its type is kept apart from it, in
the `Context`.
-/

import Polyflow.Value.Inspect

namespace Polyflow

/-- The identity of an expression. Identities are counted up from zero and never come round
again: fewer than 2 ^ 32 expressions are assumed to be made in one inference. -/
abbrev ExprId : Type := Nat

/-- A node of the graph. -/
inductive Expr
  /-- An unknown of the inference that stands for nothing in the graph. -/
  | placeholder (id : ExprId)
  /-- A constant whose value is known before the graph runs. -/
  | literal (id : ExprId) (value : Value)
  /-- A name whose value is known only when the graph runs. -/
  | symbol (id : ExprId) (name : String)
  /-- The application of a named function. -/
  | call (id : ExprId) (func : String) (args : List Expr)

namespace Expr

/-- The identity of an expression. -/
def id : Expr → ExprId
  | .placeholder id => id
  | .literal id _ => id
  | .symbol id _ => id
  | .call id _ _ => id

/-- Whether two expressions are the same one. -/
def same (left right : Expr) : Bool :=
  left.id = right.id

/-- The value of a constant. -/
def value? : Expr → Option Value
  | .literal _ value => some value
  | _ => none

/-- The arguments of an application. -/
def args? : Expr → Option (List Expr)
  | .call _ _ args => some args
  | _ => none

/-- The word for what an expression is. -/
def kindName : Expr → String
  | .placeholder _ => "placeholder"
  | .literal _ _ => "literal"
  | .symbol _ _ => "symbol"
  | .call _ _ _ => "call"

/-- The text of an identity. -/
def renderId (id : ExprId) : String :=
  "$" ++ toString id

mutual

/-- The text of an expression: only an unknown is shown by its identity. -/
def render : Expr → String
  | .placeholder id => renderId id
  | .literal _ value => value.render
  | .symbol _ name => name
  | .call _ func args => func ++ "(" ++ ", ".intercalate (renderEach args) ++ ")"

/-- The text of each expression. -/
def renderEach : List Expr → List String
  | [] => []
  | expr :: rest => expr.render :: renderEach rest

end

/-- An expression in a diagnostic, around the diagnostic form of what it is. -/
def inspectWith (id : ExprId) (kind : String) : String :=
  Text.Inspect.labelled "Expr"
    [("id", Text.Inspect.wrapped "ExprId" (toString id)), ("kind", kind)]

mutual

/-- The diagnostic form of an expression, with its identity and its parts. -/
def inspect : Expr → String
  | .placeholder id => inspectWith id "Placeholder"
  | .literal id value => inspectWith id (Text.Inspect.wrapped "Literal" value.inspect)
  | .symbol id name => inspectWith id (Text.Inspect.wrapped "Symbol" (Text.quote name))
  | .call id func args =>
    inspectWith id (Text.Inspect.labelled "Call"
      [("func", Text.quote func), ("args", Text.Inspect.list (inspectEach args))])

/-- The diagnostic form of each expression. -/
def inspectEach : List Expr → List String
  | [] => []
  | expr :: rest => expr.inspect :: inspectEach rest

end

end Expr

end Polyflow
