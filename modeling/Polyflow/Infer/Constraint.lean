/-
# Constraints on the types of expressions

Constraints are the facts a solver works with. Most of them relate expressions
to types or to each other; a call record says which function expression a call
applies to which arguments; a generator carries a rule that derives further
constraints as types become known. What rules there are is left open: the type
of rules is a parameter.

A constraint that ties an expression to named parts refuses repeated names, and
a function needs an argument at least.
-/

import Polyflow.Infer.Expr
import Polyflow.Ty.Inspect
import Polyflow.Ty.Text

namespace Polyflow

/-- A constraint cannot be made from the given parts. -/
inductive ShapeError
  /-- A function constraint needs at least one argument. -/
  | noArgs
  /-- Two parts have the same name. -/
  | duplicateName (duplicate : DuplicateName)
deriving DecidableEq, Repr

/-- The report in words. -/
def ShapeError.message : ShapeError → String
  | .noArgs => "function invariant needs at least one argument"
  | .duplicateName duplicate => duplicate.message ++ " in invariant"

/-- The argument and return positions of a function expression. -/
structure FunctionShape where
  func : Expr
  args : List (String × Expr)
  ret : Expr

/-- The members of a record expression, each an expression of its own. -/
structure RecordShape where
  expr : Expr
  members : List (String × Expr)

/-- The record that a call applies a function expression to arguments. The call
itself stands for what is returned. -/
structure CallRecord where
  call : Expr
  func : Expr
  args : List Expr

/-- A rule to be applied again whenever more is known, and the expression it was
set up for. -/
structure Generator (ρ : Type) where
  site : Expr
  rule : ρ

/-- A constraint, with rules of type `ρ` in its generators. -/
inductive Constraint (ρ : Type)
  /-- An expression has a type. -/
  | hasType (expr : Expr) (ty : Ty)
  /-- Two expressions have the same type. -/
  | sameType (left right : Expr)
  /-- A function expression is tied to its arguments and its return. -/
  | function (shape : FunctionShape)
  /-- A record expression is tied to its members. -/
  | record (shape : RecordShape)
  /-- What a call returns comes from one function expression only. -/
  | producedBy (call func : Expr)
  /-- A call was found in the graph. -/
  | call (record : CallRecord)
  /-- More can be derived. -/
  | generator (generator : Generator ρ)

namespace Constraint

variable {ρ σ : Type}

/-- Accepts named parts whose names are distinct. -/
def distinctParts (parts : List (String × Expr)) : Except ShapeError (List (String × Expr)) :=
  (distinctNames parts).mapError .duplicateName

/-- Ties a function expression to named arguments and a return. -/
def function? (func : Expr) (args : List (String × Expr)) (ret : Expr) :
    Except ShapeError (Constraint ρ) := do
  let args ← distinctParts args
  if args.isEmpty then throw .noArgs
  return .function ⟨func, args, ret⟩

/-- Ties a record expression to named members. -/
def record? (expr : Expr) (members : List (String × Expr)) :
    Except ShapeError (Constraint ρ) := do
  return .record ⟨expr, ← distinctParts members⟩

/-- The same constraint with another kind of rules. -/
def mapRule (f : ρ → σ) : Constraint ρ → Constraint σ
  | .hasType expr ty => .hasType expr ty
  | .sameType left right => .sameType left right
  | .function shape => .function shape
  | .record shape => .record shape
  | .producedBy result func => .producedBy result func
  | .call found => .call found
  | .generator ⟨site, rule⟩ => .generator ⟨site, f rule⟩

/-- The word for the kind of a constraint. -/
def kindName : Constraint ρ → String
  | .hasType _ _ => "equals"
  | .sameType _ _ => "equality"
  | .function _ => "wrap-func"
  | .record _ => "wrap-struct"
  | .producedBy _ _ => "wrap-call"
  | .call _ => "call-args"
  | .generator _ => "generator"

/-- The expressions a constraint speaks of, in the order of its text. -/
def exprs : Constraint ρ → List Expr
  | .hasType expr _ => [expr]
  | .sameType left right => [left, right]
  | .function shape => shape.func :: shape.args.map Prod.snd ++ [shape.ret]
  | .record shape => shape.expr :: shape.members.map Prod.snd
  | .producedBy result func => [result, func]
  | .call found => found.call :: found.func :: found.args
  | .generator rule => [rule.site]

/-- The named parts of a constraint that has such. -/
def parts? : Constraint ρ → Option (List (String × Expr))
  | .function shape => some shape.args
  | .record shape => some shape.members
  | _ => none

/-- The first call recorded for a function expression. -/
def callOf? (facts : List (Constraint ρ)) (func : Expr) : Option CallRecord :=
  facts.findSome? fun
    | .call found => if found.func.same func then some found else none
    | _ => none

/-- Named parts, each with the text of its expression. -/
def renderParts (separator : String) (parts : List (String × Expr)) : String :=
  separator.intercalate (parts.map fun (name, expr) => name ++ " " ++ expr.render)

/-- The text of a constraint. -/
def render : Constraint ρ → String
  | .hasType expr ty => expr.render ++ " == " ++ ty.render
  | .sameType left right => left.render ++ " == " ++ right.render
  | .function shape =>
    shape.func.render ++ " == func(" ++ renderParts ", " shape.args ++ ") " ++ shape.ret.render
  | .record shape =>
    shape.expr.render ++ " == struct\x7b" ++ renderParts "; " shape.members ++ "\x7d"
  | .producedBy result func => result.render ++ " == call(" ++ func.render ++ ")"
  | .call found =>
    found.call.render ++ " == " ++ found.func.render ++ "(" ++
      ", ".intercalate (found.args.map Expr.render) ++ ")"
  | .generator rule => "generator(" ++ rule.site.render ++ ")"

/-- Named parts in a diagnostic. -/
def inspectParts (parts : List (String × Expr)) : String :=
  Text.Inspect.list (parts.map fun (name, expr) => Text.Inspect.named name expr.inspect)

/-- The diagnostic form of a constraint. The rule of a generator is not shown. -/
def inspect : Constraint ρ → String
  | .hasType expr ty =>
    Text.Inspect.labelled "Equals" [("expr", expr.inspect), ("ty", ty.inspect)]
  | .sameType left right =>
    Text.Inspect.labelled "Equality" [("left", left.inspect), ("right", right.inspect)]
  | .function shape =>
    Text.Inspect.wrapped "WrapFunc" (Text.Inspect.labelled "WrapFunc"
      [("func", shape.func.inspect), ("args", inspectParts shape.args),
        ("ret", shape.ret.inspect)])
  | .record shape =>
    Text.Inspect.wrapped "WrapStruct" (Text.Inspect.labelled "WrapStruct"
      [("expr", shape.expr.inspect), ("fields", inspectParts shape.members)])
  | .producedBy result func =>
    Text.Inspect.labelled "WrapCall" [("call", result.inspect), ("func", func.inspect)]
  | .call found =>
    Text.Inspect.wrapped "CallArgs" (Text.Inspect.labelled "CallArgs"
      [("call", found.call.inspect), ("func", found.func.inspect),
        ("args", Text.Inspect.list (found.args.map Expr.inspect))])
  | .generator rule =>
    Text.Inspect.wrapped "Generator"
      (Text.Inspect.abridged "Generator" "site" rule.site.inspect)

end Constraint

end Polyflow
