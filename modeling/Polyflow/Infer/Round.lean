/-
# Rounds of inference

In each round a solver applies the rules of its generators to all facts and to
what it has solved so far. A rule derives constraints, and may make expressions
on the way; or it fails, for now or for good. What it made stays made even when
it fails.
-/

import Polyflow.Infer.Constraint
import Polyflow.Infer.Context
import Polyflow.Infer.Knowledge
import Polyflow.Infer.Solution

namespace Polyflow

/-- Why a rule derived nothing. -/
inductive RoundError
  /-- Too little is known yet; a later round may do better. -/
  | noProgress
  /-- The call has the wrong number of arguments. -/
  | arity (expected found : Nat)
  /-- An argument is known to be of a kind the function cannot take. -/
  | unexpectedKind (position expected : String) (found : Ty)
  /-- Two sources tell different things about one type. -/
  | inconsistent (conflict : Inconsistency)
  /-- A constraint could not be made. -/
  | shape (error : ShapeError)

namespace RoundError

/-- The report in words. -/
def message : RoundError → String
  | .noProgress => "couldn't generate new invariants"
  | .arity expected found =>
    "unable to build function with " ++ toString found ++ " args, expected " ++ toString expected
  | .unexpectedKind position expected found =>
    "unable to build function with " ++ position ++ " arg of kind: " ++ found.render ++
      ", expected " ++ expected
  | .inconsistent conflict => conflict.message
  | .shape error => error.message

/-- Whether the same rule may succeed in a later round. -/
def isRecoverable : RoundError → Bool
  | .noProgress => true
  | _ => false

end RoundError

/-- What is computed in a round: a result or a failure, and in either case the
context that results. -/
abbrev Round (α : Type) : Type := ExceptT RoundError (StateM Context) α

/-- Where a type of an expression is known from. -/
inductive Source
  /-- It was declared with the expression. -/
  | declared
  /-- The solver found it. -/
  | solved
deriving DecidableEq, Repr

/-- The word for a source. -/
def Source.name : Source → String
  | .declared => "declared"
  | .solved => "solved"

/-- The types known for an expression, the declared one first. -/
def knownTypes (context : Context) (solution : Solution) (expr : Expr) : List (Source × Ty) :=
  (context.typeOf? expr).toList.map (Source.declared, ·) ++
    (solution.get? expr).toList.map (Source.solved, ·)

end Polyflow
