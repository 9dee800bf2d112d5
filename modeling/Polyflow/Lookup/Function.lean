/-
# The life cycle of a lookup function

A function starts without a signature. Building fixes one, or fails and leaves
the function as it was; it may be built again. A valid signature is needed to
start a node, which keeps the signature of that moment.
-/

import Polyflow.Infer.Round
import Polyflow.Lookup.Exec
import Polyflow.Lookup.Signature

namespace Polyflow.Lookup

/-- A function, with the signature of its last successful building. -/
structure Function where
  signature : Option Signature := none

/-- What is known of a function without running it. -/
structure Info where
  /-- Equal inputs always give equal outputs. -/
  isPure : Bool
  /-- Results may be kept from one run to another. -/
  isMemoizable : Bool
  /-- The built function type. -/
  ty : Option Ty
  /-- Why the function cannot be started. -/
  fault : Option BuildError

namespace Function

/-- Fixes the signature. Answers the built function and its type. -/
def build (_ : Function) (ty : Ty) : Except BuildError (Function × Ty) := do
  let signature ← Signature.ofTy? ty
  let built ← signature.ty?
  return (⟨some signature⟩, built)

/-- The signature to start a node with. -/
def init (function : Function) : Except BuildError Signature := do
  let some signature := function.signature
    | throw .unspecified
  signature.validate
  return signature

/-- Whether the function can be started, and if not, why. -/
def validate (function : Function) : Except BuildError Unit := do
  let _ ← function.init

/-- What is known of the function. It is pure, and results are not kept. -/
def info (function : Function) : Info where
  isPure := true
  isMemoizable := false
  ty := function.signature.bind (·.ty?.toOption)
  fault := match function.validate with
    | .ok _ => none
    | .error error => some error

end Function

/-- Whatever can go wrong with a function. -/
inductive FunctionError
  /-- There is no argument at the index. -/
  | argIndex (index : Nat)
  | build (error : BuildError)
  | infer (error : RoundError)
  | stream (error : StreamError)

/-- The report in words: that of the cause, if there is one. -/
def FunctionError.message : FunctionError → String
  | .argIndex index =>
    "index " ++ toString index ++ " exceeds arg length of " ++ toString arity
  | .build error => error.message
  | .infer error => error.message
  | .stream error => error.message

/-- The name of the argument at an index. -/
def argName (index : Nat) : Except FunctionError String :=
  match Arg.all[index]? with
  | some arg => .ok arg.name
  | none => .error (.argIndex index)

end Polyflow.Lookup
