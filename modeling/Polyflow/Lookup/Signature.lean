/-
# The signature of a built function

Once the types of a graph are solved, the type of a function expression fixes
the signature its function runs with. Only positions count: the argument names
of the given type are ignored, and the built type carries the function's own.
-/

import Polyflow.Lookup.Basic
import Polyflow.Ty.Agreement

namespace Polyflow.Lookup

/-- Why a function has no valid signature. -/
inductive BuildError
  /-- The given type is not one of a function. -/
  | notFunc (found : Ty)
  /-- The given type has the wrong number of arguments. -/
  | arity (found : Nat)
  /-- Nothing is known about the return type. -/
  | missingReturn
  /-- Nothing is known about the type of an argument. -/
  | missingArg (arg : Arg)
  /-- The selector's type does not agree with text. -/
  | selectorNotText (cause : Mismatch)
  /-- The fallback's type does not agree with the return type. -/
  | fallbackMismatch (cause : Mismatch)
  /-- The built type is not well formed. -/
  | invalidSignature (cause : DuplicateName)
  /-- The function was not built. -/
  | unspecified
  /-- The container's type is not one of a record. -/
  | notStruct (found : Ty)

/-- The report in words. -/
def BuildError.message : BuildError → String
  | .notFunc found => "input type must be of kind func, found " ++ found.render
  | .arity found =>
    "the " ++ Lookup.name ++ " function needs exactly " ++ toString Lookup.arity ++
      " args, found " ++ toString found
  | .missingReturn => "return type of function must be specified"
  | .missingArg arg => arg.ordinal ++ " arg must be specified"
  | .selectorNotText cause => "field must be an str: " ++ cause.message
  | .fallbackMismatch cause => "optional arg must match return type: " ++ cause.message
  | .invalidSignature cause => "invalid signature: " ++ cause.message
  | .unspecified => "type is still unspecified"
  | .notStruct found => "type must be a kind of struct, found " ++ found.render

/-- The types that a built function is fixed to. -/
structure Signature where
  /-- The type of the record. -/
  container : Ty
  /-- The type of the fallback and of the result. -/
  out : Ty

namespace Signature

/-- The type of an argument, about which something must be known. -/
def specified (arg : Arg) (ty : Ty) : Except BuildError Unit :=
  if ty.isKnown then .ok () else .error (.missingArg arg)

/-- The signature that a function type fixes. -/
def ofTy? : Ty → Except BuildError Signature
  | .func [(_, container), (_, selector), (_, fallback)] out => do
    if !out.isKnown then throw .missingReturn
    specified .container container
    specified .selector selector
    if let some cause := selector.conflict? .text then throw (.selectorNotText cause)
    specified .fallback fallback
    if let some cause := fallback.conflict? out then throw (.fallbackMismatch cause)
    return ⟨container, out⟩
  | .func args _ => .error (.arity args.length)
  | found => .error (.notFunc found)

/-- The function type of a signature, with the function's own argument names. -/
def ty? (signature : Signature) : Except BuildError Ty :=
  (Ty.func? [(Arg.container.name, signature.container), (Arg.selector.name, .text),
    (Arg.fallback.name, signature.out)] signature.out).mapError .invalidSignature

/-- A signature can be run if its container is a record and its result is known. -/
def validate (signature : Signature) : Except BuildError Unit := do
  if signature.container.members?.isNone then throw (.notStruct signature.container)
  if !signature.out.isKnown then throw .missingReturn

end Signature

end Polyflow.Lookup
