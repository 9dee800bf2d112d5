/-
# Processing of input records

A running node takes one record after the other. The first one pins the selector
for good. A result is emitted only if it differs from the one emitted before; a
record that repeats the last one is not even looked into.
-/

import Polyflow.Lookup.Basic
import Polyflow.Ty.Agreement

namespace Polyflow.Lookup

/-- The parts of an input record whose kind is checked. -/
inductive Part
  /-- The record itself. -/
  | input
  | container
  | selector
deriving DecidableEq, Repr

namespace Part

/-- How a report names a part. -/
def name : Part → String
  | .input => "input"
  | .container => Arg.container.name
  | .selector => Arg.selector.name

/-- The kind that a part has to be of. -/
def expected : Part → String
  | .input => "struct"
  | .container => "struct"
  | .selector => Prim.text.name

end Part

/-- Why a node cannot process its input. -/
inductive StreamError
  /-- The selector names nothing. -/
  | emptySelector
  /-- The selector differs from the pinned one. -/
  | selectorChanged (pinned next : String)
  /-- The input lacks an argument. -/
  | missingArg (arg : Arg)
  /-- A part of the input is of the wrong kind. -/
  | wrongKind (part : Part) (found : Ty)
  /-- The result is not of the built return type. -/
  | resultType (cause : Mismatch)

/-- The report in words. -/
def StreamError.message : StreamError → String
  | .emptySelector => "received empty field"
  | .selectorChanged pinned next =>
    "input field changed from: `" ++ pinned ++ "`, to: `" ++ next ++ "`"
  | .missingArg arg => "input is missing the `" ++ arg.name ++ "` arg"
  | .wrongKind part found =>
    "input arg `" ++ part.name ++ "` must be of kind " ++ part.expected ++ ", found " ++
      found.render
  | .resultType cause => "result does not match the built return type: " ++ cause.message

/-- The arguments that an input record carries. -/
structure Request where
  container : List (String × Value)
  selector : String
  fallback : Value

namespace Request

/-- An argument of an input record. -/
def arg (members : List (String × Value)) (arg : Arg) : Except StreamError Value :=
  match members.lookup arg.name with
  | some value => .ok value
  | none => .error (.missingArg arg)

/-- Takes an input record apart. -/
def ofInput? (input : Value) : Except StreamError Request := do
  let some members := input.members?
    | throw (.wrongKind .input input.ty)
  let container ← arg members .container
  let some containerMembers := container.members?
    | throw (.wrongKind .container container.ty)
  let selector ← arg members .selector
  let some selectorText := selector.text?
    | throw (.wrongKind .selector selector.ty)
  return ⟨containerMembers, selectorText, ← arg members .fallback⟩

/-- The member that is asked for, or the fallback. -/
def answer (request : Request) : Value :=
  (request.container.lookup request.selector).getD request.fallback

end Request

/-- What a running node remembers. -/
structure Exec where
  /-- The last record processed. -/
  last : Option Value := none
  /-- The selector pinned by the first record. -/
  selector : Option String := none
  /-- The last result emitted. -/
  result : Option Value := none

namespace Exec

/-- Checks a selector against the pinned one. -/
def checkSelector (exec : Exec) (selector : String) : Except StreamError Unit :=
  if selector = "" then .error .emptySelector
  else match exec.selector with
    | some pinned =>
      if pinned = selector then .ok () else .error (.selectorChanged pinned selector)
    | none => .ok ()

/-- Processes one record under a return type. Answers what the node remembers
then and what it emits. -/
def step (out : Ty) (exec : Exec) (input : Value) :
    Except StreamError (Exec × Option Value) := do
  if exec.last.any (·.equiv input) then
    return (exec, none)
  let request ← Request.ofInput? input
  exec.checkSelector request.selector
  let result := request.answer
  let exec := { exec with last := some input, selector := some request.selector }
  if let some cause := out.conflict? result.ty then
    throw (.resultType cause)
  if exec.result.any (·.equiv result) then
    return (exec, none)
  return ({ exec with result := some result }, some result)

/-- What becomes of each record in turn: what is emitted for it, or the error
that ends the run. -/
def trace (out : Ty) (exec : Exec) : List Value → List (Except StreamError (Option Value))
  | [] => []
  | input :: rest =>
    match exec.step out input with
    | .ok (next, emitted) => .ok emitted :: next.trace out rest
    | .error error => [.error error]

end Exec

end Polyflow.Lookup
