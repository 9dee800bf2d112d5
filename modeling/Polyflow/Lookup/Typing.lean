/-
# Typing rules of the lookup function

The function expression of a call site is tied to four fresh unknowns, its
slots: one for each argument and one for the return. A rule waits until the
solver has recorded the call. From then on it links the call's arguments to the
slots, in every round anew, and adds what can be learned about the record and
about the result. A member's type says something about the result only if the
selector is a known text and names a member that the record has.
-/

import Polyflow.Infer.Round
import Polyflow.Lookup.Basic

namespace Polyflow.Lookup

variable {ρ : Type}

/-- The unknowns of one call site. -/
structure Slots where
  container : Expr
  selector : Expr
  fallback : Expr
  out : Expr

namespace Slots

/-- New slots. -/
def fresh : StateM Context Slots :=
  return {
    container := ← Context.placeholder
    selector := ← Context.placeholder
    fallback := ← Context.placeholder
    out := ← Context.placeholder }

/-- The slots as the named arguments of the function. -/
def args (slots : Slots) : List (String × Expr) :=
  [(Arg.container.name, slots.container), (Arg.selector.name, slots.selector),
    (Arg.fallback.name, slots.fallback)]

end Slots

/-- A constraint, or the failure of the round in which it cannot be made. -/
def made (constraint : Except ShapeError (Constraint ρ)) : Round (Constraint ρ) :=
  match constraint with
  | .ok constraint => pure constraint
  | .error error => throw (.shape error)

/-- The constraints of a call site, given by its function expression. The
selector is a text; fallback and result have one type whether or not the member
exists. -/
def constraints (site : Expr) : Round (List (Constraint Slots)) := do
  let slots ← Slots.fresh
  let shape ← made (Constraint.function? site slots.args slots.out)
  return [
    .hasType slots.selector .text,
    .sameType slots.fallback slots.out,
    shape,
    .generator ⟨site, slots⟩]

/-- The selector, if the argument is a constant text that is not empty. An
argument known to be of another type than text is refused. -/
def selectorOf (known : List (Source × Ty)) (arg : Expr) : Except RoundError (Option String) := do
  for (_, ty) in known do
    match ty with
    | .unknown | .prim .text => pure ()
    | _ => throw (.unexpectedKind Arg.selector.name Prim.text.name ty)
  return (arg.value?.bind Value.text?).filter (· ≠ "")

/-- What one round learns about a call. -/
structure Findings where
  /-- The type of the record. -/
  container : Knowledge := {}
  /-- The type of the result. -/
  result : Knowledge := {}

namespace Findings

/-- Takes in a type known of something that has the type of the result. -/
def learnResult (what : String) (findings : Findings) (known : Source × Ty) :
    Except RoundError Findings :=
  match findings.result.observe ⟨known.2, known.1.name ++ " " ++ what⟩ with
  | .ok (result, _) => .ok { findings with result }
  | .error conflict => .error (.inconsistent conflict)

/-- Takes in a type known of the record. If the selector is known and names a
member, the member's type is one of the result. -/
def learnContainer (selector : Option String) (findings : Findings) (known : Source × Ty) :
    Except RoundError Findings :=
  match known.2 with
  | .unknown => .ok findings
  | .record members => do
    let findings ← match selector.bind (fun name => members.lookup name) with
      | some member => findings.learnResult "struct member type" (known.1, member)
      | none => pure findings
    match findings.container.observe ⟨known.2, known.1.name ++ " struct arg type"⟩ with
    | .ok (container, _) => return { findings with container }
    | .error conflict => throw (.inconsistent conflict)
  | ty => .error (.unexpectedKind Arg.container.name "struct" ty)

/-- All that is known about the record, the fallback and the return of a call,
in this order. -/
def gather (selector : Option String) (container fallback ret : List (Source × Ty)) :
    Except RoundError Findings := do
  let findings ← container.foldlM (learnContainer selector) {}
  let findings ← fallback.foldlM (learnResult "optional arg type") findings
  ret.foldlM (learnResult "return type") findings

end Findings

namespace Slots

/-- The expressions for the members of the record: the result's slot for the
selected one, and an unknown of its own for every other. -/
def memberExprs (slots : Slots) (selector : String) :
    List String → StateM Context (List (String × Expr))
  | [] => return []
  | member :: rest => do
    let expr ←
      if member = selector then pure slots.out
      else Context.memberUnknown slots.container member
    return (member, expr) :: (← slots.memberExprs selector rest)

/-- Takes the record apart, if the selector is known and names a member. -/
def decompose (slots : Slots) (selector : Option String) (ty : Ty) :
    Round (List (Constraint ρ)) :=
  match selector, ty.members? with
  | some selector, some members =>
    if (members.lookup selector).isSome then do
      let parts ← slots.memberExprs selector (members.map Prod.fst)
      return [← made (Constraint.record? slots.container parts)]
    else pure []
  | _, _ => pure []

/-- States the type found for the record. -/
def stateContainer (slots : Slots) (selector : Option String) :
    Option Ty → Round (List (Constraint ρ))
  | some ty => return .hasType slots.container ty :: (← slots.decompose selector ty)
  | none => return []

/-- States the type found for the result. -/
def stateResult (slots : Slots) : Option Ty → List (Constraint ρ)
  | some ty => [.hasType slots.fallback ty, .hasType slots.out ty]
  | none => []

/-- Applies the rule of a call site to all facts and the solution so far. -/
def derive (slots : Slots) (site : Expr) (facts : List (Constraint ρ)) (solution : Solution) :
    Round (List (Constraint ρ)) := do
  let some record := Constraint.callOf? facts site
    | throw .noProgress
  let [container, selectorArg, fallback] := record.args
    | throw (.arity arity record.args.length)
  let known := knownTypes (← getThe Context) solution
  let selector ← ExceptT.mk (pure (selectorOf (known selectorArg) selectorArg))
  let findings ← ExceptT.mk (pure
    (Findings.gather selector (known container) (known fallback) (known record.call)))
  let ofContainer ← slots.stateContainer selector findings.container.ty?
  return [
    .sameType record.call slots.out,
    .sameType container slots.container,
    .sameType selectorArg slots.selector,
    .sameType fallback slots.fallback,
    .hasType selectorArg .text] ++ ofContainer ++ slots.stateResult findings.result.ty? ++
    [.producedBy record.call site]

end Slots

end Polyflow.Lookup
