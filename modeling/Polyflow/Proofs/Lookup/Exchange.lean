/-
# Rounds about other expressions

What a round derives speaks of the expressions of an application and of slots. If these
are exchanged for others, what is derived changes along with them, constraint by
constraint. This is how two rounds are compared that are about different expressions:
rounds of two rules with slots of their own, or of one rule for two selectors.
-/

import Polyflow.Proofs.Lookup.Derivation

namespace Polyflow

/-- Named parts, each with another expression. -/
def changeParts (change : Expr → Expr) (parts : List (String × Expr)) : List (String × Expr) :=
  parts.map fun part => (part.1, change part.2)

/-- The same constraint on other expressions. -/
def Constraint.mapExprs {ρ : Type} (change : Expr → Expr) : Constraint ρ → Constraint ρ
  | .hasType expr ty => .hasType (change expr) ty
  | .sameType left right => .sameType (change left) (change right)
  | .function shape =>
    .function ⟨change shape.func, changeParts change shape.args, change shape.ret⟩
  | .record shape => .record ⟨change shape.expr, changeParts change shape.members⟩
  | .producedBy result func => .producedBy (change result) (change func)
  | .call found => .call ⟨change found.call, change found.func, found.args.map change⟩
  | .generator rule => .generator ⟨change rule.site, rule.rule⟩

end Polyflow

namespace Polyflow.Lookup

variable {ρ : Type}

/-- The same application with other expressions. -/
def Application.mapExprs (change : Expr → Expr) (app : Application) : Application where
  call := change app.call
  container := change app.container
  selector := change app.selector
  fallback := change app.fallback

namespace Slots

/-- Other slots, one for each. -/
def mapExprs (change : Expr → Expr) (slots : Slots) : Slots where
  container := change slots.container
  selector := change slots.selector
  fallback := change slots.fallback
  out := change slots.out

theorem mapExprs_links (change : Expr → Expr) (slots : Slots) (app : Application) :
    (slots.links app : List (Constraint ρ)).map (Constraint.mapExprs change) =
      (slots.mapExprs change).links (app.mapExprs change) := rfl

theorem mapExprs_stateResult (change : Expr → Expr) (slots : Slots) (found : Option Ty) :
    (slots.stateResult found : List (Constraint ρ)).map (Constraint.mapExprs change) =
      (slots.mapExprs change).stateResult found := by
  cases found <;> rfl

/-- All that a successful round derives, from what it states of the record and the type it
found for the result. -/
def derived (slots : Slots) (site : Expr) (app : Application) (ofContainer : List (Constraint ρ))
    (found : Option Ty) : List (Constraint ρ) :=
  slots.links app ++ ofContainer ++ slots.stateResult found ++ [.producedBy app.call site]

theorem mapExprs_derived (change : Expr → Expr) (slots : Slots) (site : Expr) (app : Application)
    (ofContainer : List (Constraint ρ)) (found : Option Ty) :
    (slots.derived site app ofContainer found).map (Constraint.mapExprs change) =
      (slots.mapExprs change).derived (change site) (app.mapExprs change)
        (ofContainer.map (Constraint.mapExprs change)) found := by
  simp only [derived, List.map_append, mapExprs_links, mapExprs_stateResult]
  rfl

end Slots

end Polyflow.Lookup
