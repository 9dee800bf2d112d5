/-
# The course of an inference

Between two rounds of a call site anything may happen to the context that they share:
expressions are made, types are declared, sites are set up, and other rounds are run,
with success or without. Whatever happens, the context only grows: no number is given
out again, no declared type is changed, and the unknown made for a member stays the
same.
-/

import Polyflow.Proofs.Infer.Ledger
import Polyflow.Proofs.Lookup.Derivation

namespace Polyflow

namespace Context

/-- Nothing that the context holds is given up or changed. -/
structure Grows (before after : Context) : Prop where
  next : before.next ≤ after.next
  declared : ∀ expr ty, before.typeOf? expr = some ty → after.typeOf? expr = some ty
  unknowns : before.KeepsUnknowns after

theorem Grows.refl (context : Context) : context.Grows context :=
  ⟨Nat.le_refl _, fun _ _ holds => holds, fun _ _ kept => kept⟩

theorem Grows.trans {before between after : Context} (first : before.Grows between)
    (second : between.Grows after) : before.Grows after where
  next := Nat.le_trans first.next second.next
  declared expr ty holds := second.declared expr ty (first.declared expr ty holds)
  unknowns key id kept := second.unknowns key id (first.unknowns key id kept)

/-- Declared types stay if the whole of them does. -/
theorem typeOf?_congr {before after : Context} (same : after.declared = before.declared)
    (expr : Expr) : after.typeOf? expr = before.typeOf? expr := by
  cases expr <;> simp [typeOf?, same]

theorem grows_fresh (context : Context) : context.Grows (fresh.run context).2 where
  next := Nat.le_succ _
  declared expr _ holds := (typeOf?_congr rfl expr).trans holds
  unknowns _ _ kept := kept

theorem grows_memberUnknown (container : Expr) (name : String) (context : Context) :
    context.Grows ((memberUnknown container name).run context).2 := by
  cases found : context.memberUnknowns.lookup (container.id, name) with
  | some id =>
      rw [memberUnknown_run_of_known found]
      exact Grows.refl context
  | none =>
      rw [memberUnknown_run_of_new found]
      exact ⟨Nat.le_succ _, fun expr _ holds => (typeOf?_congr rfl expr).trans holds,
        keepsUnknowns_cons found _⟩

/-- A type is declared only where none is. -/
theorem grows_declare {context after : Context} {expr : Expr} {ty : Ty}
    (declares : context.declare expr ty = .ok after) : context.Grows after := by
  rcases eq_or_of_declare declares with rfl | ⟨isNew, rfl⟩
  · exact Grows.refl after
  · exact ⟨Nat.le_refl _, fun other known holds => typeOf?_insert_of_known isNew holds,
      fun _ _ kept => kept⟩

end Context

/-- Whatever a round does, with success or without, the context grows. -/
def Round.Grows {α : Type} (round : Round α) : Prop :=
  ∀ context : Context, context.Grows (round.runIn context).2

namespace Round

variable {α β : Type}

theorem grows_pure (value : α) : (pure value : Round α).Grows := Context.Grows.refl

theorem grows_throw (error : RoundError) : (throw error : Round α).Grows := Context.Grows.refl

theorem grows_mk_pure (outcome : Except RoundError α) :
    Round.Grows (ExceptT.mk (pure outcome)) := Context.Grows.refl

theorem grows_getThe : Round.Grows (getThe Context) := Context.Grows.refl

theorem grows_bind {first : Round α} {rest : α → Round β} (firstGrows : first.Grows)
    (restGrows : ∀ value, (rest value).Grows) : Round.Grows (first >>= rest) := by
  intro context
  have grows := firstGrows context
  rw [runIn_bind]
  cases ran : first.runIn context with
  | mk outcome middle =>
      rw [ran] at grows
      cases outcome with
      | ok value => exact grows.trans (restGrows value middle)
      | error error => exact grows

end Round

end Polyflow

namespace Polyflow.Lookup

variable {ρ : Type}

theorem grows_made (constraint : Except ShapeError (Constraint ρ)) : (made constraint).Grows := by
  cases constraint with
  | ok constraint => exact Round.grows_pure constraint
  | error error => exact Round.grows_throw _

theorem grows_constraints (site : Expr) : (constraints site).Grows := by
  intro context
  rw [constraints_runIn]
  exact ⟨Nat.le_add_right _ _, fun expr ty holds => (Context.typeOf?_congr rfl expr).trans holds,
    fun _ _ kept => kept⟩

namespace Slots

/-- What a member is tied to stays the same while the context grows. -/
theorem Represents.grows {slots : Slots} {selector : String} {before after : Context}
    {part : String × Expr} (represents : slots.Represents selector before part)
    (grows : before.Grows after) : slots.Represents selector after part := by
  rw [Represents] at represents ⊢
  split
  case isTrue selected => rwa [if_pos selected] at represents
  case isFalse other =>
    rw [if_neg other] at represents
    rcases represents with ⟨id, isUnknown, onRecord⟩
    exact ⟨id, isUnknown, grows.unknowns _ _ onRecord⟩

theorem grows_memberExprs (slots : Slots) (selector : String) (names : List String)
    (context : Context) : context.Grows ((slots.memberExprs selector names).run context).2 := by
  induction names generalizing context with
  | nil => exact Context.Grows.refl context
  | cons name rest ih =>
      rw [memberExprs_cons_run]
      split
      case isTrue => exact ih context
      case isFalse => exact (Context.grows_memberUnknown slots.container name context).trans (ih _)

theorem grows_decompose (slots : Slots) (selector : Option String) (ty : Ty) :
    (slots.decompose selector ty : Round (List (Constraint ρ))).Grows := by
  unfold decompose
  split
  · split
    · apply Round.grows_bind
      · exact slots.grows_memberExprs _ _
      · exact fun parts => Round.grows_bind (grows_made _) fun _ => Round.grows_pure _
    · exact Round.grows_pure _
  · exact Round.grows_pure _

theorem grows_stateContainer (slots : Slots) (selector : Option String) (found : Option Ty) :
    (slots.stateContainer selector found : Round (List (Constraint ρ))).Grows := by
  cases found with
  | none => exact Round.grows_pure _
  | some ty =>
      exact Round.grows_bind (slots.grows_decompose selector ty) fun _ => Round.grows_pure _

/-- All that a round may add are unknowns for members. -/
theorem grows_derive (slots : Slots) (site : Expr) (facts : List (Constraint ρ))
    (solution : Solution) : (slots.derive site facts solution).Grows := by
  rw [derive]
  split
  · split
    · apply Round.grows_bind Round.grows_getThe
      intro context
      apply Round.grows_bind (Round.grows_mk_pure _)
      intro selector
      apply Round.grows_bind (Round.grows_mk_pure _)
      intro findings
      exact Round.grows_bind (slots.grows_stateContainer _ _) fun _ => Round.grows_pure _
    · exact Round.grows_throw _
  · exact Round.grows_throw _

end Slots

/-- What may happen to the context of an inference. -/
inductive Event (ρ : Type)
  /-- An expression is made. -/
  | express
  /-- The type of an expression is declared. -/
  | declare (expr : Expr) (ty : Ty)
  /-- A call site is set up. -/
  | setUp (site : Expr)
  /-- The rule of a call site is applied. -/
  | round (slots : Slots) (site : Expr) (facts : List (Constraint ρ)) (solution : Solution)

/-- The context after an event. A declaration that is refused changes nothing. -/
def Event.apply (context : Context) : Event ρ → Context
  | .express => (Context.fresh.run context).2
  | .declare expr ty =>
    match context.declare expr ty with
    | .ok after => after
    | .error _ => context
  | .setUp site => ((constraints site).runIn context).2
  | .round slots site facts solution => ((slots.derive site facts solution).runIn context).2

theorem Event.grows_apply (context : Context) (event : Event ρ) :
    context.Grows (event.apply context) := by
  cases event with
  | express => exact Context.grows_fresh context
  | declare expr ty =>
      rw [apply]
      cases declares : context.declare expr ty with
      | ok after => exact Context.grows_declare declares
      | error conflict => exact Context.Grows.refl context
  | setUp site => exact grows_constraints site context
  | round slots site facts solution => exact slots.grows_derive site facts solution context

/-- The context after a course of events. -/
def course (context : Context) (events : List (Event ρ)) : Context :=
  events.foldl Event.apply context

theorem grows_course (context : Context) (events : List (Event ρ)) :
    context.Grows (course context events) := by
  induction events generalizing context with
  | nil => exact Context.Grows.refl context
  | cons event rest ih => exact (event.grows_apply context).trans (ih _)

end Polyflow.Lookup
