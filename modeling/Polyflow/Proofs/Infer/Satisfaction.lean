/-
# Assignments that satisfy constraints

An assignment chooses a complete type for every expression. Each constraint asks
something of it, and it satisfies a list of constraints if it does what every
one of them asks. Types that are known in part say less: an assignment only has
to agree with them. So whatever is observed of an expression that an assignment
has a type for is accepted, in any order and however little each observation
tells.
-/

import Polyflow.Infer.Constraint
import Polyflow.Proofs.Infer.History
import Polyflow.Proofs.Ty.Equality

namespace Polyflow

/-- A complete type for every expression. -/
structure Assignment where
  ty : Expr → Ty
  wellNamed : ∀ expr, (ty expr).WellNamed
  complete : ∀ expr, (ty expr).holes = 0

instance : CoeFun Assignment fun _ => Expr → Ty := ⟨Assignment.ty⟩

namespace Assignment

variable (types : Assignment) {expr other : Expr}

theorem equiv_symm (equal : (types expr).Equiv (types other)) :
    (types other).Equiv (types expr) :=
  equal.symm (types.wellNamed expr) (types.wellNamed other)

/-- What agrees with the type of an expression agrees with that of any expression
of the same type. -/
theorem agrees_of_equiv {ty : Ty} (wellNamed : ty.WellNamed) (agrees : ty.Agrees (types other))
    (equal : (types expr).Equiv (types other)) : ty.Agrees (types expr) :=
  agrees.trans_equiv (types.equiv_symm equal) wellNamed (types.wellNamed other)
    (types.wellNamed expr)

end Assignment

namespace Constraint

variable {ρ : Type}

/-- What a constraint asks of an assignment. A type that it names may be known in
part. A generator asks for nothing by itself. -/
def Holds (types : Assignment) : Constraint ρ → Prop
  | .hasType expr ty => ty.Agrees (types expr)
  | .sameType left right => (types left).Equiv (types right)
  | .function shape =>
    ∃ args ret, types shape.func = .func args ret ∧
      Aligned (fun ty expr => ty.Equiv (types expr)) args shape.args ∧
      ret.Equiv (types shape.ret)
  | .record shape =>
    ∃ members, types shape.expr = .record members ∧
      Matched (fun ty expr => ty.Equiv (types expr)) members shape.members
  | .producedBy result func => ∃ args ret, types func = .func args ret ∧ ret.Equiv (types result)
  | .call found =>
    ∃ args ret, types found.func = .func args ret ∧
      List.Forall₂ (fun arg entry => (types arg).Equiv entry.2) found.args args ∧
      ret.Equiv (types found.call)
  | .generator _ => True

end Constraint

namespace Knowledge

/-- Knowledge whose kept type agrees with a complete one accepts whatever agrees
with it too, and so on to the end. -/
theorem acceptsAll_of_agrees {whole : Ty} (wholeNamed : whole.WellNamed)
    (complete : whole.holes = 0) {knowledge : Knowledge} {observations : List Observation}
    (kept : ∀ ty, knowledge.ty? = some ty → ty.WellNamed ∧ ty.Agrees whole)
    (observed : ∀ observation ∈ observations,
      observation.ty.WellNamed ∧ observation.ty.Agrees whole) :
    knowledge.acceptsAll observations = true := by
  induction observations generalizing knowledge with
  | nil => rfl
  | cons first rest ih =>
      obtain ⟨firstObserved, restObserved⟩ := List.forall_mem_cons.mp observed
      rw [acceptsAll, Bool.and_eq_true]
      refine ⟨accepts_iff.mpr fun ty holds => ?_, ih (fun ty holds => ?_) restObserved⟩
      · exact Ty.agrees_of_common (kept ty holds).1 firstObserved.1 wholeNamed complete
          (kept ty holds).2 firstObserved.2
      · obtain ⟨observation, isKept, rfl⟩ := Option.map_eq_some_iff.mp holds
        rcases kept_next isKept with rfl | before
        · exact firstObserved
        · exact kept _ (by rw [ty?, before, Option.map_some])

/-- What a history of observations leaves behind was observed. -/
theorem exists_observed_of_ty? {observations : List Observation} {ty : Ty}
    (holds : (Knowledge.after {} observations).ty? = some ty) :
    ∃ observation ∈ observations, observation.ty = ty := by
  obtain ⟨kept, isKept, rfl⟩ := Option.map_eq_some_iff.mp holds
  rcases kept_after isKept with inside | atStart
  · exact ⟨kept, inside, rfl⟩
  · cases atStart

/-- What holds of every observed type holds of the one that is kept. -/
theorem kept_of_observed (property : Ty → Prop) {observations : List Observation} {ty : Ty}
    (observed : ∀ observation ∈ observations, property observation.ty)
    (holds : (Knowledge.after {} observations).ty? = some ty) : property ty := by
  obtain ⟨observation, inside, rfl⟩ := exists_observed_of_ty? holds
  exact observed observation inside

end Knowledge

end Polyflow
