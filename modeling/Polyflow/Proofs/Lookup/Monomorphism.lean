/-
# Types of what a run emits

Everything that a run emits agrees with the return type that was built. If nothing is
open in that type, it all has this one type. Building asks no more than that something is
known of the type at its outermost level, so a signature can be built and run under which
values of different types are emitted.
-/

import Polyflow.Proofs.Lookup.Building
import Polyflow.Proofs.Lookup.Emissions
import Polyflow.Proofs.Value.Sample

namespace Polyflow.Lookup

variable {out : Ty} {exec next : Exec} {input result : Value} {inputs : List Value}

/-- What a record emits is the result it is judged to have. -/
theorem judged_of_emitted (steps : exec.step out input = .ok (next, some result)) :
    judge out exec.selector input = .ok result := by
  rcases step_cases steps with ⟨-, -, nothing⟩ | ⟨answer, -, judged, -, emitted⟩
  · cases nothing
  · split at emitted
    · cases emitted
    · cases emitted
      exact judged

/-- What a run emits agrees with the return type. -/
theorem agrees_of_emitted (inputsNamed : ∀ input ∈ inputs, input.WellNamed)
    (emitted : result ∈ emissions (exec.trace out inputs)) :
    result.WellNamed ∧ out.Agrees result.ty := by
  induction inputs generalizing exec with
  | nil => cases emitted
  | cons input rest ih =>
      obtain ⟨inputNamed, restNamed⟩ := List.forall_mem_cons.mp inputsNamed
      cases steps : exec.step out input with
      | error error =>
          rw [Exec.trace, steps] at emitted
          cases emitted
      | ok stepped =>
          rcases stepped with ⟨next, answer⟩
          rw [trace_cons_of_ok steps, emissions_ok_cons, List.mem_append, Option.mem_toList]
            at emitted
          rcases emitted with rfl | later
          · have judged := judged_of_emitted steps
            obtain ⟨_, _, _, _, -, -, -, -, -, -, -, agrees⟩ := judge_eq_ok_iff.mp judged
            exact ⟨wellNamed_of_judged inputNamed judged, agrees⟩
          · exact ih restNamed later

/-- What a run emits has the return type, if nothing is open in it. -/
theorem equiv_of_emitted (outNamed : out.WellNamed) (complete : out.holes = 0)
    (inputsNamed : ∀ input ∈ inputs, input.WellNamed)
    (emitted : result ∈ emissions (exec.trace out inputs)) :
    result.ty.WellNamed ∧ result.ty.Equiv out := by
  obtain ⟨wellNamed, agrees⟩ := agrees_of_emitted inputsNamed emitted
  have equal := (Ty.agrees_iff_equiv outNamed wellNamed.ty complete
    (Value.holes_ty wellNamed)).mp agrees
  exact ⟨wellNamed.ty, equal.symm outNamed wellNamed.ty⟩

/-- All values that are emitted in a run under the return type have the same type. -/
def Monomorphic (out : Ty) : Prop :=
  ∀ inputs : List Value, (∀ input ∈ inputs, input.WellNamed) →
    ∀ first ∈ emissions (Exec.trace out {} inputs),
      ∀ second ∈ emissions (Exec.trace out {} inputs), first.ty.Equiv second.ty

/-- Under a complete type, all results are of this type. -/
theorem monomorphic_of_complete (outNamed : out.WellNamed) (complete : out.holes = 0) :
    Monomorphic out := by
  intro inputs inputsNamed first isFirst second isSecond
  obtain ⟨firstNamed, equal⟩ := equiv_of_emitted outNamed complete inputsNamed isFirst
  obtain ⟨secondNamed, equal'⟩ := equiv_of_emitted outNamed complete inputsNamed isSecond
  exact equal.trans (equal'.symm secondNamed outNamed) firstNamed outNamed secondNamed

/-- Under a type with a function in it, there are no results. -/
theorem monomorphic_of_func (outNamed : out.WellNamed) (func : out.hasFunc = true) :
    Monomorphic out := by
  intro inputs inputsNamed first isFirst
  obtain ⟨-, agrees⟩ := agrees_of_emitted inputsNamed isFirst
  rw [Value.hasFunc_of_agrees outNamed agrees] at func
  cases func

/-- Arguments without the member that is asked for. -/
def missing (fallback : Value) : Value :=
  argRecord (.record []) "x" fallback

theorem missing_wellNamed {fallback : Value} (wellNamed : fallback.WellNamed) :
    (missing fallback).WellNamed := by
  have nothingNamed : (Value.record []).WellNamed := ⟨List.nodup_nil, trivial⟩
  exact argRecord_wellNamed nothingNamed "x" wellNamed

theorem judge_missing {fallback : Value} (agrees : out.Agrees fallback.ty) :
    judge out (some "x") (missing fallback) = .ok fallback := by
  have nonempty : "x" ≠ "" := by decide
  exact judge_argRecord nonempty agrees

/-- Any two different values that agree with the return type are emitted in some run. -/
theorem exists_run_of_agrees {first second : Value} (outNamed : out.WellNamed)
    (firstNamed : first.WellNamed) (secondNamed : second.WellNamed)
    (agrees : out.Agrees first.ty) (agrees' : out.Agrees second.ty)
    (differ : ¬ first.Equiv second) :
    ∃ inputs : List Value, (∀ input ∈ inputs, input.WellNamed) ∧
      emissions (Exec.trace out {} inputs) = [first, second] := by
  have inputsNamed : ∀ input ∈ [missing first, missing second], input.WellNamed := by
    simp [missing_wellNamed firstNamed, missing_wellNamed secondNamed]
  have judged : [missing first, missing second].map (judge out (some "x")) =
      [first, second].map .ok := by
    simp [judge_missing agrees, judge_missing agrees']
  refine ⟨_, inputsNamed, (trace_of_judged outNamed inputsNamed judged).1.trans ?_⟩
  simp [changes, differ]

/-- Under a type of values that is open somewhere, results can have different types. -/
theorem not_monomorphic_of_open (outNamed : out.WellNamed) (noFunc : out.hasFunc = false)
    (isOpen : out.holes ≠ 0) : ¬ Monomorphic out := by
  intro monomorphic
  have intNamed : (Value.int 0).WellNamed := trivial
  have textNamed : (Value.text "").WellNamed := trivial
  have firstNamed := Value.sample_wellNamed intNamed outNamed
  have secondNamed := Value.sample_wellNamed textNamed outNamed
  have differ : ¬ (Value.sample (.int 0) out).ty.Equiv (Value.sample (.text "") out).ty := by
    intro equal
    cases Value.ty_equiv_of_sample intNamed textNamed outNamed noFunc isOpen equal
  obtain ⟨inputs, inputsNamed, emitted⟩ := exists_run_of_agrees outNamed firstNamed secondNamed
    (Value.agrees_ty_sample (.int 0) outNamed noFunc)
    (Value.agrees_ty_sample (.text "") outNamed noFunc)
    fun equal => differ (equal.ty firstNamed secondNamed)
  have oneType := monomorphic inputs inputsNamed
  rw [emitted] at oneType
  exact differ (oneType _ List.mem_cons_self _ (List.mem_cons_of_mem _ List.mem_cons_self))

/-- A signature that is built and started has distinct names in its types. -/
theorem Function.wellNamed_out {function : Function} {ty : Ty} {built : Function × Ty}
    {signature : Signature} (tyNamed : ty.WellNamed) (builds : function.build ty = .ok built)
    (starts : built.1.init = .ok signature) : signature.out.WellNamed := by
  obtain ⟨fixed, fixes, rfl⟩ := build_eq_ok_iff.mp builds
  obtain ⟨isFixed, -⟩ := init_eq_ok_iff.mp starts
  cases isFixed
  exact (Ty.wellNamed_func.mp (Signature.wellNamed_ty tyNamed fixes)).2.2

/-- Under a signature that was built and can be started, results are of one type exactly if
nothing is open in the return type, or if there is a function in it, and so no result. -/
theorem Function.monomorphic_iff {function : Function} {ty : Ty} {built : Function × Ty}
    {signature : Signature} (tyNamed : ty.WellNamed) (builds : function.build ty = .ok built)
    (starts : built.1.init = .ok signature) :
    Monomorphic signature.out ↔ signature.out.holes = 0 ∨ signature.out.hasFunc = true := by
  have outNamed := wellNamed_out tyNamed builds starts
  constructor
  · intro monomorphic
    by_contra neither
    obtain ⟨isOpen, noFunc⟩ := not_or.mp neither
    exact not_monomorphic_of_open outNamed (Bool.eq_false_iff.mpr noFunc) isOpen monomorphic
  · rintro (complete | func)
    · exact monomorphic_of_complete outNamed complete
    · exact monomorphic_of_func outNamed func

private def openTy : Ty :=
  .record [("a", .unknown)]

private def openSignature : Signature :=
  ⟨.record [], openTy⟩

theorem Function.monomorphic_of_numbers :
    let ty := Ty.func [("from", .record [("x", .prim .int)]), ("name", .text), ("or", .prim .int)]
      (.prim .int)
    let signature : Signature := ⟨.record [("x", .prim .int)], .prim .int⟩
    ty.WellNamed ∧ Function.build {} ty = .ok (⟨some signature⟩, signature.ty) ∧
      Function.init ⟨some signature⟩ = .ok signature ∧ Monomorphic signature.out := by
  intro ty signature
  have tyNamed : ty.WellNamed := by decide
  have builds : Function.build {} ty = .ok (⟨some signature⟩, signature.ty) := rfl
  have starts : Function.init ⟨some signature⟩ = .ok signature := rfl
  exact ⟨tyNamed, builds, starts, (monomorphic_iff tyNamed builds starts).mpr (.inl rfl)⟩

/-- A member of the return type is open, so it can be a number in one result and a text in
the next one. -/
theorem Function.built_not_monomorphic :
    let one := Value.record [("a", .int 1)]
    let other := Value.record [("a", .text "x")]
    openSignature.ty.WellNamed ∧
      Function.build {} openSignature.ty = .ok (⟨some openSignature⟩, openSignature.ty) ∧
      Function.validate ⟨some openSignature⟩ = .ok () ∧
      Function.init ⟨some openSignature⟩ = .ok openSignature ∧
      emissions (Exec.trace openTy {} [missing one, missing other]) = [one, other] ∧
      ¬ one.ty.Equiv other.ty ∧ ¬ Monomorphic openTy := by
  refine ⟨by decide, rfl, rfl, rfl, rfl, by decide, ?_⟩
  exact not_monomorphic_of_open (by decide) rfl (by decide)

end Polyflow.Lookup
