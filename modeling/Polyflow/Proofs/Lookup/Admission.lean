/-
# Inference and building admit the same functions

A call site is set up with four constraints, and building checks a type argument by
argument. The two are written independently of each other, one as relations between
expressions and the other as a list of checks. They admit the same complete types: what
satisfies the constraints is built, and what is built satisfies the constraints, under
an assignment that gives the slots the types of its arguments.
-/

import Polyflow.Proofs.Infer.Satisfaction
import Polyflow.Proofs.Lookup.Building
import Polyflow.Proofs.Lookup.Derivation
import Polyflow.Proofs.Ty.Complete

namespace Polyflow

/-- What a constraint asks of an assignment if the types that it names are meant in full:
an expression has exactly the type that it is said to have, and a function expression has
the type of a function from its arguments to its return. -/
def Constraint.Fulfilled {ρ : Type} (types : Assignment) : Constraint ρ → Prop
  | .hasType expr ty => (types expr).Equiv ty
  | .function shape => (types shape.func).Equiv
      (.func (shape.args.map fun part => (part.1, types part.2)) (types shape.ret))
  | constraint => constraint.Holds types

end Polyflow

namespace Polyflow.Lookup

variable {site : Expr} {context : Context} {types : Assignment}

/-- What the constraints of a call site come down to. -/
theorem forall_fulfilled_iff {slots : Slots} :
    (∀ constraint ∈ ([.hasType slots.selector .text, .sameType slots.fallback slots.out,
        .function ⟨site, slots.args, slots.out⟩, .generator ⟨site, slots⟩] :
          List (Constraint Slots)), constraint.Fulfilled types) ↔
      (types slots.selector).Equiv .text ∧ (types slots.fallback).Equiv (types slots.out) ∧
        (types site).Equiv (.func [(Arg.container.name, types slots.container),
          (Arg.selector.name, types slots.selector), (Arg.fallback.name, types slots.fallback)]
            (types slots.out)) := by
  simp only [List.forall_mem_cons]
  apply Iff.intro
  · intro fulfilled
    rcases fulfilled with ⟨isText, same, isFunc, -, -⟩
    exact ⟨isText, same, isFunc⟩
  · intro both
    rcases both with ⟨isText, same, isFunc⟩
    exact ⟨isText, same, isFunc, trivial, by simp⟩

/-- A type that equals that of a function of three arguments is one. -/
theorem exists_three_of_equiv {ty : Ty} {first second third : String × Ty} {ret : Ty}
    (equal : ty.Equiv (.func [first, second, third] ret)) :
    ∃ first' second' third' ret', ty = .func [first', second', third'] ret' ∧
      (first'.2.Equiv first.2 ∧ second'.2.Equiv second.2 ∧ third'.2.Equiv third.2) ∧
        ret'.Equiv ret := by
  obtain ⟨args, ret', rfl, aligned, rets⟩ := Ty.exists_func_of_equiv equal
  match args with
  | [first', second', third'] =>
      simp only [aligned_cons] at aligned
      rcases aligned with ⟨firsts, seconds, thirds, -⟩
      exact ⟨first', second', third', ret', rfl, ⟨firsts, seconds, thirds⟩, rets⟩
  | [] => cases aligned.length_eq
  | [_] => cases aligned.length_eq
  | [_, _] => cases aligned.length_eq
  | _ :: _ :: _ :: _ :: _ => cases aligned.length_eq

/-- A complete function type whose selector is a text and whose fallback equals its return
fixes a signature. -/
theorem ofTy?_of_complete {first second third : String} {container fallback out : Ty}
    (wellNamed : (Ty.func [(first, container), (second, .text), (third, fallback)] out).WellNamed)
    (complete : (Ty.func [(first, container), (second, .text), (third, fallback)] out).holes = 0)
    (equal : fallback.Equiv out) :
    Signature.ofTy? (.func [(first, container), (second, .text), (third, fallback)] out) =
      .ok ⟨container, out⟩ := by
  obtain ⟨completeArgs, completeOut⟩ := Ty.complete_func.mp complete
  obtain ⟨-, argsNamed, outNamed⟩ := Ty.wellNamed_func.mp wellNamed
  simp only [List.forall_mem_cons] at completeArgs argsNamed
  rcases completeArgs with ⟨completeContainer, -, completeFallback, -⟩
  rcases argsNamed with ⟨-, -, fallbackNamed, -⟩
  have agrees : fallback.Agrees out :=
    (Ty.agrees_iff_equiv fallbackNamed outNamed completeFallback completeOut).mpr equal
  exact Signature.ofTy?_func_eq_ok_iff.mpr ⟨⟨Ty.ne_unknown_of_complete completeOut,
    Ty.ne_unknown_of_complete completeContainer, ⟨by simp, Ty.agrees_refl trivial⟩,
    Ty.ne_unknown_of_complete completeFallback, agrees⟩, rfl⟩

/-- A built function and its type fit the types of the slots. -/
structure Slots.FitBuilt (slots : Slots) (types : Assignment) (built : Function) (ty : Ty) :
    Prop where
  ty : ∃ container fallback ret, ty = .func [(Arg.container.name, container),
      (Arg.selector.name, .text), (Arg.fallback.name, fallback)] ret ∧
    container.Equiv (types slots.container) ∧ fallback.Equiv (types slots.out) ∧
    ret.Equiv (types slots.out)
  /-- Only the container may still keep the function from being started. -/
  validate : built.validate = .ok () ↔ ∃ members, types slots.container = .record members

theorem fitBuilt_of_fulfilled {slots : Slots} (isText : (types slots.selector).Equiv .text)
    (same : (types slots.fallback).Equiv (types slots.out))
    (isFunc : (types site).Equiv (.func [(Arg.container.name, types slots.container),
      (Arg.selector.name, types slots.selector), (Arg.fallback.name, types slots.fallback)]
        (types slots.out))) (function : Function) :
    ∃ built ty, function.build (types site) = .ok (built, ty) ∧
      slots.FitBuilt types built ty := by
  obtain ⟨⟨first, container⟩, ⟨second, selector⟩, ⟨third, fallback⟩, out, isThree,
    ⟨containers, selectors, fallbacks⟩, outs⟩ := exists_three_of_equiv isFunc
  have wellNamed := types.wellNamed site
  have complete := types.complete site
  rw [isThree] at wellNamed complete
  obtain ⟨-, argsNamed, outNamed⟩ := Ty.wellNamed_func.mp wellNamed
  simp only [List.forall_mem_cons] at argsNamed
  rcases argsNamed with ⟨containerNamed, selectorNamed, fallbackNamed, -⟩
  have selectorText : selector = .text := Ty.eq_text_of_equiv
    (selectors.trans isText selectorNamed (types.wellNamed _) trivial)
  subst selectorText
  have ofOut : fallback.Equiv (types slots.out) :=
    fallbacks.trans same fallbackNamed (types.wellNamed _) (types.wellNamed _)
  have equal : fallback.Equiv out :=
    ofOut.trans (outs.symm outNamed (types.wellNamed _)) fallbackNamed (types.wellNamed _) outNamed
  have fixes := ofTy?_of_complete wellNamed complete equal
  refine ⟨_, _, isThree ▸ Function.build_eq_ok_iff.mpr ⟨_, fixes, rfl⟩, ?_, ?_⟩
  · exact ⟨container, out, out, rfl, containers, outs, outs⟩
  · rw [Function.validate_of_signature, Signature.validate_eq_ok_iff]
    have outKnown := Ty.ne_unknown_of_complete (Ty.complete_func.mp complete).2
    rw [and_iff_left outKnown]
    apply Iff.intro
    · intro isRecord
      rcases isRecord with ⟨members, rfl⟩
      obtain ⟨theirs, isRecord, -⟩ := Ty.exists_record_of_equiv
        (containers.symm containerNamed (types.wellNamed _)) (types.wellNamed _) containerNamed
      exact ⟨theirs, isRecord⟩
    · intro isRecord
      rcases isRecord with ⟨members, isRecord⟩
      have membersNamed := types.wellNamed slots.container
      rw [isRecord] at containers membersNamed
      obtain ⟨ours, isRecord, -⟩ :=
        Ty.exists_record_of_equiv containers containerNamed membersNamed
      exact ⟨ours, isRecord⟩

namespace Slots

/-- The types of the site and of its slots, by identity. -/
def assign (slots : Slots) (site : Expr) (whole container fallback out : Ty) (expr : Expr) : Ty :=
  if expr.id = site.id then whole
  else if expr.id = slots.container.id then container
  else if expr.id = slots.selector.id then .text
  else if expr.id = slots.fallback.id then fallback
  else out

theorem forall_assign {slots : Slots} {whole container fallback out : Ty} (holds : Ty → Prop)
    (ofWhole : holds whole) (ofContainer : holds container) (ofText : holds .text)
    (ofFallback : holds fallback) (ofOut : holds out) (expr : Expr) :
    holds (slots.assign site whole container fallback out expr) := by
  rw [assign]
  split_ifs <;> assumption

/-- The slots are different from each other and from the site. -/
theorem assign_startingAt {next : ExprId} (made : site.id < next)
    (whole container fallback out : Ty) :
    let slots := Slots.startingAt next
    let ty := slots.assign site whole container fallback out
    ty site = whole ∧ ty slots.container = container ∧ ty slots.selector = .text ∧
      ty slots.fallback = fallback ∧ ty slots.out = out := by
  have later (steps : Nat) : next + steps ≠ site.id := by
    intro same
    exact Nat.not_lt.mpr (Nat.le_add_right next steps) (same ▸ made)
  simp only [assign]
  generalize site.id = number at later ⊢
  have before : next ≠ number := later 0
  simp [startingAt, Expr.id, later, before]

end Slots

/-- Inference and building admit the same functions. Setting up a call site succeeds, and
whatever satisfies its constraints is built and fits its slots; and every complete type
that is built is given to the site by some assignment that satisfies the constraints. -/
theorem constraints_admit_what_is_built (made : site.id < context.next) :
    let slots := Slots.startingAt context.next
    ∃ derived, ((constraints site).runIn context).1 = .ok derived ∧
      (∀ types : Assignment, (∀ constraint ∈ derived, constraint.Fulfilled types) →
        ∀ function : Function, ∃ built ty, function.build (types site) = .ok (built, ty) ∧
          slots.FitBuilt types built ty) ∧
      ∀ ty : Ty, ty.WellNamed → ty.holes = 0 → ∀ (function : Function) (result : Function × Ty),
        function.build ty = .ok result →
          ∃ types : Assignment, (∀ constraint ∈ derived, constraint.Fulfilled types) ∧
            types site = ty := by
  intro slots
  refine ⟨_, congrArg Prod.fst (constraints_runIn site context), ?_, ?_⟩
  · intro types fulfilled function
    obtain ⟨isText, same, isFunc⟩ := forall_fulfilled_iff.mp fulfilled
    exact fitBuilt_of_fulfilled isText same isFunc function
  · intro ty wellNamed complete function result builds
    obtain ⟨signature, fixes, -⟩ := Function.build_eq_ok_iff.mp builds
    obtain ⟨first, second, third, container, selector, fallback, out, rfl⟩ :=
      Signature.exists_func_of_ofTy? fixes
    obtain ⟨⟨-, -, ⟨selectorKnown, agreesText⟩, -, agrees⟩, -⟩ :=
      Signature.ofTy?_func_eq_ok_iff.mp fixes
    have selectorText := Ty.eq_text_of_agrees selectorKnown agreesText
    subst selectorText
    have parts := Ty.complete_func.mp complete
    have partsNamed := Ty.wellNamed_func.mp wellNamed
    simp only [List.forall_mem_cons] at parts partsNamed
    rcases parts with ⟨⟨completeContainer, -, completeFallback, -⟩, completeOut⟩
    rcases partsNamed with ⟨-, ⟨containerNamed, -, fallbackNamed, -⟩, outNamed⟩
    have equal : fallback.Equiv out :=
      (Ty.agrees_iff_equiv fallbackNamed outNamed completeFallback completeOut).mp agrees
    let types : Assignment := {
      ty := slots.assign site _ container fallback out
      wellNamed := Slots.forall_assign Ty.WellNamed wellNamed containerNamed trivial fallbackNamed
        outNamed
      complete := Slots.forall_assign (Ty.holes · = 0) complete completeContainer rfl
        completeFallback completeOut }
    obtain ⟨ofSite, ofContainer, ofSelector, ofFallback, ofOut⟩ :=
      Slots.assign_startingAt made _ container fallback out
    refine ⟨types, forall_fulfilled_iff.mpr ⟨?_, ?_, ?_⟩, ofSite⟩
    · rw [show types slots.selector = .text from ofSelector]
      exact Ty.equiv_refl trivial
    · rw [show types slots.fallback = fallback from ofFallback,
        show types slots.out = out from ofOut]
      exact equal
    · rw [show types site = _ from ofSite, show types slots.container = container from ofContainer,
        show types slots.selector = .text from ofSelector,
        show types slots.fallback = fallback from ofFallback,
        show types slots.out = out from ofOut]
      exact Ty.func_equiv_func.mpr (Ty.func_equiv_func.mp (Ty.equiv_refl wellNamed))

/-- A function type with argument names of its own, whose fallback has the members of
the result in another order. -/
private def reorderedTy : Ty :=
  .func [("whole", .record [("part", .prim .bool)]), ("part", .text),
    ("otherwise", .record [("x", .prim .int), ("y", .text)])]
      (.record [("y", .text), ("x", .prim .int)])

/-- It is built, so it is admitted, so what is built fits the slots. -/
theorem constraints_admit_reordered_members :
    let site := Expr.symbol 0 "f"
    let slots := Slots.startingAt 1
    site.id < 1 ∧ ∃ types : Assignment, types site = reorderedTy ∧
      ∃ built ty, ({} : Function).build reorderedTy = .ok (built, ty) ∧
        slots.FitBuilt types built ty := by
  intro site slots
  obtain ⟨_, -, builds, admits⟩ :=
    @constraints_admit_what_is_built site { next := 1 } Nat.zero_lt_one
  obtain ⟨types, fulfilled, ofSite⟩ := admits reorderedTy (by decide) rfl {} _ rfl
  exact ⟨Nat.zero_lt_one, types, ofSite, ofSite ▸ builds types fulfilled {}⟩

end Polyflow.Lookup
