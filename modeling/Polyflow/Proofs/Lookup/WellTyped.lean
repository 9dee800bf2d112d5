/-
# Runs with arguments of the built types

A function type whose types are complete, and whose record lacks the selected member or
has one of the return type, can be built, and a node started with it. A run in which all
arguments are of these types goes on until the input is closed and emits values of the
return type only. Either the fallbacks have no influence on what is emitted, because the
selected member is always there, or the containers have none, because it never is.
-/

import Polyflow.Proofs.Lookup.Monomorphism

namespace Polyflow.Lookup

variable {members : List (String × Ty)} {out : Ty} {selector : String}

/-- A record type, a return type and a selector that go together: nothing is open in the
return type, and the selected member is of this type, if the record type has it. -/
structure Fits (members : List (String × Ty)) (out : Ty) (selector : String) : Prop where
  membersNamed : (Ty.record members).WellNamed
  outNamed : out.WellNamed
  complete : out.holes = 0
  nonempty : selector ≠ ""
  member : ∀ ty, members.lookup selector = some ty → ty.Equiv out

/-- The arguments of an application other than the selector. -/
structure Call where
  container : Value
  fallback : Value

namespace Call

variable {call : Call} {calls others : List Call}

/-- The input record of a call, under a selector. -/
def input (selector : String) (call : Call) : Except DuplicateName Value :=
  Lookup.input call.container selector call.fallback

/-- The member of the container that is selected, if it is there. -/
def selected? (selector : String) (call : Call) : Option Value :=
  call.container.members?.bind (·.lookup selector)

/-- The selected member, or the fallback. -/
def answer (selector : String) (call : Call) : Value :=
  (call.selected? selector).getD call.fallback

/-- A call with arguments of the given types. -/
structure HasTypes (container fallback : Ty) (call : Call) : Prop where
  containerNamed : call.container.WellNamed
  container : call.container.ty.Equiv container
  fallbackNamed : call.fallback.WellNamed
  fallback : call.fallback.ty.Equiv fallback

/-- A container of a record type is a record. -/
theorem HasTypes.exists_items (typed : call.HasTypes (.record members) out) :
    ∃ items, call.container = .record items := by
  have isRecord := typed.container
  cases shape : call.container with
  | record items => exact ⟨items, rfl⟩
  | _ =>
      rw [shape] at isRecord
      cases isRecord

/-- A member is selected from the container exactly if its type has it, and then has the
type that is given for it there. -/
theorem HasTypes.selected (typed : call.HasTypes (.record members) out)
    (membersNamed : (Ty.record members).WellNamed) (selector : String) :
    Option.Rel (fun item ty => item.WellNamed ∧ item.ty.Equiv ty) (call.selected? selector)
      (members.lookup selector) := by
  obtain ⟨items, shape⟩ := typed.exists_items
  have named := typed.containerNamed
  have isRecord := typed.container
  rw [shape] at named isRecord
  have matched := (Ty.record_equiv_record (Ty.wellNamed_record.mp named.ty).1
    (Ty.wellNamed_record.mp membersNamed).1).mp isRecord selector
  rw [Value.lookup_tyOfEach] at matched
  obtain ⟨both, equal⟩ := rel_iff.mp matched
  rw [Option.isSome_map] at both
  have selects : call.selected? selector = items.lookup selector := by
    rw [selected?, shape]
    rfl
  rw [selects]
  refine rel_iff.mpr ⟨both, fun item ty found isMember => ?_⟩
  exact ⟨named.member found, equal item.ty ty (by rw [found, Option.map_some]) isMember⟩

/-- A call answers with a value of the return type. -/
theorem HasTypes.answer (typed : call.HasTypes (.record members) out)
    (fits : Fits members out selector) :
    (call.answer selector).WellNamed ∧ (call.answer selector).ty.Equiv out := by
  have selected := typed.selected fits.membersNamed selector
  rw [Call.answer]
  cases found : call.selected? selector with
  | none => exact ⟨typed.fallbackNamed, typed.fallback⟩
  | some item =>
      obtain ⟨ty, isMember, itemNamed, equal⟩ := exists_right_of_rel selected found
      have tyNamed := fits.membersNamed.member isMember
      have equalOut := fits.member ty isMember
      exact ⟨itemNamed, equal.trans equalOut itemNamed.ty tyNamed fits.outNamed⟩

/-- If the selected member is always there, the answers do not depend on the fallbacks. -/
theorem answers_eq_of_containers (membersNamed : (Ty.record members).WellNamed)
    (typed : ∀ call ∈ calls, call.HasTypes (.record members) out)
    (present : (members.lookup selector).isSome) :
    calls.map (answer selector) =
      (calls.map container).map fun container =>
        (container.members?.bind (·.lookup selector)).getD container := by
  rw [List.map_map]
  apply List.map_congr_left
  intro call member
  have selected := (typed call member).selected membersNamed selector
  obtain ⟨item, found⟩ := Option.isSome_iff_exists.mp ((rel_iff.mp selected).1.mpr present)
  rw [selected?] at found
  simp [answer, selected?, found]

/-- If the selected member is never there, the answers are the fallbacks. -/
theorem answers_eq_fallbacks (membersNamed : (Ty.record members).WellNamed)
    (typed : ∀ call ∈ calls, call.HasTypes (.record members) out)
    (absent : members.lookup selector = none) :
    calls.map (answer selector) = calls.map fallback := by
  apply List.map_congr_left
  intro call member
  have selected := (typed call member).selected membersNamed selector
  have notFound : call.selected? selector = none := by
    rw [absent] at selected
    cases found : call.selected? selector with
    | none => rfl
    | some item =>
        rw [found] at selected
        cases selected
  simp [answer, notFound]

/-- The input records of calls can be made. -/
theorem mapM_input (selector : String) (calls : List Call) :
    calls.mapM (input selector) =
      .ok (calls.map fun call => argRecord call.container selector call.fallback) := by
  have made : input selector =
      fun call => pure (argRecord call.container selector call.fallback) :=
    funext fun call => input_eq_ok call.container selector call.fallback
  rw [made, List.mapM_pure]
  rfl

/-- A call is judged to have its answer as a result. -/
theorem HasTypes.judge (typed : call.HasTypes (.record members) out)
    (fits : Fits members out selector) :
    Lookup.judge out (some selector) (argRecord call.container selector call.fallback) =
      .ok (call.answer selector) := by
  obtain ⟨answerNamed, equal⟩ := typed.answer fits
  have answerComplete := Value.holes_ty answerNamed
  have agrees : out.Agrees (call.answer selector).ty :=
    (Ty.agrees_iff_equiv fits.outNamed answerNamed.ty fits.complete answerComplete).mpr
      (equal.symm answerNamed.ty fits.outNamed)
  obtain ⟨items, shape⟩ := typed.exists_items
  have isAnswer : call.answer selector = (items.lookup selector).getD call.fallback := by
    rw [Call.answer, selected?, shape]
    rfl
  rw [isAnswer] at agrees ⊢
  rw [shape]
  exact judge_argRecord fits.nonempty agrees

/-- A run of calls emits the changes among their answers, until the input is closed. -/
theorem trace_of_calls (typed : ∀ call ∈ calls, call.HasTypes (.record members) out)
    (fits : Fits members out selector) {inputs : List Value}
    (made : calls.mapM (input selector) = .ok inputs) :
    (∀ input ∈ inputs, input.WellNamed) ∧
      emissions (Exec.trace out {} inputs) = changes none (calls.map (answer selector)) ∧
      endOf (Exec.trace out {} inputs) = .ok .closed := by
  rw [mapM_input] at made
  cases made
  have inputsNamed : ∀ input ∈ calls.map fun call =>
      argRecord call.container selector call.fallback, input.WellNamed := by
    intro input member
    obtain ⟨call, present, rfl⟩ := List.mem_map.mp member
    obtain ⟨containerNamed, -, fallbackNamed, -⟩ := typed call present
    exact argRecord_wellNamed containerNamed selector fallbackNamed
  have judged : (calls.map fun call => argRecord call.container selector call.fallback).map
      (Lookup.judge out (some selector)) = (calls.map (answer selector)).map .ok := by
    rw [List.map_map, List.map_map]
    apply List.map_congr_left
    intro call member
    exact (typed call member).judge fits
  exact ⟨inputsNamed, trace_of_judged fits.outNamed inputsNamed judged⟩

end Call

namespace Signature

/-- The type of the selected member, if a signature's container has it. -/
def member? (signature : Signature) (selector : String) : Option Ty :=
  signature.container.members?.bind (·.lookup selector)

/-- What the runs under a signature do if all arguments are of the signature's types. -/
structure RunsSafely (signature : Signature) (selector : String) : Prop where
  /-- The run goes on until the input is closed, and what it emits has the return type. -/
  closes : ∀ calls : List Call,
    (∀ call ∈ calls, call.HasTypes signature.container signature.out) →
      ∃ inputs, calls.mapM (Call.input selector) = .ok inputs ∧
        endOf (Exec.trace signature.out {} inputs) = .ok .closed ∧
        ∀ result ∈ emissions (Exec.trace signature.out {} inputs), result.ty.Equiv signature.out
  /-- Calls that differ in the fallbacks only emit the same if the member is there, and
  calls that differ in the containers only do if it is not. -/
  independent : ∀ calls others : List Call,
    (∀ call ∈ calls, call.HasTypes signature.container signature.out) →
    (∀ call ∈ others, call.HasTypes signature.container signature.out) →
    ((signature.member? selector).isSome ∧
        calls.map (·.container) = others.map (·.container) ∨
      signature.member? selector = none ∧ calls.map (·.fallback) = others.map (·.fallback)) →
    ∀ inputs inputs', calls.mapM (Call.input selector) = .ok inputs →
      others.mapM (Call.input selector) = .ok inputs' →
        emissions (Exec.trace signature.out {} inputs) =
          emissions (Exec.trace signature.out {} inputs')

theorem runsSafely (fits : Fits members out selector) :
    RunsSafely ⟨.record members, out⟩ selector where
  closes := by
    intro calls typed
    have made := Call.mapM_input selector calls
    obtain ⟨inputsNamed, -, ends⟩ := Call.trace_of_calls typed fits made
    refine ⟨_, made, ends, fun result emitted => ?_⟩
    exact (equiv_of_emitted fits.outNamed fits.complete inputsNamed emitted).2
  independent := by
    intro calls others typed typed' same inputs inputs' made made'
    obtain ⟨-, emitted, -⟩ := Call.trace_of_calls typed fits made
    obtain ⟨-, emitted', -⟩ := Call.trace_of_calls typed' fits made'
    have answers : calls.map (Call.answer selector) = others.map (Call.answer selector) := by
      rcases same with ⟨present, containers⟩ | ⟨absent, fallbacks⟩
      · rw [Call.answers_eq_of_containers fits.membersNamed typed present, containers,
          ← Call.answers_eq_of_containers fits.membersNamed typed' present]
      · rw [Call.answers_eq_fallbacks fits.membersNamed typed absent, fallbacks,
          ← Call.answers_eq_fallbacks fits.membersNamed typed' absent]
    rw [emitted, emitted', answers]

end Signature

namespace Function

/-- From a record type and a return type that go together a function can be built, and
its runs under the selector are safe. -/
theorem built_runs_safely (fits : Fits members out selector) (function : Function)
    {first second third : String} (distinct : [first, second, third].Nodup) :
    let signature : Signature := ⟨.record members, out⟩
    ∃ ty, Ty.func? [(first, .record members), (second, .text), (third, out)] out = .ok ty ∧
      function.build ty = .ok (⟨some signature⟩, signature.ty) ∧
      Function.validate ⟨some signature⟩ = .ok () ∧
      Function.init ⟨some signature⟩ = .ok signature ∧
      signature.RunsSafely selector := by
  intro signature
  have makes : Ty.func? [(first, .record members), (second, .text), (third, out)] out =
      .ok (.func [(first, .record members), (second, .text), (third, out)] out) := by
    simp only [Ty.func?, distinctNames, List.map_cons, List.map_nil,
      firstRepeat?_eq_none_iff.mpr distinct, Except.map]
  have known := Ty.ne_unknown_of_complete fits.complete
  have fixes : Signature.ofTy? (.func [(first, .record members), (second, .text), (third, out)]
      out) = .ok signature :=
    Signature.ofTy?_func_eq_ok_iff.mpr ⟨⟨known, by simp, ⟨by simp, Ty.agrees_refl trivial⟩, known,
      Ty.agrees_refl fits.outNamed⟩, rfl⟩
  have valid : signature.validate = .ok () :=
    Signature.validate_eq_ok_iff.mpr ⟨⟨members, rfl⟩, known⟩
  have validates : Function.validate ⟨some signature⟩ = .ok () := by
    rw [validate_of_signature, valid]
  exact ⟨_, makes, build_eq_ok_iff.mpr ⟨signature, fixes, rfl⟩, validates,
    init_eq_ok_iff.mpr ⟨rfl, valid⟩, Signature.runsSafely fits⟩

private def pairTy : Ty :=
  .record [("x", .prim .int), ("y", .text)]

private def pairValue (x : Int64) (y : String) : Value :=
  .record [("y", .text y), ("x", .int x)]

/-- Two calls that take a pair out of a record, and whose members and parts come in
different orders. -/
private def pairCalls : List Call :=
  [⟨.record [("other", .bool true), ("pair", pairValue 1 "a")], pairValue 0 ""⟩,
    ⟨.record [("pair", pairValue 2 "b"), ("other", .bool true)], pairValue 0 ""⟩]

theorem built_runs_safely_of_pairs :
    let signature : Signature := ⟨.record [("pair", pairTy), ("other", .prim .bool)], pairTy⟩
    (∃ ty, Ty.func? [("from", signature.container), ("name", .text), ("or", pairTy)] pairTy =
        .ok ty ∧ Function.build {} ty = .ok (⟨some signature⟩, signature.ty)) ∧
      (∀ call ∈ pairCalls, call.HasTypes signature.container signature.out) ∧
      ∃ inputs, pairCalls.mapM (Call.input "pair") = .ok inputs ∧
        endOf (Exec.trace pairTy {} inputs) = .ok .closed ∧
        emissions (Exec.trace pairTy {} inputs) = [pairValue 1 "a", pairValue 2 "b"] := by
  intro signature
  have fits : Fits [("pair", pairTy), ("other", .prim .bool)] pairTy "pair" := by
    refine ⟨by decide, by decide, rfl, by decide, fun ty found => ?_⟩
    cases found
    rfl
  have distinct : ["from", "name", "or"].Nodup := by decide
  obtain ⟨ty, makes, builds, -, -, safely⟩ := built_runs_safely fits {} distinct
  have typed : ∀ call ∈ pairCalls, call.HasTypes signature.container signature.out := by
    intro call member
    have wellNamed : call.container.WellNamed ∧ call.fallback.WellNamed := by
      rcases List.mem_pair.mp member with rfl | rfl <;>
        simp [pairValue, Value.WellNamed, Value.EachWellNamed]
    rcases List.mem_pair.mp member with rfl | rfl <;>
      exact ⟨wellNamed.1, by decide, wellNamed.2, by decide⟩
  obtain ⟨inputs, made, ends, -⟩ := safely.closes pairCalls typed
  refine ⟨⟨ty, makes, builds⟩, typed, inputs, made, ends, ?_⟩
  cases made
  rfl

end Function

end Polyflow.Lookup
