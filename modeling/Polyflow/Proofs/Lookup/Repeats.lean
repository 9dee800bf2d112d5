/-
# Records that come again

A record that comes again directly after itself never changes what a node remembers, and
so never changes how a run ends. It is passed over, unless the record does not equal
itself because there is a not-a-number in it. Then it is judged again, and its result
emitted again if the not-a-number is part of the result.
-/

import Polyflow.Proofs.Lookup.Emissions
import Polyflow.Proofs.Lookup.Building

namespace Polyflow.Lookup

variable {out : Ty} {exec next : Exec} {input : Value} {emitted : Option Value}

/-- A record that has a result has the same one under the selector that it pins. -/
theorem judged_again {pinned : Option String} {result : Value}
    (judged : judge out pinned input = .ok result) :
    judge out (inputSelector? input) input = .ok result := by
  rw [judge_inputSelector?]
  exact judged_unpinned judged

/-- The result of a record that equals itself equals itself. -/
theorem hasNaN_of_judged {pinned : Option String} {result : Value} (outNamed : out.WellNamed)
    (inputNamed : input.WellNamed) (itself : input.Equiv input)
    (judged : judge out pinned input = .ok result) : result.hasNaN = false := by
  obtain ⟨result', judged', equal⟩ :=
    judge_of_equiv outNamed inputNamed inputNamed itself judged
  cases judged.symm.trans judged'
  exact (Value.equiv_self_iff (wellNamed_of_judged inputNamed judged)).mp equal

/-- The record that was judged, and its selector, are remembered. -/
theorem afterResult_input (exec : Exec) (input result : Value) :
    (afterResult exec input result).last = some input ∧
      (afterResult exec input result).selector = inputSelector? input := by
  rw [afterResult]
  split <;> exact ⟨rfl, rfl⟩

/-- A node remembers nothing else once the same record was judged again. -/
theorem afterResult_again (exec : Exec) (input result : Value) :
    afterResult (afterResult exec input result) input result = afterResult exec input result := by
  by_cases repeats : exec.result.any (·.equiv result) = true
  · simp [afterResult, repeats]
  · by_cases itself : result.equiv result = true <;> simp [afterResult, repeats, itself]

/-- What is emitted when the same record is judged again. -/
theorem emitted_again {result : Value} (resultNamed : result.WellNamed) :
    (if (afterResult exec input result).result.any (·.equiv result) then none
      else some result) =
      (if exec.result.any (·.equiv result) then none else some result).filter Value.hasNaN := by
  by_cases repeats : exec.result.any (·.equiv result) = true
  · simp [afterResult, repeats]
  · have itself : result.equiv result = !result.hasNaN := by
      rw [Bool.eq_iff_iff, Bool.not_eq_true']
      exact Value.equiv_self_iff resultNamed
    cases holdsNaN : result.hasNaN <;>
      simp [afterResult, repeats, itself, holdsNaN, Option.filter_some]

/-- A record that was just processed leaves the node as it is, and is emitted again only
if there is a not-a-number in what was emitted. -/
theorem step_again (outNamed : out.WellNamed) (inputNamed : input.WellNamed)
    (steps : exec.step out input = .ok (next, emitted)) :
    next.step out input = .ok (next, emitted.filter Value.hasNaN) := by
  rcases step_cases steps with ⟨repeats, rfl, rfl⟩ | ⟨result, -, judged, rfl, rfl⟩
  · exact step_of_repeat repeats
  obtain ⟨isLast, isSelector⟩ := afterResult_input exec input result
  by_cases itself : input.Equiv input
  · have repeats : (afterResult exec input result).last.any (·.equiv input) = true := by
      rw [isLast]
      exact itself
    have isNumber := hasNaN_of_judged outNamed inputNamed itself judged
    rw [step_of_repeat repeats]
    split <;> simp [isNumber, Option.filter_some]
  · have changed : (afterResult exec input result).last.any (·.equiv input) = false := by
      simpa [isLast] using itself
    have judged' : judge out (afterResult exec input result).selector input = .ok result :=
      isSelector ▸ judged_again judged
    rw [step_of_judged changed judged', afterResult_again,
      emitted_again (wellNamed_of_judged inputNamed judged)]

/-- Records that come again directly after themselves, as many times as their number
says. -/
def repeated (runs : List (Value × Nat)) : List Value :=
  runs.flatMap fun run => List.replicate (run.2 + 1) run.1

/-- What becomes of a record that leaves the node as it is, however often it comes. -/
theorem trace_replicate {again : Option Value} (stays : exec.step out input = .ok (exec, again))
    (count : Nat) (rest : List Value) :
    exec.trace out (List.replicate count input ++ rest) =
      List.replicate count (.ok again) ++ exec.trace out rest := by
  induction count with
  | zero => rfl
  | succ count ih =>
      rw [List.replicate_succ, List.cons_append, trace_cons_of_ok stays, ih, List.replicate_succ,
        List.cons_append]

/-- What becomes of a record with a result, and of the records like it that follow. -/
theorem trace_repeated_cons (outNamed : out.WellNamed) (inputNamed : input.WellNamed)
    (steps : exec.step out input = .ok (next, emitted)) (more : Nat)
    (rest : List (Value × Nat)) :
    exec.trace out (repeated ((input, more) :: rest)) =
      .ok emitted :: (List.replicate more (.ok (emitted.filter Value.hasNaN)) ++
        next.trace out (repeated rest)) := by
  rw [← trace_replicate (step_again outNamed inputNamed steps), repeated, List.flatMap_cons,
    List.replicate_succ, List.cons_append, trace_cons_of_ok steps, repeated]

theorem endOf_replicate_ok_append {α : Type} (count : Nat) (value : α)
    (rest : List (Except StreamError α)) :
    endOf (List.replicate count (.ok value) ++ rest) = endOf rest := by
  induction count with
  | zero => rfl
  | succ count ih => exact ih

/-- What is emitted for a record that stays, however often it comes. -/
theorem emissions_replicate_ok_append (count : Nat) (again : Option Value)
    (rest : List (Except StreamError (Option Value))) :
    emissions (List.replicate count (.ok again) ++ rest) =
      (List.replicate count again.toList).flatten ++ emissions rest := by
  induction count with
  | zero => rfl
  | succ count ih =>
      rw [List.replicate_succ, List.cons_append, emissions_ok_cons, ih, List.replicate_succ,
        List.flatten_cons, List.append_assoc]

/-- A run ends alike if records come again. -/
theorem endOf_trace_repeated (outNamed : out.WellNamed) {runs : List (Value × Nat)}
    (runsNamed : ∀ run ∈ runs, run.1.WellNamed) :
    endOf (exec.trace out (repeated runs)) = endOf (exec.trace out (runs.map Prod.fst)) := by
  induction runs generalizing exec with
  | nil => rfl
  | cons run rest ih =>
      obtain ⟨input, more⟩ := run
      obtain ⟨inputNamed, restNamed⟩ := List.forall_mem_cons.mp runsNamed
      cases steps : exec.step out input with
      | error error =>
          simp [repeated, List.replicate_succ, Exec.trace, steps, endOf]
      | ok stepped =>
          obtain ⟨next, emitted⟩ := stepped
          rw [trace_repeated_cons outNamed inputNamed steps, endOf, endOf_replicate_ok_append,
            List.map_cons, trace_cons_of_ok steps]
          exact ih restNamed

/-- No record that comes again emitted a not-a-number the first time. -/
def NumbersOnly (out : Ty) (exec : Exec) (runs : List (Value × Nat)) : Prop :=
  ∀ found ∈ (exec.trace out (runs.map Prod.fst)).zip (runs.map Prod.snd), 0 < found.2 →
    ∀ result, found.1 = .ok (some result) → result.hasNaN = false

theorem numbersOnly_cons (steps : exec.step out input = .ok (next, emitted)) (more : Nat)
    (rest : List (Value × Nat)) :
    NumbersOnly out exec ((input, more) :: rest) ↔
      (0 < more → emitted.filter Value.hasNaN = none) ∧ NumbersOnly out next rest := by
  simp [NumbersOnly, Exec.trace, steps, Option.filter_eq_none_iff]

/-- What a run emits is still emitted if records come again, and in the same order. -/
theorem emissions_sublist_repeated (outNamed : out.WellNamed) {runs : List (Value × Nat)}
    (runsNamed : ∀ run ∈ runs, run.1.WellNamed) :
    (emissions (exec.trace out (runs.map Prod.fst))).Sublist
      (emissions (exec.trace out (repeated runs))) := by
  induction runs generalizing exec with
  | nil => exact List.Sublist.refl _
  | cons run rest ih =>
      obtain ⟨input, more⟩ := run
      obtain ⟨inputNamed, restNamed⟩ := List.forall_mem_cons.mp runsNamed
      cases steps : exec.step out input with
      | error error =>
          simp [repeated, List.replicate_succ, Exec.trace, steps, emissions]
      | ok stepped =>
          obtain ⟨next, emitted⟩ := stepped
          rw [trace_repeated_cons outNamed inputNamed steps, emissions_ok_cons,
            emissions_replicate_ok_append, List.map_cons, trace_cons_of_ok steps,
            emissions_ok_cons]
          exact ((ih restNamed).trans (List.sublist_append_right _ _)).append_left _

theorem flatten_replicate_toList_eq_nil_iff {α : Type} {count : Nat} {item : Option α} :
    (List.replicate count item.toList).flatten = [] ↔ (0 < count → item = none) := by
  cases item <;> cases count <;> simp [List.replicate_succ]

/-- Only nothing can be put before a list that is to be a part of itself. -/
theorem append_eq_iff_of_sublist {α : Type} {extra long short : List α}
    (part : short.Sublist long) : extra ++ long = short ↔ extra = [] ∧ long = short := by
  constructor
  · intro same
    have longer := part.length_le
    have lengths := congrArg List.length same
    rw [List.length_append] at lengths
    have nothing : extra = [] := List.length_eq_zero_iff.mp (by omega)
    rw [nothing] at same
    exact ⟨nothing, same⟩
  · rintro ⟨rfl, rfl⟩
    rfl

/-- A run emits alike if records come again, unless one of those emitted a
not-a-number. -/
theorem emissions_repeated_eq_iff (outNamed : out.WellNamed) {runs : List (Value × Nat)}
    (runsNamed : ∀ run ∈ runs, run.1.WellNamed) :
    emissions (exec.trace out (repeated runs)) = emissions (exec.trace out (runs.map Prod.fst)) ↔
      NumbersOnly out exec runs := by
  induction runs generalizing exec with
  | nil => simp [repeated, NumbersOnly]
  | cons run rest ih =>
      obtain ⟨input, more⟩ := run
      obtain ⟨inputNamed, restNamed⟩ := List.forall_mem_cons.mp runsNamed
      cases steps : exec.step out input with
      | error error =>
          simp [repeated, List.replicate_succ, Exec.trace, steps, emissions, NumbersOnly]
      | ok stepped =>
          obtain ⟨next, emitted⟩ := stepped
          rw [numbersOnly_cons steps, ← ih restNamed,
            trace_repeated_cons outNamed inputNamed steps, emissions_ok_cons,
            emissions_replicate_ok_append, List.map_cons, trace_cons_of_ok steps,
            emissions_ok_cons, List.append_cancel_left_eq,
            append_eq_iff_of_sublist (emissions_sublist_repeated outNamed restNamed),
            flatten_replicate_toList_eq_nil_iff]

/-- A record that comes again leaves what is remembered and the end of the run as they
are. It is emitted again exactly if there is a not-a-number in what it emitted, so a run
emits the same whenever no record that comes again emitted one. -/
theorem repeats_unnoticed_iff (outNamed : out.WellNamed) (exec : Exec) :
    (∀ (input : Value) (next : Exec) (emitted : Option Value), input.WellNamed →
      exec.step out input = .ok (next, emitted) →
        next.step out input = .ok (next, emitted.filter Value.hasNaN)) ∧
    ∀ runs : List (Value × Nat), (∀ run ∈ runs, run.1.WellNamed) →
      endOf (exec.trace out (repeated runs)) = endOf (exec.trace out (runs.map Prod.fst)) ∧
      (emissions (exec.trace out (repeated runs)) =
          emissions (exec.trace out (runs.map Prod.fst)) ↔
        NumbersOnly out exec runs) := by
  apply And.intro
  · intro input next emitted inputNamed steps
    exact step_again outNamed inputNamed steps
  · intro runs runsNamed
    exact ⟨endOf_trace_repeated outNamed runsNamed, emissions_repeated_eq_iff outNamed runsNamed⟩

/-- A record that asks for its member `x`. -/
private def measured (member fallback : UInt64) : Value :=
  argRecord (.record [("x", .float ⟨member⟩)]) "x" (.float ⟨fallback⟩)

private def quietNaN : UInt64 := 0x7FF8000000000000

private theorem measured_wellNamed (member fallback : UInt64) :
    (measured member fallback).WellNamed := by
  have containerNamed : (Value.record [("x", .float ⟨member⟩)]).WellNamed :=
    ⟨List.nodup_singleton _, trivial, trivial⟩
  exact argRecord_wellNamed containerNamed "x" trivial

/-- A not-a-number does no harm in a fallback that is not used, nor in a result of a
record that comes only once. -/
theorem repeats_unnoticed_of_unused_nan :
    let runs := [(measured 0 quietNaN, 2), (measured quietNaN 0, 0), (measured 0 0, 3)]
    (∀ run ∈ runs, run.1.WellNamed) ∧ NumbersOnly (.prim .float) {} runs ∧
      emissions (Exec.trace (.prim .float) {} (repeated runs)) =
        [.float ⟨0⟩, .float ⟨quietNaN⟩, .float ⟨0⟩] := by
  intro runs
  have runsNamed : ∀ run ∈ runs, run.1.WellNamed := by
    simp [runs, measured_wellNamed]
  have floatNamed : (Ty.prim .float).WellNamed := trivial
  have unnoticed := (repeats_unnoticed_iff floatNamed {}).2 runs runsNamed
  have numbers : NumbersOnly (.prim .float) {} runs := unnoticed.2.mp rfl
  exact ⟨runsNamed, numbers, unnoticed.2.mpr numbers⟩

/-- A signature that can be built, and a record that comes twice and is emitted twice. -/
theorem not_forall_repeats_unnoticed :
    let signature : Signature := ⟨.record [("x", .prim .float)], .prim .float⟩
    (∃ built, Function.build {} signature.ty = .ok built ∧ built.1.init = .ok signature) ∧
    (¬ ∀ (input : Value) (next : Exec) (emitted : Option Value), input.WellNamed →
      Exec.step signature.out {} input = .ok (next, emitted) →
        next.step signature.out input = .ok (next, none)) ∧
    ¬ ∀ runs : List (Value × Nat), (∀ run ∈ runs, run.1.WellNamed) →
      emissions (Exec.trace signature.out {} (repeated runs)) =
        emissions (Exec.trace signature.out {} (runs.map Prod.fst)) := by
  intro signature
  refine ⟨⟨_, rfl, rfl⟩, fun unnoticed => ?_, fun unnoticed => ?_⟩
  · have passed := unnoticed (measured quietNaN 0) _ _ (measured_wellNamed _ _) rfl
    cases congrArg (·.toOption.map Prod.snd) passed
  · have same := unnoticed [(measured quietNaN 0, 1)] (by simp [measured_wellNamed])
    cases congrArg List.length same

end Polyflow.Lookup
