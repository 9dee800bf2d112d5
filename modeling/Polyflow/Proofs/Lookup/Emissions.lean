/-
# What a run emits

A running node suppresses twice: it does not look into a record that repeats the
last one, and it does not emit a result that repeats the last one. Only the second
of these can be told from outside. This module says what a run emits and how it
ends by judging each record for itself, and shows that the node does exactly that.
A record that repeats another one would be judged alike, although a record need
not equal itself.
-/

import Polyflow.Lookup.Exec
import Polyflow.Node.Loop
import Polyflow.Proofs.Value.Equality

namespace Polyflow.Lookup

open Polyflow.Node (Exit)

/-- The selector of a record, if it has one. -/
def inputSelector? (input : Value) : Option String :=
  (input.members?.bind (·.lookup Arg.selector.name)).bind Value.text?

/-- The result of a record or its offence, under a return type and the selector that
is pinned, if any. -/
def judge (out : Ty) (pinned : Option String) : Value → Except StreamError Value
  | .record members =>
    match members.lookup Arg.container.name with
    | some (.record container) =>
      match members.lookup Arg.selector.name with
      | some (.text selector) =>
        match members.lookup Arg.fallback.name with
        | some fallback =>
          if selector = "" then .error .emptySelector
          else
            match pinned.filter (· != selector) with
            | some other => .error (.selectorChanged other selector)
            | none =>
              let result := (container.lookup selector).getD fallback
              match out.conflict? result.ty with
              | some cause => .error (.resultType cause)
              | none => .ok result
        | none => .error (.missingArg .fallback)
      | some other => .error (.wrongKind .selector other.ty)
      | none => .error (.missingArg .selector)
    | some other => .error (.wrongKind .container other.ty)
    | none => .error (.missingArg .container)
  | other => .error (.wrongKind .input other.ty)

/-- Each record of a run judged under the selector of the first one. -/
def judgements (out : Ty) (inputs : List Value) : List (Except StreamError Value) :=
  inputs.map (judge out (inputs.head?.bind inputSelector?))

/-- The results up to the first offence. -/
def resultsOf : List (Except StreamError Value) → List Value
  | .ok result :: rest => result :: resultsOf rest
  | _ => []

/-- The results without those that equal the last one kept. -/
def changes (kept : Option Value) : List Value → List Value
  | [] => []
  | result :: rest =>
    if kept.any (·.equiv result) then changes kept rest else result :: changes (some result) rest

/-- The end of a run: the first offence, or the end of the input. -/
def endOf {α : Type} : List (Except StreamError α) → Except StreamError Exit
  | [] => .ok .closed
  | .ok _ :: rest => endOf rest
  | .error error :: _ => .error error

/-- What was emitted in a trace. -/
def emissions (trace : List (Except StreamError (Option Value))) : List Value :=
  trace.filterMap fun outcome => outcome.toOption.join

theorem ok_bind {ε α β : Type} (value : α) (rest : α → Except ε β) :
    (Except.ok value >>= rest) = rest value := rfl

theorem error_bind {ε α β : Type} (error : ε) (rest : α → Except ε β) :
    (Except.error error >>= rest) = .error error := rfl

theorem throw_eq_error {ε α : Type} (error : ε) : (throw error : Except ε α) = .error error := rfl

/-- The records that have a result. -/
theorem judge_eq_ok_iff {out : Ty} {pinned : Option String} {input result : Value} :
    judge out pinned input = .ok result ↔
      ∃ members container selector fallback, input = .record members ∧
        members.lookup Arg.container.name = some (.record container) ∧
        members.lookup Arg.selector.name = some (.text selector) ∧
        members.lookup Arg.fallback.name = some fallback ∧
        selector ≠ "" ∧ (∀ other, pinned = some other → other = selector) ∧
        (container.lookup selector).getD fallback = result ∧ out.Agrees result.ty := by
  apply Iff.intro
  · fun_cases judge out pinned input with
    | case4 members container hasContainer selector hasSelector fallback hasFallback nonempty same
        answer agrees =>
        intro judged
        have same : ∀ other, pinned = some other → other = selector := by
          simpa [Option.filter_eq_none_iff] using same
        exact ⟨members, container, selector, fallback, rfl, hasContainer, hasSelector, hasFallback,
          nonempty, same, Except.ok.inj judged, Except.ok.inj judged ▸ agrees⟩
    | _ =>
        intro judged
        cases judged
  · intro hasResult
    rcases hasResult with ⟨members, container, selector, fallback, rfl, hasContainer, hasSelector,
      hasFallback, nonempty, same, rfl, agrees⟩
    have nothing : pinned.filter (· != selector) = none := by
      simpa [Option.filter_eq_none_iff] using same
    rw [Ty.Agrees] at agrees
    simp only [judge, hasContainer, hasSelector, hasFallback, nonempty, nothing, if_false, agrees]

/-- The record that carries the arguments of an application. -/
def argRecord (container : Value) (selector : String) (fallback : Value) : Value :=
  .record [(Arg.container.name, container), (Arg.selector.name, .text selector),
    (Arg.fallback.name, fallback)]

/-- The names of the arguments are distinct, whatever they are. -/
theorem input_eq_ok (container : Value) (selector : String) (fallback : Value) :
    input container selector fallback = .ok (argRecord container selector fallback) := rfl

theorem argRecord_wellNamed {container fallback : Value} (containerNamed : container.WellNamed)
    (selector : String) (fallbackNamed : fallback.WellNamed) :
    (argRecord container selector fallback).WellNamed := by
  simp [argRecord, Value.WellNamed, Value.EachWellNamed, Arg.name, containerNamed, fallbackNamed]

/-- Arguments with a result of the return type have this result. -/
theorem judge_argRecord {out : Ty} {items : List (String × Value)} {selector : String}
    {fallback : Value} (nonempty : selector ≠ "")
    (agrees : out.Agrees ((items.lookup selector).getD fallback).ty) :
    judge out (some selector) (argRecord (.record items) selector fallback) =
      .ok ((items.lookup selector).getD fallback) :=
  judge_eq_ok_iff.mpr ⟨_, items, selector, fallback, rfl, rfl, rfl, rfl, nonempty, by simp, rfl,
    agrees⟩

theorem checkSelector_eq (exec : Exec) (selector : String) :
    exec.checkSelector selector =
      if selector = "" then .error .emptySelector
      else match exec.selector.filter (· != selector) with
        | some other => .error (.selectorChanged other selector)
        | none => .ok () := by
  rw [Exec.checkSelector]
  cases exec.selector with
  | none => rfl
  | some pinned => by_cases same : pinned = selector <;> simp [Option.filter, same]

/-- A record that repeats the last one is passed over. -/
theorem step_of_repeat {out : Ty} {exec : Exec} {input : Value}
    (repeats : exec.last.any (·.equiv input) = true) : exec.step out input = .ok (exec, none) := by
  rw [Exec.step, if_pos repeats]
  rfl

/-- Any other record is judged under the pinned selector, and its result emitted if
it does not repeat the last one. -/
theorem step_eq_map_judge {out : Ty} {exec : Exec} {input : Value}
    (changed : exec.last.any (·.equiv input) = false) :
    exec.step out input = (judge out exec.selector input).map fun result =>
      let seen := { exec with last := some input, selector := inputSelector? input }
      if exec.result.any (·.equiv result) then (seen, none)
      else ({ seen with result := some result }, some result) := by
  simp only [Exec.step, changed, checkSelector_eq, Request.ofInput?, Request.arg]
  fun_cases judge out exec.selector input <;>
    simp +zetaDelta [Value.members?, Value.text?, inputSelector?, Except.map, Request.answer,
      ok_bind, error_bind, throw_eq_error, *]
  case case4 => exact (apply_ite Except.ok _ _ _).symm

/-- The first record is not judged otherwise for pinning its own selector. -/
theorem judge_inputSelector? (out : Ty) (input : Value) :
    judge out (inputSelector? input) input = judge out none input := by
  fun_cases judge out none input <;>
    simp +zetaDelta [judge, inputSelector?, Value.members?, Value.text?, Option.filter, *]
  case case2 pinnedBefore => cases pinnedBefore

/-- The selector of a record that has a result. -/
theorem inputSelector?_of_judged {out : Ty} {pinned : Option String} {input result : Value}
    (judged : judge out pinned input = .ok result) :
    ∃ selector, inputSelector? input = some selector ∧
      ∀ other, pinned = some other → other = selector := by
  obtain ⟨members, _, selector, _, rfl, -, hasSelector, -, -, same, -, -⟩ :=
    judge_eq_ok_iff.mp judged
  exact ⟨selector, by simp [inputSelector?, Value.members?, hasSelector, Value.text?], same⟩

/-- A record that has a result has it whatever selector is pinned, or none. -/
theorem judged_unpinned {out : Ty} {pinned : Option String} {input result : Value}
    (judged : judge out pinned input = .ok result) : judge out none input = .ok result := by
  obtain ⟨members, container, selector, fallback, isRecord, hasContainer, hasSelector,
    hasFallback, nonempty, -, isResult⟩ := judge_eq_ok_iff.mp judged
  exact judge_eq_ok_iff.mpr ⟨members, container, selector, fallback, isRecord, hasContainer,
    hasSelector, hasFallback, nonempty, by simp, isResult⟩

theorem wellNamed_getD_lookup {container : List (String × Value)} {selector : String}
    {fallback : Value} (containerNamed : (Value.record container).WellNamed)
    (fallbackNamed : fallback.WellNamed) :
    ((container.lookup selector).getD fallback).WellNamed := by
  cases found : container.lookup selector with
  | none => exact fallbackNamed
  | some item => exact containerNamed.member found

/-- The result of a record is part of it. -/
theorem wellNamed_of_judged {out : Ty} {pinned : Option String} {input result : Value}
    (wellNamed : input.WellNamed) (judged : judge out pinned input = .ok result) :
    result.WellNamed := by
  obtain ⟨members, container, selector, fallback, rfl, hasContainer, -, hasFallback, -, -, rfl,
    -⟩ := judge_eq_ok_iff.mp judged
  exact wellNamed_getD_lookup (wellNamed.member hasContainer) (wellNamed.member hasFallback)

/-- The same selector finds equal items in matching members, or equal fallbacks. -/
theorem equiv_getD_lookup {container container' : List (String × Value)}
    {fallback fallback' : Value} (matched : Matched Value.Equiv container container')
    (fallbacks : fallback.Equiv fallback') (selector : String) :
    ((container.lookup selector).getD fallback).Equiv
      ((container'.lookup selector).getD fallback') := by
  have items := matched selector
  cases found : container.lookup selector with
  | none =>
      cases found' : container'.lookup selector with
      | none => exact fallbacks
      | some item => simp [found, found'] at items
  | some item =>
      obtain ⟨item', found', related⟩ := exists_right_of_rel items found
      rw [found']
      exact related

/-- Equal records have equal results. -/
theorem judge_of_equiv {out : Ty} {pinned : Option String} {last input result : Value}
    (outNamed : out.WellNamed) (lastNamed : last.WellNamed) (inputNamed : input.WellNamed)
    (equal : last.Equiv input) (judged : judge out pinned last = .ok result) :
    ∃ result', judge out pinned input = .ok result' ∧ result.Equiv result' := by
  have resultNamed := wellNamed_of_judged lastNamed judged
  obtain ⟨members, container, selector, fallback, rfl, hasContainer, hasSelector, hasFallback,
    nonempty, same, isResult, agrees⟩ := judge_eq_ok_iff.mp judged
  obtain ⟨members', rfl⟩ := Value.exists_record_of_equiv equal
  have matched := (Value.record_equiv_record lastNamed inputNamed).mp equal
  obtain ⟨value, hasContainer', containers⟩ := exists_right_of_rel (matched _) hasContainer
  obtain ⟨container', rfl⟩ := Value.exists_record_of_equiv containers
  obtain ⟨value, hasSelector', selectors⟩ := exists_right_of_rel (matched _) hasSelector
  have sameText := Value.eq_of_equiv selectors (by simp) (by simp)
  subst sameText
  obtain ⟨fallback', hasFallback', fallbacks⟩ := exists_right_of_rel (matched _) hasFallback
  have matched' := (Value.record_equiv_record (lastNamed.member hasContainer)
    (inputNamed.member hasContainer')).mp containers
  have results : result.Equiv ((container'.lookup selector).getD fallback') := by
    rw [← isResult]
    exact equiv_getD_lookup matched' fallbacks selector
  have agrees' : out.Agrees ((container'.lookup selector).getD fallback').ty := by
    have resultNamed' : ((container'.lookup selector).getD fallback').WellNamed :=
      wellNamed_getD_lookup (inputNamed.member hasContainer') (inputNamed.member hasFallback')
    exact agrees.trans_equiv (results.ty resultNamed resultNamed') outNamed resultNamed.ty
      resultNamed'.ty
  exact ⟨_, judge_eq_ok_iff.mpr ⟨members', container', selector, fallback', rfl, hasContainer',
    hasSelector', hasFallback', nonempty, same, rfl, agrees'⟩, results⟩

/-- What a node remembers after a record with a result, under the selector that is
pinned. The result kept is that of the last record or equals it: not-a-number is
kept although it does not equal itself. -/
structure Coherent (out : Ty) (pinned : String) (exec : Exec) : Prop where
  selector : exec.selector = some pinned
  last : ∃ input result kept, exec.last = some input ∧ exec.result = some kept ∧
    input.WellNamed ∧ kept.WellNamed ∧ judge out (some pinned) input = .ok result ∧
    (kept = result ∨ kept.Equiv result)

/-- A record that repeats the last one has a result that repeats the one kept. -/
theorem Coherent.judge_of_repeat {out : Ty} {pinned : String} {exec : Exec} {input : Value}
    (coherent : Coherent out pinned exec) (outNamed : out.WellNamed) (inputNamed : input.WellNamed)
    (repeats : exec.last.any (·.equiv input) = true) :
    ∃ result, judge out (some pinned) input = .ok result ∧
      exec.result.any (·.equiv result) = true := by
  obtain ⟨last, before, kept, isLast, isKept, lastNamed, keptNamed, judged, keptBefore⟩ :=
    coherent.last
  rw [isLast, Option.any_some] at repeats
  obtain ⟨result, judged', equal⟩ :=
    judge_of_equiv outNamed lastNamed inputNamed repeats judged
  refine ⟨result, judged', ?_⟩
  rw [isKept, Option.any_some]
  rcases keptBefore with rfl | equalBefore
  · exact equal
  · exact equalBefore.trans equal keptNamed (wellNamed_of_judged lastNamed judged)
      (wellNamed_of_judged inputNamed judged')

/-- What a node remembers once a record was judged. -/
def afterResult (exec : Exec) (input result : Value) : Exec :=
  let seen := { exec with last := some input, selector := inputSelector? input }
  if exec.result.any (·.equiv result) then seen else { seen with result := some result }

/-- Coherence is reached by the first record with a result, and kept by each. -/
theorem coherent_afterResult {out : Ty} {pinned : String} {exec : Exec} {input result : Value}
    (judged : judge out (some pinned) input = .ok result) (inputNamed : input.WellNamed)
    (keptNamed : ∀ kept, exec.result = some kept → kept.WellNamed) :
    Coherent out pinned (afterResult exec input result) := by
  obtain ⟨selector, isSelector, same⟩ := inputSelector?_of_judged judged
  have isPinned := same pinned rfl
  subst isPinned
  rw [afterResult]
  split
  case isTrue repeats =>
    obtain ⟨kept, isKept, equal⟩ := (Option.any_eq_true _ _).mp repeats
    exact ⟨isSelector, input, result, kept, rfl, isKept, inputNamed, keptNamed kept isKept, judged,
      .inr equal⟩
  case isFalse =>
    exact ⟨isSelector, input, result, result, rfl, rfl, inputNamed,
      wellNamed_of_judged inputNamed judged, judged, .inl rfl⟩

theorem step_of_judged {out : Ty} {exec : Exec} {input result : Value}
    (changed : exec.last.any (·.equiv input) = false)
    (judged : judge out exec.selector input = .ok result) :
    exec.step out input = .ok (afterResult exec input result,
      if exec.result.any (·.equiv result) then none else some result) := by
  rw [step_eq_map_judge changed, judged, Except.map, afterResult]
  split <;> rfl

/-- What a step does without an error: it passes over a record that repeats the last one,
and judges any other. -/
theorem step_cases {out : Ty} {exec next : Exec} {input : Value} {emitted : Option Value}
    (steps : exec.step out input = .ok (next, emitted)) :
    (exec.last.any (·.equiv input) = true ∧ next = exec ∧ emitted = none) ∨
      ∃ result, exec.last.any (·.equiv input) = false ∧
        judge out exec.selector input = .ok result ∧ next = afterResult exec input result ∧
        emitted = if exec.result.any (·.equiv result) then none else some result := by
  cases repeats : exec.last.any (·.equiv input) with
  | true =>
      rw [step_of_repeat repeats] at steps
      cases steps
      exact .inl ⟨rfl, rfl, rfl⟩
  | false =>
      cases judged : judge out exec.selector input with
      | error error =>
          rw [step_eq_map_judge repeats, judged] at steps
          cases steps
      | ok result =>
          rw [step_of_judged repeats judged] at steps
          cases steps
          exact .inr ⟨result, rfl, rfl, rfl, rfl⟩

theorem trace_cons_of_ok {out : Ty} {exec next : Exec} {input : Value} {emitted : Option Value}
    (steps : exec.step out input = .ok (next, emitted)) (rest : List Value) :
    exec.trace out (input :: rest) = .ok emitted :: next.trace out rest := by
  rw [Exec.trace, steps]

theorem emissions_ok_cons (emitted : Option Value)
    (rest : List (Except StreamError (Option Value))) :
    emissions (.ok emitted :: rest) = emitted.toList ++ emissions rest := by
  cases emitted <;> rfl

/-- What a node emits for a judged record is what remains of it among the changes. -/
theorem changes_cons (exec : Exec) (input result : Value) (rest : List Value) :
    changes exec.result (result :: rest) =
      (if exec.result.any (·.equiv result) then none else some result).toList ++
        changes (afterResult exec input result).result rest := by
  rw [changes, afterResult]
  split <;> rfl

/-- From a coherent state on, a run emits the changes among the results of its
records, judged one by one, and ends with the first offence. -/
theorem trace_of_coherent {out : Ty} {pinned : String} {exec : Exec} {inputs : List Value}
    (coherent : Coherent out pinned exec) (outNamed : out.WellNamed)
    (inputsNamed : ∀ input ∈ inputs, input.WellNamed) :
    emissions (exec.trace out inputs) =
        changes exec.result (resultsOf (inputs.map (judge out (some pinned)))) ∧
      endOf (exec.trace out inputs) = endOf (inputs.map (judge out (some pinned))) := by
  induction inputs generalizing exec with
  | nil => exact ⟨rfl, rfl⟩
  | cons input rest ih =>
      obtain ⟨inputNamed, restNamed⟩ := List.forall_mem_cons.mp inputsNamed
      rw [List.map_cons, Exec.trace]
      cases repeats : exec.last.any (·.equiv input) with
      | true =>
          obtain ⟨result, judged, unchanged⟩ :=
            coherent.judge_of_repeat outNamed inputNamed repeats
          obtain ⟨emitted, ends⟩ := ih coherent restNamed
          rw [step_of_repeat repeats, judged, resultsOf, changes, if_pos unchanged]
          exact ⟨emitted, ends⟩
      | false =>
          cases judged : judge out (some pinned) input with
          | error error =>
              rw [step_eq_map_judge repeats, coherent.selector, judged]
              exact ⟨rfl, rfl⟩
          | ok result =>
              rcases coherent.last with ⟨_, _, kept, _, isKept, _, keptNamed, -⟩
              have next : Coherent out pinned (afterResult exec input result) :=
                coherent_afterResult judged inputNamed fun kept' isKept' => by
                  rw [isKept, Option.some.injEq] at isKept'
                  exact isKept' ▸ keptNamed
              obtain ⟨emitted, ends⟩ := ih next restNamed
              rw [step_of_judged repeats (coherent.selector ▸ judged), resultsOf,
                changes_cons exec input, ← emitted]
              exact ⟨emissions_ok_cons _ _, ends⟩

theorem resultsOf_map_ok (results : List Value) : resultsOf (results.map .ok) = results := by
  induction results with
  | nil => rfl
  | cons result rest ih => rw [List.map_cons, resultsOf, ih]

theorem endOf_map_ok {α : Type} (values : List α) : endOf (values.map .ok) = .ok .closed := by
  induction values with
  | nil => rfl
  | cons value rest ih => exact ih

/-- A run whose records all have results under one selector emits the changes among these
results, and goes on until the input is closed. -/
theorem trace_of_judged {out : Ty} (outNamed : out.WellNamed) {selector : String}
    {inputs results : List Value} (inputsNamed : ∀ input ∈ inputs, input.WellNamed)
    (judged : inputs.map (judge out (some selector)) = results.map .ok) :
    emissions (Exec.trace out {} inputs) = changes none results ∧
      endOf (Exec.trace out {} inputs) = .ok .closed := by
  cases inputs with
  | nil =>
      rw [List.map_nil, List.nil_eq, List.map_eq_nil_iff] at judged
      rw [judged]
      exact ⟨rfl, rfl⟩
  | cons first rest =>
      obtain ⟨firstNamed, restNamed⟩ := List.forall_mem_cons.mp inputsNamed
      cases results with
      | nil => cases judged
      | cons result others =>
          obtain ⟨judgedFirst, judgedRest⟩ := List.cons.inj judged
          have coherent : Coherent out selector (afterResult {} first result) :=
            coherent_afterResult judgedFirst firstNamed (by simp)
          obtain ⟨emitted, ends⟩ := trace_of_coherent coherent outNamed restNamed
          rw [judgedRest] at emitted ends
          rw [resultsOf_map_ok] at emitted
          rw [Exec.trace, step_of_judged rfl (judged_unpinned judgedFirst)]
          refine ⟨?_, ends.trans (endOf_map_ok others)⟩
          rw [emissions_ok_cons, emitted]
          exact (changes_cons {} first result others).symm

/-- A run emits the changes among the results of its records, each judged for itself
under the selector of the first one, and ends with the first offence, or when the
input does. -/
theorem trace_eq_judgements {out : Ty} (outNamed : out.WellNamed) {inputs : List Value}
    (inputsNamed : ∀ input ∈ inputs, input.WellNamed) :
    emissions (Exec.trace out {} inputs) = changes none (resultsOf (judgements out inputs)) ∧
      endOf (Exec.trace out {} inputs) = endOf (judgements out inputs) := by
  cases inputs with
  | nil => exact ⟨rfl, rfl⟩
  | cons first rest =>
      obtain ⟨firstNamed, restNamed⟩ := List.forall_mem_cons.mp inputsNamed
      rw [judgements, List.head?_cons, Option.bind_some, List.map_cons, judge_inputSelector?,
        Exec.trace]
      cases judged : judge out none first with
      | error error =>
          rw [step_eq_map_judge rfl, judged]
          exact ⟨rfl, rfl⟩
      | ok result =>
          obtain ⟨selector, isSelector, -⟩ := inputSelector?_of_judged judged
          rw [isSelector]
          have judged' : judge out (some selector) first = .ok result := by
            rw [← isSelector, judge_inputSelector?, judged]
          have coherent : Coherent out selector (afterResult {} first result) :=
            coherent_afterResult judged' firstNamed (by simp)
          obtain ⟨emitted, ends⟩ := trace_of_coherent coherent outNamed restNamed
          rw [step_of_judged rfl judged, resultsOf]
          refine ⟨?_, ends⟩
          rw [emissions_ok_cons, emitted]
          exact (changes_cons {} first result _).symm

/-- A record that asks for a member of a record of numbers, or else for zero. -/
private def numberInput (members : List (String × UInt64)) (selector : String) : Value :=
  .record [("struct", .record (members.map fun entry => (entry.1, .float ⟨entry.2⟩))),
    ("field", .text selector), ("optional", .float ⟨0⟩)]

private def oneBits : UInt64 := 0x3FF0000000000000

private def nanBits : UInt64 := 0x7FF8000000000000

/-- The second record repeats the first one in another order, the third one has the
same result, the fourth and the fifth do not equal themselves, and the sixth one
changes the selector. -/
private def numberInputs : List Value :=
  [numberInput [("x", oneBits), ("y", 0)] "x", numberInput [("y", 0), ("x", oneBits)] "x",
    numberInput [("x", oneBits)] "x", numberInput [("x", nanBits)] "x",
    numberInput [("x", nanBits)] "x", numberInput [("x", oneBits)] "y",
    numberInput [("x", oneBits)] "x"]

theorem trace_eq_judgements_of_numbers :
    (Ty.prim .float).WellNamed ∧ (∀ input ∈ numberInputs, input.WellNamed) ∧
      emissions (Exec.trace (.prim .float) {} numberInputs) =
        [.float ⟨oneBits⟩, .float ⟨nanBits⟩, .float ⟨nanBits⟩] ∧
      endOf (Exec.trace (.prim .float) {} numberInputs) = .error (.selectorChanged "x" "y") := by
  have outNamed : (Ty.prim .float).WellNamed := trivial
  have inputsNamed : ∀ input ∈ numberInputs, input.WellNamed := by
    simp [numberInputs, numberInput, Value.WellNamed, Value.EachWellNamed]
  obtain ⟨emitted, ends⟩ := trace_eq_judgements outNamed inputsNamed
  exact ⟨outNamed, inputsNamed, emitted.trans rfl, ends.trans rfl⟩

end Polyflow.Lookup
