/-
# A run and its beginnings

What a node remembers after some records is all that the rest of the run depends
on. So a run on more records does what it did on the first of them and goes on from
there, unless it had already ended, and what it has emitted so far is a beginning of
what it emits in the end.
-/

import Polyflow.Proofs.Lookup.Emissions

namespace Polyflow.Lookup

open Polyflow.Node (Exit)

/-- What a node remembers after some records, or the error that ended the run. -/
def Exec.after (out : Ty) (exec : Exec) (inputs : List Value) : Except StreamError Exec :=
  inputs.foldlM (fun exec input => (exec.step out input).map Prod.fst) exec

variable {out : Ty} {exec later : Exec} {input : Value} {first second : List Value}
  {error : StreamError}

theorem after_cons (out : Ty) (exec : Exec) (input : Value) (rest : List Value) :
    exec.after out (input :: rest) =
      match exec.step out input with
      | .ok (next, _) => next.after out rest
      | .error error => .error error := by
  rw [Exec.after, List.foldlM_cons]
  cases exec.step out input <;> rfl

theorem after_append_of_ok (goesOn : exec.after out first = .ok later) :
    exec.after out (first ++ second) = later.after out second := by
  rw [Exec.after] at goesOn
  rw [Exec.after, List.foldlM_append, goesOn]
  rfl

/-- A run that has not ended goes on from what it remembers. -/
theorem trace_append_of_ok (goesOn : exec.after out first = .ok later) :
    exec.trace out (first ++ second) = exec.trace out first ++ later.trace out second := by
  induction first generalizing exec with
  | nil =>
      cases goesOn
      rfl
  | cons input rest ih =>
      rw [after_cons] at goesOn
      rw [List.cons_append, Exec.trace, Exec.trace]
      cases stepped : exec.step out input with
      | error error =>
          rw [stepped] at goesOn
          cases goesOn
      | ok outcome =>
          rw [stepped] at goesOn
          exact congrArg _ (ih goesOn)

/-- A run that has ended takes no more records. -/
theorem trace_append_of_error (ends : exec.after out first = .error error) :
    exec.trace out (first ++ second) = exec.trace out first := by
  induction first generalizing exec with
  | nil => cases ends
  | cons input rest ih =>
      rw [after_cons] at ends
      rw [List.cons_append, Exec.trace, Exec.trace]
      cases stepped : exec.step out input with
      | error error => rfl
      | ok outcome =>
          rw [stepped] at ends
          exact congrArg _ (ih ends)

/-- A run ends without an error exactly when something is remembered after it. -/
theorem endOf_trace (out : Ty) (exec : Exec) (inputs : List Value) :
    endOf (exec.trace out inputs) = (exec.after out inputs).map fun _ => Exit.closed := by
  induction inputs generalizing exec with
  | nil => rfl
  | cons input rest ih =>
      rw [after_cons, Exec.trace]
      cases exec.step out input with
      | error error => rfl
      | ok outcome => exact ih outcome.1

theorem emissions_append (before behind : List (Except StreamError (Option Value))) :
    emissions (before ++ behind) = emissions before ++ emissions behind :=
  List.filterMap_append

/-- More records never change what was emitted before. -/
theorem emissions_trace_prefix (out : Ty) (exec : Exec) (first second : List Value) :
    emissions (exec.trace out first) <+: emissions (exec.trace out (first ++ second)) := by
  cases ended : exec.after out first with
  | ok later =>
      rw [trace_append_of_ok ended, emissions_append]
      exact List.prefix_append _ _
  | error error =>
      simp only [trace_append_of_error ended, List.prefix_refl]

theorem after_concat_of_ok {emitted : Option Value} {next : Exec}
    (goesOn : exec.after out first = .ok later)
    (steps : later.step out input = .ok (next, emitted)) :
    exec.after out (first ++ [input]) = .ok next ∧
      emissions (exec.trace out (first ++ [input])) =
        emissions (exec.trace out first) ++ emitted.toList := by
  apply And.intro
  · rw [after_append_of_ok goesOn, after_cons, steps]
    rfl
  · rw [trace_append_of_ok goesOn, emissions_append, Exec.trace, steps]
    cases emitted <;> rfl

theorem after_concat_of_error (goesOn : exec.after out first = .ok later)
    (fails : later.step out input = .error error) :
    exec.after out (first ++ [input]) = .error error ∧
      emissions (exec.trace out (first ++ [input])) = emissions (exec.trace out first) := by
  apply And.intro
  · rw [after_append_of_ok goesOn, after_cons, fails]
  · rw [trace_append_of_ok goesOn, emissions_append, Exec.trace, fails]
    exact List.append_nil _

end Polyflow.Lookup
