/-
# Why a round fails

A round may fail because it has nothing to work with: its call is not recorded yet, or
not with three arguments. Once an application is recorded, it fails only over what is
known of its expressions. Then either the types tell different things, or one of them
is of a kind that the function cannot take.
-/

import Polyflow.Proofs.Infer.Satisfaction
import Polyflow.Proofs.Lookup.Derivation

namespace Polyflow

namespace RoundError

/-- The failure is over what is known, and says what contradicts what. -/
def IsConflict : RoundError → Prop
  | .unexpectedKind _ _ _ => True
  | .inconsistent _ => True
  | .noProgress => False
  | .arity _ _ => False
  | .shape _ => False

end RoundError

/-- A bind fails when its first part does or the rest does. -/
theorem Round.runIn_bind_eq_error {α β : Type} {first : Round α} {rest : α → Round β}
    {context after : Context} {error : RoundError} :
    Round.runIn (first >>= rest) context = (.error error, after) ↔
      first.runIn context = (.error error, after) ∨
        ∃ value middle, first.runIn context = (.ok value, middle) ∧
          (rest value).runIn middle = (.error error, after) := by
  rw [Round.runIn_bind]
  cases first.runIn context with
  | mk outcome middle => cases outcome <;> simp

end Polyflow

namespace Polyflow.Lookup

variable {ρ : Type}

/-- A bind fails when its first part does or the rest does. -/
theorem bind_eq_error {ε α β : Type} {first : Except ε α} {rest : α → Except ε β} {error : ε} :
    first >>= rest = .error error ↔
      first = .error error ∨ ∃ middle, first = .ok middle ∧ rest middle = .error error := by
  cases first <;> simp [bind, Except.bind]

/-- A fold fails only because one of its steps does. -/
theorem exists_of_foldlM_eq_error {ε α β : Type} {step : β → α → Except ε β} {items : List α}
    {start : β} {error : ε} (fails : items.foldlM step start = .error error) :
    ∃ state, ∃ item ∈ items, step state item = .error error := by
  induction items generalizing start with
  | nil => cases fails
  | cons first rest ih =>
      rw [List.foldlM_cons, bind_eq_error] at fails
      rcases fails with here | ⟨middle, -, later⟩
      · exact ⟨start, first, List.mem_cons_self, here⟩
      · obtain ⟨state, item, member, here⟩ := ih later
        exact ⟨state, item, List.mem_cons_of_mem _ member, here⟩

theorem isConflict_of_selectorOf {known : List (Source × Ty)} {arg : Expr} {error : RoundError}
    (fails : selectorOf known arg = .error error) : error.IsConflict := by
  induction known with
  | nil => cases fails
  | cons entry rest ih =>
      rw [selectorOf_cons] at fails
      split at fails
      case isTrue => exact ih fails
      case isFalse =>
        cases fails
        trivial

namespace Findings

theorem isConflict_of_learnResult {what : String} {findings : Findings} {known : Source × Ty}
    {error : RoundError} (fails : findings.learnResult what known = .error error) :
    error.IsConflict := by
  rw [learnResult] at fails
  split at fails
  case h_1 => cases fails
  case h_2 =>
    cases fails
    trivial

theorem isConflict_of_learnContainer {selector : Option String} {findings : Findings}
    {known : Source × Ty} {error : RoundError}
    (fails : findings.learnContainer selector known = .error error) : error.IsConflict := by
  rcases known with ⟨source, ty⟩
  cases ty with
  | unknown => cases fails
  | prim kind =>
      cases fails
      trivial
  | func args ret =>
      cases fails
      trivial
  | record members =>
      simp only [learnContainer] at fails
      split at fails
      case h_1 =>
        rcases bind_eq_error.mp fails with ofMember | ⟨_, -, ofRecord⟩
        · exact isConflict_of_learnResult ofMember
        · split at ofRecord
          · cases ofRecord
          · cases ofRecord
            trivial
      case h_2 =>
        rcases bind_eq_error.mp fails with never | ⟨_, -, ofRecord⟩
        · cases never
        · split at ofRecord
          · cases ofRecord
          · cases ofRecord
            trivial

theorem isConflict_of_gather {selector : Option String}
    {container fallback ret : List (Source × Ty)} {error : RoundError}
    (fails : gather selector container fallback ret = .error error) :
    error.IsConflict := by
  simp only [gather, bind_eq_error] at fails
  rcases fails with ofContainer | ⟨_, -, ofFallback | ⟨_, -, ofRet⟩⟩
  · obtain ⟨_, _, -, here⟩ := exists_of_foldlM_eq_error ofContainer
    exact isConflict_of_learnContainer here
  · obtain ⟨_, _, -, here⟩ := exists_of_foldlM_eq_error ofFallback
    exact isConflict_of_learnResult here
  · obtain ⟨_, _, -, here⟩ := exists_of_foldlM_eq_error ofRet
    exact isConflict_of_learnResult here

end Findings

namespace Slots

/-- Once an application is recorded, a round fails only over what is known of it: the
record can always be taken apart, since its names are distinct. -/
theorem isConflict_of_derive {slots : Slots} {site : Expr} {app : Application}
    {facts : List (Constraint ρ)} {solution : Solution} {context : Context} {error : RoundError}
    (recorded : app.RecordedAt site facts) (wellNamed : app.WellNamed context solution)
    (fails : ((slots.derive site facts solution).runIn context).1 = .error error) :
    error.IsConflict := by
  rcases recorded with ⟨record, found, -, args⟩
  obtain ⟨after, ran⟩ : ∃ after,
      (slots.derive site facts solution).runIn context = (.error error, after) :=
    ⟨_, Prod.ext fails rfl⟩
  simp only [derive, found] at ran
  rw [args] at ran
  simp only [Round.runIn_bind_eq_error, Round.runIn_getThe, Round.runIn_mk_pure, Round.runIn_pure,
    Prod.mk.injEq, reduceCtorEq, false_and, false_or, and_false, exists_false, or_false,
    Except.ok.injEq] at ran
  rcases ran with ⟨_, _, ⟨rfl, rfl⟩, ⟨ofSelector, -⟩ | ⟨_, _, ⟨-, rfl⟩, ⟨ofFindings, -⟩ |
    ⟨findings, _, ⟨gathers, rfl⟩, ofRecord⟩⟩⟩
  · exact isConflict_of_selectorOf ofSelector
  · exact Findings.isConflict_of_gather ofFindings
  · obtain ⟨-, -, -, rfl⟩ := Findings.gather_eq_ok_iff.mp gathers
    have foundNamed (ty : Ty) (holds : (Knowledge.after {}
        (app.containerHistory context solution)).ty? = some ty) : ty.WellNamed :=
      Knowledge.kept_of_observed Ty.WellNamed wellNamed.containerHistory holds
    obtain ⟨_, _, succeeds, -⟩ := slots.stateContainer_runIn ρ _ foundNamed context
    cases succeeds.symm.trans ofRecord

end Slots

end Polyflow.Lookup
