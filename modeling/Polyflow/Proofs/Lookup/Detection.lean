/-
# Contradictions are detected

If every type that is known is known in full, a round decides whether all of it can be
true at once: whether there are one type for the record and one for the result that
everything known fits. If so it succeeds, and asserts these types. If not it fails over
a contradiction, wherever the two sides of it are known from: from a member that the
selector picks, from the fallback or from the call, declared or solved.
-/

import Polyflow.Proofs.Lookup.Failure
import Polyflow.Proofs.Lookup.Rounds
import Polyflow.Proofs.Lookup.Soundness

namespace Polyflow.Lookup.Stage

variable {ρ : Type} {slots : Slots} {site : Expr} {stage : Stage ρ} {app : Application}
  {members : List (String × Ty)} {result : Ty}

/-- Every type that is known of the application is known in full. -/
def Definite (stage : Stage ρ) (app : Application) : Prop :=
  ∀ expr ∈ app.exprs, ∀ entry ∈ knownTypes stage.context stage.solution expr,
    entry.2.WellNamed ∧ (entry.2 ≠ .unknown → entry.2.holes = 0)

/-- Every type that is known of an expression equals the given one. -/
def Allows (stage : Stage ρ) (expr : Expr) (ty : Ty) : Prop :=
  ∀ entry ∈ knownTypes stage.context stage.solution expr, entry.2 ≠ .unknown → entry.2.Equiv ty

/-- Everything that is known of the application is true at once if the record has the
given members and the result the given type. -/
structure Explained (stage : Stage ρ) (app : Application) (members : List (String × Ty))
    (result : Ty) : Prop where
  wellNamed : (Ty.record members).WellNamed ∧ result.WellNamed
  complete : (Ty.record members).holes = 0 ∧ result.holes = 0
  container : stage.Allows app.container (.record members)
  selector : stage.Allows app.selector .text
  fallback : stage.Allows app.fallback result
  call : stage.Allows app.call result
  /-- The member that a fixed selector names has the type of the result. -/
  selected : ∀ id name ty, app.selector = .literal id (.text name) → name ≠ "" →
    members.lookup name = some ty → ty.Equiv result

theorem Definite.wellNamed (definite : stage.Definite app) :
    app.WellNamed stage.context stage.solution :=
  fun expr member entry isKnown => (definite expr member entry isKnown).1

/-- What is observed of the record is known in full. -/
theorem Definite.containerHistory (definite : stage.Definite app) :
    ∀ observation ∈ app.containerHistory stage.context stage.solution,
      observation.ty ≠ .unknown → observation.ty.holes = 0 := by
  intro observation inside
  obtain ⟨entry, isKnown, rfl⟩ := List.mem_map.mp inside
  exact (definite app.container (by simp [Application.exprs]) entry isKnown).2

/-- What is observed of the result is too, the selected member included. -/
theorem Definite.resultHistory (definite : stage.Definite app) :
    ∀ observation ∈ app.resultHistory stage.context stage.solution,
      observation.ty ≠ .unknown → observation.ty.holes = 0 := by
  simp only [Definite, Application.exprs, List.forall_mem_cons] at definite
  rcases definite with ⟨ofContainer, -, ofFallback, ofCall, -⟩
  rw [Application.forall_mem_resultHistory]
  refine ⟨?_, fun entry isKnown => (ofFallback entry isKnown).2,
    fun entry isKnown => (ofCall entry isKnown).2⟩
  intro entry isKnown picked isPicked _
  obtain ⟨name, ours, -, isRecord, found, -⟩ := Findings.selected?_eq_some_iff.mp isPicked
  have complete := (ofContainer entry isKnown).2
  rw [isRecord] at complete
  exact Ty.complete_member (complete (by simp)) found

/-- The record type that was found is a known type of the container. If none was
found, any will do. -/
theorem Accepts.exists_members (accepts : stage.Accepts site app) :
    ∃ members, (∀ ty, stage.container? app = some ty → ty = .record members) ∧
      (members = [] ∨ ∃ entry ∈ knownTypes stage.context stage.solution app.container,
        entry.2 = .record members) := by
  cases found : stage.container? app with
  | none => exact ⟨[], by simp, .inl rfl⟩
  | some ty =>
      obtain ⟨observation, inside, same⟩ := Knowledge.exists_observed_of_ty? found
      obtain ⟨entry, isKnown, rfl⟩ := List.mem_map.mp inside
      replace same : entry.2 = ty := same
      have known : entry.2 ≠ .unknown :=
        same ▸ Knowledge.ne_unknown_of_ty?_after (by simp [Knowledge.ty?]) found
      obtain ⟨members, isRecord⟩ := (accepts.container entry isKnown).exists_record known
      exact ⟨members, fun _ isFound => Option.some.inj isFound ▸ same ▸ isRecord,
        .inr ⟨entry, isKnown, isRecord⟩⟩

/-- The type that was found for the result is complete. If none was found, any will
do. -/
theorem Definite.exists_result (definite : stage.Definite app) :
    ∃ result : Ty, (∀ ty, stage.result? app = some ty → ty = result) ∧
      result.WellNamed ∧ result.holes = 0 := by
  cases found : stage.result? app with
  | none => exact ⟨.prim .bool, by simp, trivial, rfl⟩
  | some ty =>
      have known : ty ≠ .unknown :=
        Knowledge.ne_unknown_of_ty?_after (by simp [Knowledge.ty?]) found
      have named : ty.WellNamed :=
        Knowledge.kept_of_observed Ty.WellNamed definite.wellNamed.resultHistory found
      have complete : ty ≠ .unknown → ty.holes = 0 :=
        Knowledge.kept_of_observed (fun ty => ty ≠ .unknown → ty.holes = 0)
          definite.resultHistory found
      exact ⟨ty, by simp, named, complete known⟩

/-- What is accepted is explained by the types that were found. -/
theorem Accepts.exists_explained (accepts : stage.Accepts site app)
    (definite : stage.Definite app) :
    ∃ members result, stage.Explained app members result ∧
      (∀ ty, stage.container? app = some ty → ty = .record members) ∧
      ∀ ty, stage.result? app = some ty → ty = result := by
  obtain ⟨members, isContainer, fromKnown⟩ := accepts.exists_members
  obtain ⟨result, isResult, resultNamed, resultComplete⟩ := definite.exists_result
  have ofExprs := definite
  simp only [Definite, Application.exprs, List.forall_mem_cons] at ofExprs
  rcases ofExprs with ⟨ofContainer, ofSelector, ofFallback, ofCall, -⟩
  have observed : ∀ observation ∈ app.resultHistory stage.context stage.solution,
      observation.ty ≠ .unknown → observation.ty.Equiv result := by
    intro observation member known
    obtain ⟨kept, isKept, equal⟩ := Knowledge.equiv_of_complete definite.wellNamed.resultHistory
      accepts.ofResult member (definite.resultHistory observation member known)
    exact isResult kept isKept ▸ equal
  obtain ⟨ofPicked, observedFallback, observedCall⟩ :=
    Application.forall_mem_resultHistory.mp observed
  have whole : (Ty.record members).WellNamed ∧ (Ty.record members).holes = 0 := by
    rcases fromKnown with rfl | ⟨entry, isKnown, isRecord⟩
    · exact ⟨by decide, rfl⟩
    · obtain ⟨named, complete⟩ := ofContainer entry isKnown
      rw [isRecord] at named complete
      exact ⟨named, complete (by simp)⟩
  refine ⟨members, result, ⟨⟨whole.1, resultNamed⟩, ⟨whole.2, resultComplete⟩, ?_, ?_,
    observedFallback, observedCall, ?_⟩, isContainer, isResult⟩
  · intro entry isKnown known
    obtain ⟨kept, isKept, equal⟩ := Knowledge.equiv_of_complete
      definite.wellNamed.containerHistory accepts.ofContainer (List.mem_map_of_mem isKnown)
      ((ofContainer entry isKnown).2 known)
    exact isContainer kept isKept ▸ equal
  · intro entry isKnown known
    rw [Ty.eq_text_of_agrees known (accepts.selector entry isKnown)]
    exact Ty.equiv_refl trivial
  · intro id name ty isLiteral nonempty found
    have fixed := fixedSelector?_eq_some_iff.mpr ⟨nonempty, id, isLiteral⟩
    rcases fromKnown with rfl | ⟨entry, isKnown, isRecord⟩
    · cases found
    -- The kept record type is a known one, so its member is among what was observed.
    · have isPicked : Findings.selected? (fixedSelector? app.selector) entry =
          some (entry.1, ty) :=
        Findings.selected?_eq_some_iff.mpr ⟨name, members, fixed, isRecord, found, rfl⟩
      have known := Ty.ne_unknown_of_complete (Ty.complete_member whole.2 found)
      exact ofPicked entry isKnown _ isPicked known

/-- What is known of an expression agrees with the type that it allows. -/
theorem Allows.agrees {expr : Expr} {ty : Ty} (allows : stage.Allows expr ty)
    (tyNamed : ty.WellNamed) {entry : Source × Ty}
    (isKnown : entry ∈ knownTypes stage.context stage.solution expr)
    (wellNamed : entry.2.WellNamed) : entry.2.Agrees ty := by
  by_cases known : entry.2 = .unknown
  · rw [known]
    exact Ty.unknown_agrees ty
  · exact (Ty.agrees_refl wellNamed).trans_equiv (allows entry isKnown known) wellNamed wellNamed
      tyNamed

theorem Explained.accepts (explained : stage.Explained app members result)
    (recorded : app.RecordedAt site stage.facts)
    (wellNamed : app.WellNamed stage.context stage.solution) : stage.Accepts site app := by
  obtain ⟨membersNamed, resultNamed⟩ := explained.wellNamed
  have ofExprs := wellNamed
  simp only [Application.WellNamed, Application.exprs, List.forall_mem_cons] at ofExprs
  rcases ofExprs with ⟨ofContainer, ofSelector, ofFallback, ofCall, -⟩
  have containerAgrees : ∀ entry ∈ knownTypes stage.context stage.solution app.container,
      entry.2.Agrees (.record members) := fun entry isKnown =>
    explained.container.agrees membersNamed isKnown (ofContainer entry isKnown)
  refine ⟨recorded, fun entry isKnown =>
    explained.selector.agrees trivial isKnown (ofSelector entry isKnown), ?_, ?_, ?_⟩
  · intro entry isKnown known
    obtain ⟨ours, isRecord⟩ := exists_record_of_agrees known (containerAgrees entry isKnown)
    rw [isRecord]
    rfl
  · apply Knowledge.acceptsAll_of_agrees membersNamed explained.complete.1 (by simp [Knowledge.ty?])
    intro observation inside
    obtain ⟨entry, isKnown, rfl⟩ := List.mem_map.mp inside
    exact ⟨ofContainer entry isKnown, containerAgrees entry isKnown⟩
  · apply Knowledge.acceptsAll_of_agrees resultNamed explained.complete.2 (by simp [Knowledge.ty?])
    rw [Application.forall_mem_resultHistory]
    refine ⟨?_, fun entry isKnown => ⟨ofFallback entry isKnown, ?_⟩,
      fun entry isKnown => ⟨ofCall entry isKnown, ?_⟩⟩
    · intro entry isKnown picked isPicked
      have pickedNamed := Findings.wellNamed_of_selected? (ofContainer entry isKnown) isPicked
      obtain ⟨name, ty, isName, found, agrees⟩ := exists_member_of_selected?
        (ofContainer entry isKnown) (containerAgrees entry isKnown) isPicked
      obtain ⟨nonempty, id, isLiteral⟩ := fixedSelector?_eq_some_iff.mp isName
      have equal := explained.selected id name ty isLiteral nonempty found
      exact ⟨pickedNamed, agrees.trans_equiv equal pickedNamed (membersNamed.member found)
        resultNamed⟩
    · exact explained.fallback.agrees resultNamed isKnown (ofFallback entry isKnown)
    · exact explained.call.agrees resultNamed isKnown (ofCall entry isKnown)

/-- If every known type is known in full, a round on a recorded application either
succeeds, and then everything known has an explanation and only its types are asserted;
or it fails over a contradiction, and then nothing explains what is known. -/
theorem succeeds_explained_or_fails (slots : Slots) (recorded : app.RecordedAt site stage.facts)
    (definite : stage.Definite app) :
    let outcome := ((slots.derive site stage.facts stage.solution).runIn stage.context).1
    (∃ derived, outcome = .ok derived ∧ ∃ members result, stage.Explained app members result ∧
        ∀ expr ty, .hasType expr ty ∈ derived →
          (expr = app.selector ∧ ty = .text) ∨
            (expr = slots.container ∧ ty = .record members) ∨
              ((expr = slots.fallback ∨ expr = slots.out) ∧ ty = result)) ∨
      ∃ error, outcome = .error error ∧ error.IsConflict ∧
        ∀ members result, ¬ stage.Explained app members result := by
  intro outcome
  cases ran : outcome with
  | ok derived =>
      obtain ⟨app', accepts⟩ := exists_accepts ran
      have same := recordedAt_unique recorded accepts.recorded
      subst same
      obtain ⟨members, result, explained, isContainer, isResult⟩ :=
        accepts.exists_explained definite
      refine .inl ⟨derived, rfl, members, result, explained, fun expr ty asserted => ?_⟩
      rcases (asserts_iff accepts definite.wellNamed).mp ⟨derived, ran, asserted⟩ with
        ofSelector | ⟨isSlot, found⟩ | ⟨isSlot, found⟩
      · exact .inl ofSelector
      · exact .inr (.inl ⟨isSlot, isContainer ty found⟩)
      · exact .inr (.inr ⟨isSlot, isResult ty found⟩)
  | error error =>
      refine .inr ⟨error, rfl, ?_, fun members result explained => ?_⟩
      · exact Slots.isConflict_of_derive recorded definite.wellNamed ran
      · obtain ⟨_, -, succeeds⟩ :=
          (explained.accepts recorded definite.wellNamed).outcome definite.wellNamed slots
        cases succeeds.symm.trans ran

private def memberApplication : Application where
  call := .placeholder 1
  container := .symbol 2 "shape"
  selector := .literal 3 (.text "size")
  fallback := .symbol 4 "other"

/-- The member `size` is declared as a number, and the result was solved as a text. -/
private def memberStage : Stage Unit where
  facts := [.call ⟨.placeholder 1, .placeholder 0,
    [.symbol 2 "shape", .literal 3 (.text "size"), .symbol 4 "other"]⟩]
  solution := ⟨(∅ : Std.TreeMap ExprId Ty).insert 1 .text⟩
  context :=
    { next := 9
      declared := (∅ : Std.TreeMap ExprId Ty).insert 2
        (.record [("color", .text), ("size", .prim .int)]) }

/-- A member contradicts the result, so the round fails. -/
theorem fails_of_member_against_result :
    let outcome := (((Slots.startingAt 5).derive (.placeholder 0) memberStage.facts
      memberStage.solution).runIn memberStage.context).1
    memberApplication.RecordedAt (.placeholder 0) memberStage.facts ∧
      memberStage.Definite memberApplication ∧
      ∃ error, outcome = .error error ∧ error.IsConflict ∧
        ∀ members result, ¬ memberStage.Explained memberApplication members result := by
  intro outcome
  have recorded : memberApplication.RecordedAt (.placeholder 0) memberStage.facts :=
    ⟨_, rfl, rfl, rfl⟩
  have definite : memberStage.Definite memberApplication := by
    simp only [Definite]
    decide
  refine ⟨recorded, definite, ?_⟩
  rcases succeeds_explained_or_fails (Slots.startingAt 5) recorded definite with
    ⟨derived, succeeds, -⟩ | fails
  · cases succeeds
  · exact fails

end Polyflow.Lookup.Stage
