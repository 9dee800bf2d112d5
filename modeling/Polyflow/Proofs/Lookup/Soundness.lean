/-
# Rounds derive only what holds

Suppose that every expression had its final, complete type, and that these types
made sense of one call: the container is a record, the selector a text, and the
fallback, the result and the selected member have one type. Then a round on that
call cannot fail, and whatever it derives is true of those types, no matter how
little of them was known in that round and from where it was known.
-/

import Polyflow.Proofs.Infer.Satisfaction
import Polyflow.Proofs.Lookup.Derivation

namespace Polyflow.Lookup

variable {ρ : Type}

/-- An assignment makes sense of an application: the container is a record with the
given members, the selector is a text, and the fallback, the result and the member
that a fixed selector names have one type. -/
structure Application.TypedBy (app : Application) (types : Assignment)
    (members : List (String × Ty)) : Prop where
  container : types app.container = .record members
  selector : types app.selector = .text
  fallback : (types app.fallback).Equiv (types app.call)
  selected : ∀ id name ty, app.selector = .literal id (.text name) → name ≠ "" →
    members.lookup name = some ty → ty.Equiv (types app.call)

/-- The site has the type of the function for an application, and each slot has the
type of what it stands for. -/
structure Slots.TypedBy (slots : Slots) (types : Assignment) (site : Expr) (app : Application) :
    Prop where
  site : (types site).Equiv (.func [(Arg.container.name, types app.container),
    (Arg.selector.name, .text), (Arg.fallback.name, types app.call)] (types app.call))
  container : (types slots.container).Equiv (types app.container)
  selector : (types slots.selector).Equiv .text
  fallback : (types slots.fallback).Equiv (types app.call)
  out : (types slots.out).Equiv (types app.call)

/-- The unknown on record for a member of the container has the member's type. -/
def Slots.MembersTypedBy (slots : Slots) (types : Assignment) (context : Context)
    (members : List (String × Ty)) : Prop :=
  ∀ name id ty, context.memberUnknowns.lookup (slots.container.id, name) = some id →
    members.lookup name = some ty → (types (.placeholder id)).Equiv ty

/-- What is known of an expression does not contradict an assignment. -/
def Consistent (types : Assignment) (context : Context) (solution : Solution) (expr : Expr) :
    Prop :=
  ∀ entry ∈ knownTypes context solution expr, entry.2.WellNamed ∧ entry.2.Agrees (types expr)

theorem fixedSelector?_eq_some_iff {arg : Expr} {name : String} :
    fixedSelector? arg = some name ↔ name ≠ "" ∧ ∃ id, arg = .literal id (.text name) := by
  rw [fixedSelector?, Option.filter_eq_some_iff, Option.bind_eq_some_iff]
  apply Iff.intro
  · intro isFixed
    rcases isFixed with ⟨⟨value, isValue, isText⟩, nonempty⟩
    refine ⟨by simpa using nonempty, ?_⟩
    cases arg with
    | literal id constant =>
        cases isValue
        cases value with
        | text name' =>
            cases isText
            exact ⟨id, rfl⟩
        | _ => cases isText
    | _ => cases isValue
  · intro isLiteral
    rcases isLiteral with ⟨nonempty, id, rfl⟩
    exact ⟨⟨_, rfl, rfl⟩, by simpa using nonempty⟩

/-- A known type that agrees with a record type is one. -/
theorem exists_record_of_agrees {ty : Ty} {members : List (String × Ty)} (known : ty ≠ .unknown)
    (agrees : ty.Agrees (.record members)) : ∃ ours, ty = .record ours := by
  cases ty with
  | unknown => exact absurd rfl known
  | record ours => exact ⟨ours, rfl⟩
  | prim kind => simp [Ty.Agrees, Ty.conflict?] at agrees
  | func args ret => simp [Ty.Agrees, Ty.conflict?] at agrees

/-- The member that a selector picks from a type known of the container agrees with
the member that it picks from the container's final type. -/
theorem exists_member_of_selected? {selector : Option String} {known picked : Source × Ty}
    {members : List (String × Ty)} (wellNamed : known.2.WellNamed)
    (agrees : known.2.Agrees (.record members))
    (isPicked : Findings.selected? selector known = some picked) :
    ∃ name ty, selector = some name ∧ members.lookup name = some ty ∧ picked.2.Agrees ty := by
  obtain ⟨name, ours, isName, isRecord, found, -⟩ := Findings.selected?_eq_some_iff.mp isPicked
  rw [isRecord] at wellNamed agrees
  have distinct := (Ty.wellNamed_record.mp wellNamed).1
  obtain ⟨ty, found', agrees'⟩ :=
    exists_right_of_rel ((Ty.record_agrees_record distinct).mp agrees name) found
  exact ⟨name, ty, isName, found', agrees'⟩

namespace Application.TypedBy

variable {app : Application} {types : Assignment} {members : List (String × Ty)}
  {context : Context} {solution : Solution}

theorem members_wellNamed (typed : app.TypedBy types members) : (Ty.record members).WellNamed :=
  typed.container ▸ types.wellNamed app.container

/-- Every observation of the record agrees with the container's type. -/
theorem container_observed (ofContainer : Consistent types context solution app.container) :
    ∀ observation ∈ app.containerHistory context solution,
      observation.ty.WellNamed ∧ observation.ty.Agrees (types app.container) := by
  intro observation member
  obtain ⟨known, isKnown, rfl⟩ := List.mem_map.mp member
  exact ofContainer known isKnown

/-- Every observation of the result agrees with the call's type. -/
theorem result_observed (typed : app.TypedBy types members)
    (ofContainer : Consistent types context solution app.container)
    (ofFallback : Consistent types context solution app.fallback)
    (ofCall : Consistent types context solution app.call) :
    ∀ observation ∈ app.resultHistory context solution,
      observation.ty.WellNamed ∧ observation.ty.Agrees (types app.call) := by
  rw [forall_mem_resultHistory]
  refine ⟨?_, ?_, ofCall⟩
  · intro entry isKnown picked isPicked
    obtain ⟨entryNamed, agrees⟩ := ofContainer entry isKnown
    rw [typed.container] at agrees
    obtain ⟨name, ty, isName, found, agrees'⟩ :=
      exists_member_of_selected? entryNamed agrees isPicked
    obtain ⟨nonempty, id, isLiteral⟩ := fixedSelector?_eq_some_iff.mp isName
    have pickedNamed := Findings.wellNamed_of_selected? entryNamed isPicked
    have tyNamed := typed.members_wellNamed.member found
    exact ⟨pickedNamed, agrees'.trans_equiv (typed.selected id name ty isLiteral nonempty found)
      pickedNamed tyNamed (types.wellNamed app.call)⟩
  · intro entry isKnown
    obtain ⟨entryNamed, agrees⟩ := ofFallback entry isKnown
    exact ⟨entryNamed, agrees.trans_equiv typed.fallback entryNamed
      (types.wellNamed app.fallback) (types.wellNamed app.call)⟩

/-- Nothing known of the container keeps a round from succeeding. -/
theorem isRecordOrUnknown (typed : app.TypedBy types members)
    (ofContainer : Consistent types context solution app.container) :
    ∀ entry ∈ knownTypes context solution app.container,
      Findings.IsRecordOrUnknown entry.2 := by
  intro entry isKnown known
  have agrees := (ofContainer entry isKnown).2
  rw [typed.container] at agrees
  obtain ⟨ours, isRecord⟩ := exists_record_of_agrees known agrees
  rw [isRecord]
  rfl

/-- Observations that agree with the type of an expression are accepted, and what
they leave behind agrees with it too. -/
theorem acceptsAll_observed {expr : Expr} {observations : List Observation}
    (observed : ∀ observation ∈ observations,
      observation.ty.WellNamed ∧ observation.ty.Agrees (types expr)) :
    Knowledge.acceptsAll {} observations = true ∧
      ∀ ty, (Knowledge.after {} observations).ty? = some ty →
        ty.WellNamed ∧ ty.Agrees (types expr) := by
  apply And.intro
  · exact Knowledge.acceptsAll_of_agrees (types.wellNamed expr) (types.complete expr)
      (by simp [Knowledge.ty?]) observed
  · intro ty
    exact Knowledge.kept_of_observed (fun ty => ty.WellNamed ∧ ty.Agrees (types expr)) observed

end Application.TypedBy

namespace Slots.TypedBy

variable {slots : Slots} {types : Assignment} {site : Expr} {app : Application}
  {members : List (String × Ty)}

theorem links_hold (slotsTyped : slots.TypedBy types site app) (typed : app.TypedBy types members) :
    ∀ constraint ∈ (slots.links app : List (Constraint ρ)), constraint.Holds types := by
  have fallback : (types app.fallback).Equiv (types slots.fallback) :=
    typed.fallback.trans (types.equiv_symm slotsTyped.fallback) (types.wellNamed _)
      (types.wellNamed _) (types.wellNamed _)
  have selector : (types app.selector).Equiv (types slots.selector) := by
    rw [typed.selector]
    exact slotsTyped.selector.symm (types.wellNamed _) trivial
  have isText : Ty.text.Agrees (types app.selector) := by
    rw [typed.selector]
    exact Ty.agrees_refl trivial
  simp only [links, List.forall_mem_cons]
  refine ⟨?_, ?_, selector, fallback, isText, by simp⟩
  · exact types.equiv_symm slotsTyped.out
  · exact types.equiv_symm slotsTyped.container

theorem producedBy_holds (slotsTyped : slots.TypedBy types site app) :
    (Constraint.producedBy app.call site : Constraint ρ).Holds types := by
  obtain ⟨args, ret, isFunc, -, equal⟩ := Ty.exists_func_of_equiv slotsTyped.site
  exact ⟨args, ret, isFunc, equal⟩

/-- A type of the result is one of both slots that have it. -/
theorem stateResult_hold (slotsTyped : slots.TypedBy types site app) {found : Option Ty}
    (agrees : ∀ ty, found = some ty → ty.WellNamed ∧ ty.Agrees (types app.call)) :
    ∀ constraint ∈ (slots.stateResult found : List (Constraint ρ)), constraint.Holds types := by
  cases found with
  | none => simp [stateResult]
  | some ty =>
      obtain ⟨wellNamed, agrees⟩ := agrees ty rfl
      have ofFallback := types.agrees_of_equiv wellNamed agrees slotsTyped.fallback
      have ofOut := types.agrees_of_equiv wellNamed agrees slotsTyped.out
      simp only [stateResult, List.forall_mem_cons]
      exact ⟨ofFallback, ofOut, by simp⟩

/-- The record taken apart has the names and the members of the container's type. -/
theorem record_holds (slotsTyped : slots.TypedBy types site app)
    (typed : app.TypedBy types members) {context : Context}
    (unknowns : slots.MembersTypedBy types context members) {name : String}
    (fixed : fixedSelector? app.selector = some name) {exprs : List (String × Expr)}
    (represent : ∀ part ∈ exprs, slots.Represents name context part)
    (names : ∀ name, (exprs.lookup name).isSome ↔ (members.lookup name).isSome) :
    (Constraint.record ⟨slots.container, exprs⟩ : Constraint ρ).Holds types := by
  have membersNamed := typed.members_wellNamed
  have container := slotsTyped.container
  rw [typed.container] at container
  obtain ⟨ours, isRecord, equal⟩ :=
    Ty.exists_record_of_equiv container (types.wellNamed _) membersNamed
  refine ⟨ours, isRecord, fun member => ?_⟩
  have stands : Option.Rel (fun ty expr => ty.Equiv (types expr)) (members.lookup member)
      (exprs.lookup member) := by
    refine rel_iff.mpr ⟨(names member).symm, fun ty expr found found' => ?_⟩
    have tyNamed := membersNamed.member found
    have stands := represent _ (mem_of_lookup found')
    simp only [Represents] at stands
    split at stands
    case isTrue selected =>
      obtain ⟨nonempty, id, isLiteral⟩ := fixedSelector?_eq_some_iff.mp fixed
      have ofCall := typed.selected id name ty isLiteral nonempty (selected ▸ found)
      rw [stands]
      exact ofCall.trans (types.equiv_symm slotsTyped.out) tyNamed (types.wellNamed _)
        (types.wellNamed _)
    case isFalse other =>
      rcases stands with ⟨id, isUnknown, onRecord⟩
      rw [isUnknown]
      exact (unknowns member id ty onRecord found).symm (types.wellNamed _) tyNamed
  have oursNamed : (Ty.record ours).WellNamed := isRecord ▸ types.wellNamed _
  apply rel_compose (equal member) stands
  intro our ty expr found found' _ equal equal'
  exact equal.trans equal' (oursNamed.member found) (membersNamed.member found') (types.wellNamed _)

end Slots.TypedBy

/-- A round on a recorded application succeeds, and everything it derives holds, for
any assignment that makes sense of the application and that nothing known of its
four expressions contradicts. -/
theorem derive_holds {types : Assignment} {slots : Slots} {site : Expr} {app : Application}
    {members : List (String × Ty)} {facts : List (Constraint ρ)} {context : Context}
    {solution : Solution} (recorded : app.RecordedAt site facts)
    (typed : app.TypedBy types members) (slotsTyped : slots.TypedBy types site app)
    (unknowns : slots.MembersTypedBy types
      ((slots.derive site facts solution).runIn context).2 members)
    (consistent : ∀ expr ∈ app.exprs, Consistent types context solution expr) :
    ∃ derived, ((slots.derive site facts solution).runIn context).1 = .ok derived ∧
      ∀ constraint ∈ derived, constraint.Holds types := by
  simp only [Application.exprs, List.forall_mem_cons] at consistent
  rcases consistent with ⟨ofContainer, ofSelector, ofFallback, ofCall, -⟩
  have isText : ∀ entry ∈ knownTypes context solution app.selector, entry.2.Agrees .text :=
    fun entry isKnown => typed.selector ▸ (ofSelector entry isKnown).2
  obtain ⟨acceptsContainer, keptContainer⟩ :=
    Application.TypedBy.acceptsAll_observed (Application.TypedBy.container_observed ofContainer)
  obtain ⟨acceptsResult, keptResult⟩ :=
    Application.TypedBy.acceptsAll_observed (typed.result_observed ofContainer ofFallback ofCall)
  obtain ⟨parts, after, stated, areParts⟩ :=
    slots.stateContainer_runIn ρ (fixedSelector? app.selector)
      (fun ty holds => (keptContainer ty holds).1) context
  have ran := Slots.derive_eq_ok_iff.mpr ⟨app, recorded, _, isText,
    typed.isRecordOrUnknown ofContainer, acceptsContainer, acceptsResult, stated, rfl⟩
  rw [ran] at unknowns ⊢
  refine ⟨_, rfl, ?_⟩
  simp only [List.forall_mem_append, List.forall_mem_singleton]
  refine ⟨⟨⟨slotsTyped.links_hold typed, ?_, ?_⟩, ?_⟩, slotsTyped.producedBy_holds⟩
  · intro constraint member
    obtain ⟨ty, holds, rfl⟩ := List.mem_map.mp member
    obtain ⟨wellNamed, agrees⟩ := keptContainer ty (Option.mem_toList.mp holds)
    exact types.agrees_of_equiv wellNamed agrees slotsTyped.container
  · intro constraint member
    obtain ⟨name, ours, exprs, fixed, isRecord, rfl, names, represent⟩ :=
      areParts constraint member
    apply slotsTyped.record_holds typed unknowns fixed represent
    intro name
    obtain ⟨wellNamed, agrees⟩ := keptContainer _ isRecord
    rw [typed.container, Ty.record_agrees_record (Ty.wellNamed_record.mp wellNamed).1] at agrees
    rw [lookup_isSome_iff_mem, names, ← lookup_isSome_iff_mem]
    exact (rel_iff.mp (agrees name)).1
  · exact slotsTyped.stateResult_hold keptResult

/-- A record of two members. -/
private def pointTy (x y : Ty) : Ty := .record [("x", x), ("y", y)]

private def shapeMembers : List (String × Ty) :=
  [("corner", pointTy (.prim .int) .text), ("color", .prim .bool)]

/-- The member `corner` of `shape`, or else `origin`. -/
private def cornerApplication : Application where
  call := .placeholder 1
  container := .symbol 2 "shape"
  selector := .literal 3 (.text "corner")
  fallback := .symbol 4 "origin"

private def cornerFacts : List (Constraint Unit) :=
  [.call ⟨.placeholder 1, .placeholder 0,
    [.symbol 2 "shape", .literal 3 (.text "corner"), .symbol 4 "origin"]⟩]

/-- Of the corner only `y` is declared, and nothing of the color. -/
private def cornerContext : Context where
  next := 9
  declared := (∅ : Std.TreeMap ExprId Ty)
    |>.insert 2 (.record [("corner", pointTy .unknown .text), ("color", .unknown)])
    |>.insert 4 (pointTy .unknown .unknown)

/-- The solver knows `x` of the corner and `y` of the result. -/
private def cornerSolution : Solution where
  types := (∅ : Std.TreeMap ExprId Ty)
    |>.insert 2 (.record [("color", .prim .bool), ("corner", pointTy (.prim .int) .unknown)])
    |>.insert 1 (.record [("y", .text), ("x", .unknown)])

private def cornerTypes : Assignment where
  ty expr :=
    let point := pointTy (.prim .int) .text
    match expr.id with
    | 0 => .func [("struct", .record shapeMembers), ("field", .text), ("optional", point)] point
    | 2 => .record shapeMembers
    | 5 => .record [("color", .prim .bool), ("corner", point)]
    | 3 | 6 => .text
    | 9 => .prim .bool
    | _ => point
  wellNamed expr := by
    dsimp only
    split <;> decide
  complete expr := by
    dsimp only
    split <;> decide

/-- The color gets an unknown of its own in this round, the number 9. -/
private theorem cornerUnknowns :
    (((Slots.startingAt 5).derive (.placeholder 0) cornerFacts cornerSolution).runIn
      cornerContext).2.memberUnknowns = [((5, "color"), 9)] := rfl

private theorem cornerMembersTyped :
    (Slots.startingAt 5).MembersTypedBy cornerTypes
      (((Slots.startingAt 5).derive (.placeholder 0) cornerFacts cornerSolution).runIn
        cornerContext).2 shapeMembers := by
  intro name id ty onRecord found
  rw [cornerUnknowns] at onRecord
  by_cases isColor : name = "color"
  · subst isColor
    have same : 9 = id := Option.some.inj onRecord
    subst same
    cases found
    decide
  · have other : ((5, name) == ((5 : ExprId), "color")) = false := by simpa using isColor
    replace onRecord : [(((5 : ExprId), "color"), (9 : ExprId))].lookup (5, name) = some id :=
      onRecord
    rw [List.lookup_cons, other] at onRecord
    cases onRecord

/-- No source knows the whole type of the result here, and each knows another part. -/
theorem derive_holds_of_partly_known_member :
    let slots := Slots.startingAt 5
    let outcome := (slots.derive (.placeholder 0) cornerFacts cornerSolution).runIn cornerContext
    cornerApplication.RecordedAt (.placeholder 0) cornerFacts ∧
      cornerApplication.TypedBy cornerTypes shapeMembers ∧
      slots.TypedBy cornerTypes (.placeholder 0) cornerApplication ∧
      slots.MembersTypedBy cornerTypes outcome.2 shapeMembers ∧
      ∃ derived, outcome.1 = .ok derived ∧
        ∀ constraint ∈ derived, constraint.Holds cornerTypes := by
  intro slots outcome
  have recorded : cornerApplication.RecordedAt (.placeholder 0) cornerFacts := ⟨_, rfl, rfl, rfl⟩
  have typed : cornerApplication.TypedBy cornerTypes shapeMembers := by
    refine ⟨rfl, rfl, by decide, fun id name ty literal _ found => ?_⟩
    cases literal
    cases found
    decide
  have slotsTyped : slots.TypedBy cornerTypes (.placeholder 0) cornerApplication := by
    refine ⟨?_, ?_, ?_, ?_, ?_⟩ <;> decide
  refine ⟨recorded, typed, slotsTyped, cornerMembersTyped, ?_⟩
  apply derive_holds recorded typed slotsTyped cornerMembersTyped
  simp only [Consistent]
  decide

end Polyflow.Lookup
