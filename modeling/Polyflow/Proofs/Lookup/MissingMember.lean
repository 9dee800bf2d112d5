/-
# Selectors of members that are missing

A call may select a member that its record does not have. This is no error: the call then
gives its fallback, and a round learns from it what it learns from a call whose selector is
not known. The two rounds fail alike, or derive the same constraints but for the selector,
and the result is learned from the fallback and from the call alone.
-/

import Polyflow.Proofs.Lookup.Exchange
import Polyflow.Proofs.Lookup.Unknowns

namespace Polyflow

/-- An expression, or another one in place of the constant that has the given identity. -/
def Expr.replaceConstant (id : ExprId) (other : Expr) : Expr → Expr
  | .literal id' value => if id' = id then other else .literal id' value
  | expr => expr

theorem Expr.replaceConstant_of_ne {id : ExprId} {expr : Expr} (other : Expr)
    (differs : expr.id ≠ id) : Expr.replaceConstant id other expr = expr := by
  cases expr with
  | literal id' value => exact if_neg differs
  | _ => rfl

end Polyflow

namespace Polyflow.Lookup

variable {ρ : Type}

theorem replaceConstant_of_fixedSelector {selector : Expr} {name : String}
    (isName : fixedSelector? selector = some name) (other : Expr) :
    Expr.replaceConstant selector.id other selector = other := by
  cases selector with
  | literal id value => exact if_pos rfl
  | _ => cases isName

/-- The facts with another selector in the first call recorded for a function expression. -/
def reselect (site other : Expr) : List (Constraint ρ) → List (Constraint ρ)
  | [] => []
  | .call found :: rest =>
    if found.func.same site then .call { found with args := found.args.set 1 other } :: rest
    else .call found :: reselect site other rest
  | fact :: rest => fact :: reselect site other rest

theorem callOf?_reselect (site other : Expr) (facts : List (Constraint ρ)) :
    Constraint.callOf? (reselect site other facts) site =
      (Constraint.callOf? facts site).map fun found =>
        { found with args := found.args.set 1 other } := by
  induction facts with
  | nil => rfl
  | cons fact rest ih =>
      cases fact with
      | call found =>
          rw [reselect]
          split
          case isTrue isSite => simp [Constraint.callOf?, isSite]
          case isFalse isOther => simpa [Constraint.callOf?, isOther] using ih
      | _ => exact ih

variable {site other : Expr} {facts : List (Constraint ρ)} {solution : Solution}
  {context : Context} {app : Application} {name : String}

theorem Application.RecordedAt.reselect (recorded : app.RecordedAt site facts) (other : Expr) :
    Application.RecordedAt { app with selector := other } site (reselect site other facts) := by
  rcases recorded with ⟨record, found, call, args⟩
  refine ⟨{ record with args := record.args.set 1 other }, ?_, call, ?_⟩
  · rw [callOf?_reselect, found]
    rfl
  · rw [args]
    rfl

/-- What a round reads of a call whose selector may be a text. -/
theorem survey_of_text {known : Expr → List (Source × Ty)} (recorded : app.RecordedAt site facts)
    (isText : ∀ entry ∈ known app.selector, entry.2.Agrees .text) :
    survey site facts known =
      (Findings.gather (fixedSelector? app.selector) (known app.container) (known app.fallback)
        (known app.call)).map fun findings => (app, fixedSelector? app.selector, findings) := by
  rcases recorded with ⟨record, found, call, args⟩
  have selects : selectorOf (known app.selector) app.selector =
      .ok (fixedSelector? app.selector) := selectorOf_eq_ok_iff.mpr ⟨isText, rfl⟩
  simp only [survey, found, args, selects, call]

namespace Findings

/-- A type is not that of a record with the given member. -/
def Lacks (name : String) (ty : Ty) : Prop :=
  ∀ members, ty = .record members → members.lookup name = none

/-- A record without the selected member is learned like one without a selector. -/
theorem learnContainer_of_lacks {selector : Option String} {known : Source × Ty}
    (lacks : ∀ name, selector = some name → Lacks name known.2) (findings : Findings) :
    findings.learnContainer selector known = findings.learnContainer none known := by
  rcases known with ⟨source, ty⟩
  cases ty with
  | record members =>
      cases selector with
      | none => rfl
      | some name => simp [learnContainer, lacks name rfl members rfl]
  | _ => rfl

theorem gather_of_lacks {selector : Option String} {container : List (Source × Ty)}
    (lacks : ∀ entry ∈ container, ∀ name, selector = some name → Lacks name entry.2)
    (fallback ret : List (Source × Ty)) :
    gather selector container fallback ret = gather none container fallback ret := by
  have learned (findings : Findings) : container.foldlM (learnContainer selector) findings =
      container.foldlM (learnContainer none) findings := by
    induction container generalizing findings with
    | nil => rfl
    | cons entry rest ih =>
        obtain ⟨lacksFirst, lacksRest⟩ := List.forall_mem_cons.mp lacks
        simp only [List.foldlM_cons, learnContainer_of_lacks lacksFirst, ih lacksRest]
  rw [gather, gather, learned]

/-- Without a selector the record says nothing of the result. -/
theorem resultHistory_none (container fallback ret : List (Source × Ty)) :
    resultHistory none container fallback ret = resultHistory none [] fallback ret := by
  have nothing : container.filterMap (selected? none) = [] :=
    List.filterMap_eq_nil_iff.mpr fun _ _ => rfl
  rw [resultHistory, nothing]
  rfl

end Findings

namespace Application

/-- What a round gathers of an application, without regard to its selector. -/
def gathered (app : Application) (context : Context) (solution : Solution) :
    Except RoundError Findings :=
  Findings.gather none (knownTypes context solution app.container)
    (knownTypes context solution app.fallback) (knownTypes context solution app.call)

/-- What is observed of the result in the fallback and in the call, not in the record. -/
def outerHistory (app : Application) (context : Context) (solution : Solution) :
    List Observation :=
  Findings.resultHistory none [] (knownTypes context solution app.fallback)
    (knownTypes context solution app.call)

theorem gathered_eq_ok_iff {findings : Findings} :
    app.gathered context solution = .ok findings ↔
      (∀ entry ∈ knownTypes context solution app.container,
        Findings.IsRecordOrUnknown entry.2) ∧
        Knowledge.acceptsAll {} (app.containerHistory context solution) = true ∧
        Knowledge.acceptsAll {} (app.outerHistory context solution) = true ∧
        { container := Knowledge.after {} (app.containerHistory context solution)
          result := Knowledge.after {} (app.outerHistory context solution) : Findings } =
            findings := by
  rw [gathered, Findings.gather_eq_ok_iff, Findings.resultHistory_none]
  rfl

/-- The selector of a call may be a text, and if it is known, it is the name of a member
that no type known of the record has. -/
structure SelectsNothing (app : Application) (context : Context)
    (solution : Solution) : Prop where
  isText : ∀ entry ∈ knownTypes context solution app.selector, entry.2.Agrees .text
  lacks : ∀ entry ∈ knownTypes context solution app.container,
    ∀ name, fixedSelector? app.selector = some name → Findings.Lacks name entry.2

theorem SelectsNothing.lacks_found (nothing : app.SelectsNothing context solution)
    {ty : Ty} (found : (Knowledge.after {} (app.containerHistory context solution)).ty? = some ty) :
    ∀ name, fixedSelector? app.selector = some name → Findings.Lacks name ty := by
  apply Knowledge.kept_of_observed
    (fun ty => ∀ name, fixedSelector? app.selector = some name → Findings.Lacks name ty) _ found
  intro observation member
  obtain ⟨entry, isKnown, rfl⟩ := List.mem_map.mp member
  exact nothing.lacks entry isKnown

end Application

/-- An expression may be any text as far as is known. -/
structure IsOpenText (expr : Expr) (context : Context) (solution : Solution) : Prop where
  noValue : expr.value? = none
  isText : ∀ entry ∈ knownTypes context solution expr, entry.2.Agrees .text

theorem IsOpenText.selectsNothing (isOpen : IsOpenText app.selector context solution) :
    app.SelectsNothing context solution := by
  refine ⟨isOpen.isText, fun entry isKnown name isName => ?_⟩
  rw [fixedSelector?, isOpen.noValue] at isName
  cases isName

namespace Slots

/-- What a round derives that cannot take the record apart: it states the types that were
found for the record and for the result. -/
def derivedWhole (slots : Slots) (site : Expr) (app : Application) (findings : Findings) :
    List (Constraint ρ) :=
  slots.derived site app (findings.container.ty?.toList.map (.hasType slots.container))
    findings.result.ty?

theorem not_record_mem_derivedWhole (slots : Slots) (site : Expr) (app : Application)
    (findings : Findings) (shape : RecordShape) :
    (.record shape : Constraint ρ) ∉ slots.derivedWhole site app findings := by
  cases found : findings.result.ty? <;>
    simp [derivedWhole, derived, links, stateResult, found]

theorem mapExprs_derivedWhole (change : Expr → Expr) (slots : Slots) (site : Expr)
    (app : Application) (findings : Findings) :
    (slots.derivedWhole site app findings : List (Constraint ρ)).map (Constraint.mapExprs change) =
      (slots.mapExprs change).derivedWhole (change site) (app.mapExprs change) findings := by
  rw [derivedWhole, mapExprs_derived, derivedWhole, List.map_map]
  rfl

end Slots

/-- A round of a call that selects nothing gathers as if there were no selector, and states
what it found. -/
theorem Application.SelectsNothing.derive_runIn (nothing : app.SelectsNothing context solution)
    (recorded : app.RecordedAt site facts) (slots : Slots) :
    (slots.derive site facts solution).runIn context =
      ((app.gathered context solution).map (slots.derivedWhole site app), context) := by
  rw [Slots.derive_runIn, survey_of_text recorded nothing.isText,
    Findings.gather_of_lacks nothing.lacks, ← Application.gathered]
  cases gathers : app.gathered context solution with
  | error error => rfl
  | ok found =>
      obtain ⟨-, -, -, rfl⟩ := Application.gathered_eq_ok_iff.mp gathers
      have stated := Slots.stateContainer_runIn_of_no_member ρ slots
        (fun name members isName isFound =>
          nothing.lacks_found isFound name isName members rfl) context
      simp only [Except.map, Slots.conclude, stated]
      rfl

/-- How a round that selects a missing member relates to the one with another selector. -/
structure AsUnselected (context : Context) (solution : Solution) (slots : Slots)
    (app : Application) (other : Expr)
    (ran ran' : Except RoundError (List (Constraint ρ)) × Context) : Prop where
  /-- The one fails like the other, or derives the same but for the selector. -/
  same : ran'.1 = ran.1.map
    (List.map (Constraint.mapExprs (Expr.replaceConstant app.selector.id other)))
  /-- Neither makes an expression. -/
  untouched : ran.2 = context ∧ ran'.2 = context
  /-- Neither takes the record apart. -/
  whole : ∀ derived, ran.1 = .ok derived ∨ ran'.1 = .ok derived →
    ∀ shape, .record shape ∉ derived
  /-- That a member is missing is no reason to fail: what has to be in order are the types
  known of the record among themselves, and those of the fallback and the call. -/
  succeeds : (∃ derived, ran.1 = .ok derived) ↔
    (∀ entry ∈ knownTypes context solution app.container, Findings.IsRecordOrUnknown entry.2) ∧
      Knowledge.acceptsAll {} (app.containerHistory context solution) = true ∧
      Knowledge.acceptsAll {} (app.outerHistory context solution) = true
  /-- The type of the result is the one that the fallback and the call show. -/
  result : ∀ derived, ran.1 = .ok derived → ∀ ty, .hasType slots.out ty ∈ derived ↔
    (Knowledge.after {} (app.outerHistory context solution)).ty? = some ty

/-- Changing the selector changes what is derived into what is derived of the other call. -/
theorem Slots.mapExprs_reselected {next : ExprId} (isName : fixedSelector? app.selector = some name)
    (apart : ∀ expr ∈ [app.container, app.fallback, app.call, site],
      expr.id ≠ app.selector.id) (other : Expr) (findings : Findings) :
    ((Slots.startingAt next).derivedWhole site app findings : List (Constraint ρ)).map
        (Constraint.mapExprs (Expr.replaceConstant app.selector.id other)) =
      (Slots.startingAt next).derivedWhole site { app with selector := other } findings := by
  have fixed (expr : Expr) (member : expr ∈ [app.container, app.fallback, app.call, site]) :
      Expr.replaceConstant app.selector.id other expr = expr :=
    Expr.replaceConstant_of_ne other (apart expr member)
  simp only [List.forall_mem_cons] at fixed
  rcases fixed with ⟨container, fallback, call, ofSite, -⟩
  rw [mapExprs_derivedWhole, Application.mapExprs, container, fallback, call, ofSite,
    replaceConstant_of_fixedSelector isName]
  rfl

/-- The type that is stated of the result is the one that was found for it. -/
theorem Slots.hasType_out_mem_derivedWhole {next : ExprId}
    (isName : fixedSelector? app.selector = some name) {findings : Findings} {ty : Ty} :
    (.hasType (Slots.startingAt next).out ty : Constraint ρ) ∈
        (Slots.startingAt next).derivedWhole site app findings ↔
      findings.result.ty? = some ty := by
  have notSelector : Expr.placeholder (next + 3) ≠ app.selector := by
    intro same
    rw [← same] at isName
    cases isName
  rw [derivedWhole]
  cases findings.result.ty? <;>
    simp [derived, links, stateResult, startingAt, notSelector, eq_comm]

/-- A missing member is as good as a selector that is not known. -/
theorem asUnselected_of_missing (next : ExprId) (recorded : app.RecordedAt site facts)
    (isName : fixedSelector? app.selector = some name)
    (nothing : app.SelectsNothing context solution)
    (isOpen : IsOpenText other context solution)
    (apart : ∀ expr ∈ [app.container, app.fallback, app.call, site],
      expr.id ≠ app.selector.id) :
    let slots := Slots.startingAt next
    AsUnselected context solution slots app other
      ((slots.derive site facts solution).runIn context)
      ((slots.derive site (reselect site other facts) solution).runIn context) := by
  intro slots
  have nothing' : Application.SelectsNothing { app with selector := other } context solution :=
    IsOpenText.selectsNothing isOpen
  have same : Application.gathered { app with selector := other } context solution =
      app.gathered context solution := rfl
  rw [nothing.derive_runIn recorded, nothing'.derive_runIn (recorded.reselect other), same]
  cases gathers : app.gathered context solution with
  | error error =>
      refine ⟨rfl, ⟨rfl, rfl⟩, by simp [Except.map], ?_, by simp [Except.map]⟩
      constructor
      · rintro ⟨derived, isDerived⟩
        cases isDerived
      · rintro ⟨allowed, ofContainer, ofResult⟩
        have succeeds := Application.gathered_eq_ok_iff.mpr ⟨allowed, ofContainer, ofResult, rfl⟩
        cases gathers.symm.trans succeeds
  | ok findings =>
      obtain ⟨allowed, ofContainer, ofResult, rfl⟩ := Application.gathered_eq_ok_iff.mp gathers
      refine ⟨?_, ⟨rfl, rfl⟩, ?_, ?_, ?_⟩
      · exact congrArg Except.ok (Slots.mapExprs_reselected isName apart other _).symm
      · rintro derived (isDerived | isDerived) <;> cases isDerived
        · exact slots.not_record_mem_derivedWhole site app _
        · exact slots.not_record_mem_derivedWhole site _ _
      · exact iff_of_true ⟨_, rfl⟩ ⟨allowed, ofContainer, ofResult⟩
      · intro derived isDerived ty
        cases isDerived
        exact Slots.hasType_out_mem_derivedWhole isName

/-- A record with the members `a` and `c`, of which the call selects the member `b`. -/
private def withoutMember : Application where
  call := .symbol 1 "call"
  container := .symbol 2 "shape"
  selector := .literal 3 (.text "b")
  fallback := .symbol 4 "other"

private def factsWithout : List (Constraint Unit) :=
  [.sameType (.symbol 1 "call") (.symbol 4 "other"),
    .call ⟨.symbol 1 "call", .symbol 0 "site",
      [.symbol 2 "shape", .literal 3 (.text "b"), .symbol 4 "other"]⟩]

/-- The type of the record is declared in part, and that of the fallback is declared. -/
private def partlyDeclared : Context where
  next := 10
  declared := Std.TreeMap.ofList
    [(2, Ty.record [("a", .unknown), ("c", .prim .int)]), (4, .prim .bool)]

/-- The round states the type of the record, and takes that of the fallback for the result. -/
theorem asUnselected_of_partly_declared :
    let site := Expr.symbol 0 "site"
    let other := Expr.symbol 5 "name"
    let slots := Slots.startingAt 6
    let ran := (slots.derive site factsWithout {}).runIn partlyDeclared
    withoutMember.RecordedAt site factsWithout ∧
      fixedSelector? withoutMember.selector = some "b" ∧
      withoutMember.SelectsNothing partlyDeclared {} ∧ IsOpenText other partlyDeclared {} ∧
      ran.1.isOk ∧
      AsUnselected partlyDeclared {} slots withoutMember other ran
        ((slots.derive site (reselect site other factsWithout) {}).runIn partlyDeclared) := by
  intro site other slots ran
  have recorded : withoutMember.RecordedAt site factsWithout := ⟨_, rfl, rfl, rfl⟩
  have isName : fixedSelector? withoutMember.selector = some "b" := rfl
  have nothing : withoutMember.SelectsNothing partlyDeclared {} := by
    constructor
    · decide
    · intro entry isKnown name isName members isRecord
      cases isName
      cases List.mem_singleton.mp isKnown
      cases isRecord
      rfl
  have isOpen : IsOpenText other partlyDeclared {} := ⟨rfl, by decide⟩
  exact ⟨recorded, isName, nothing, isOpen, rfl,
    asUnselected_of_missing 6 recorded isName nothing isOpen (by decide)⟩

end Polyflow.Lookup
