/-
# What a successful round derives

A round of a call site succeeds when its call is recorded with three arguments,
the selector argument may be a text, and gathering succeeds. This module says what
it then derives, and what it leaves in the context: the unknowns made for members
are the only trace, and those made before stay as they are.
-/

import Polyflow.Proofs.Lookup.Findings

namespace Polyflow

/-- The outcome of a round in a context, and the context that results. -/
def Round.runIn {α : Type} (round : Round α) (context : Context) :
    Except RoundError α × Context :=
  (ExceptT.run round).run context

namespace Round

variable {α β : Type}

theorem runIn_pure (value : α) (context : Context) :
    Round.runIn (pure value) context = (.ok value, context) := rfl

theorem runIn_throw (error : RoundError) (context : Context) :
    Round.runIn (throw error : Round α) context = (.error error, context) := rfl

/-- What needs no context leaves it as it is. -/
theorem runIn_mk_pure (outcome : Except RoundError α) (context : Context) :
    Round.runIn (ExceptT.mk (pure outcome)) context = (outcome, context) := rfl

theorem runIn_getThe (context : Context) :
    Round.runIn (getThe Context) context = (.ok context, context) := rfl

theorem runIn_bind (first : Round α) (rest : α → Round β) (context : Context) :
    Round.runIn (first >>= rest) context =
      match first.runIn context with
      | (.ok value, middle) => (rest value).runIn middle
      | (.error error, middle) => (.error error, middle) := by
  simp only [runIn, ExceptT.run_bind, StateT.run_bind]
  cases (ExceptT.run first).run context with
  | mk outcome middle => cases outcome <;> rfl

/-- A bind succeeds when its first part does and the rest goes on from there. -/
theorem runIn_bind_eq_ok {first : Round α} {rest : α → Round β} {context after : Context}
    {result : β} :
    Round.runIn (first >>= rest) context = (.ok result, after) ↔
      ∃ value middle, first.runIn context = (.ok value, middle) ∧
        (rest value).runIn middle = (.ok result, after) := by
  rw [runIn_bind]
  cases first.runIn context with
  | mk outcome middle => cases outcome <;> simp

end Round

namespace Context

/-- The unknowns made for members so far stay the same. -/
def KeepsUnknowns (before after : Context) : Prop :=
  ∀ key id, before.memberUnknowns.lookup key = some id →
    after.memberUnknowns.lookup key = some id

/-- One more unknown is no loss if its member has none yet. -/
theorem keepsUnknowns_cons {context : Context} {key : ExprId × String} {id : ExprId}
    (isNew : context.memberUnknowns.lookup key = none) (next : ExprId) :
    context.KeepsUnknowns
      { context with next, memberUnknowns := (key, id) :: context.memberUnknowns } := by
  intro other known kept
  have differs : (other == key) = false := by
    apply beq_eq_false_iff_ne.mpr
    intro same
    rw [same, isNew] at kept
    cases kept
  simpa [List.lookup_cons, differs] using kept

theorem memberUnknown_run_of_known {container : Expr} {name : String} {context : Context}
    {id : ExprId} (found : context.memberUnknowns.lookup (container.id, name) = some id) :
    (memberUnknown container name).run context = (.placeholder id, context) := by
  simp [memberUnknown, found]
  rfl

theorem memberUnknown_run_of_new {container : Expr} {name : String} {context : Context}
    (isNew : context.memberUnknowns.lookup (container.id, name) = none) :
    (memberUnknown container name).run context = (.placeholder context.next, { context with
      next := context.next + 1
      memberUnknowns := ((container.id, name), context.next) :: context.memberUnknowns }) := by
  simp [memberUnknown, isNew, fresh]
  rfl

/-- The unknown of a member is on record once it was asked for. -/
theorem memberUnknown_run (container : Expr) (name : String) (context : Context) :
    ∃ id after, (memberUnknown container name).run context = (.placeholder id, after) ∧
      after.memberUnknowns.lookup (container.id, name) = some id ∧
      context.KeepsUnknowns after := by
  cases found : context.memberUnknowns.lookup (container.id, name) with
  | some id => exact ⟨id, context, memberUnknown_run_of_known found, found, fun _ _ kept => kept⟩
  | none =>
      exact ⟨_, _, memberUnknown_run_of_new found, by simp, keepsUnknowns_cons found _⟩

end Context

end Polyflow

namespace Polyflow.Lookup

variable {ρ : Type}

/-- One application of the function: the call and its arguments. -/
structure Application where
  call : Expr
  container : Expr
  selector : Expr
  fallback : Expr

namespace Application

/-- The expressions of an application. -/
def exprs (app : Application) : List Expr :=
  [app.container, app.selector, app.fallback, app.call]

/-- The first call recorded for a function expression is this application. -/
def RecordedAt (app : Application) (site : Expr) (facts : List (Constraint ρ)) : Prop :=
  ∃ record, Constraint.callOf? facts site = some record ∧ record.call = app.call ∧
    record.args = [app.container, app.selector, app.fallback]

/-- What a round observes of the record. -/
def containerHistory (app : Application) (context : Context) (solution : Solution) :
    List Observation :=
  (knownTypes context solution app.container).map Findings.containerObservation

/-- What a round observes of the result. -/
def resultHistory (app : Application) (context : Context) (solution : Solution) :
    List Observation :=
  Findings.resultHistory (fixedSelector? app.selector)
    (knownTypes context solution app.container) (knownTypes context solution app.fallback)
    (knownTypes context solution app.call)

/-- The result is observed in the picked members, in the types known of the fallback
and in those known of the call. -/
theorem forall_mem_resultHistory {app : Application} {context : Context} {solution : Solution}
    {holds : Observation → Prop} :
    (∀ observation ∈ app.resultHistory context solution, holds observation) ↔
      (∀ entry ∈ knownTypes context solution app.container, ∀ picked,
        Findings.selected? (fixedSelector? app.selector) entry = some picked →
          holds (Findings.resultObservation "struct member type" picked)) ∧
        (∀ entry ∈ knownTypes context solution app.fallback,
          holds (Findings.resultObservation "optional arg type" entry)) ∧
        ∀ entry ∈ knownTypes context solution app.call,
          holds (Findings.resultObservation "return type" entry) := by
  simp only [resultHistory, Findings.resultHistory, List.forall_mem_append, List.forall_mem_map,
    List.mem_filterMap, and_assoc]
  apply and_congr_left
  intro _
  apply Iff.intro
  · intro ofPicked entry isKnown picked isPicked
    exact ofPicked picked ⟨entry, isKnown, isPicked⟩
  · intro ofEntry picked fromEntry
    rcases fromEntry with ⟨entry, isKnown, isPicked⟩
    exact ofEntry entry isKnown picked isPicked

/-- Names are distinct in every type that is known of the expressions. -/
def WellNamed (app : Application) (context : Context) (solution : Solution) : Prop :=
  ∀ expr ∈ app.exprs, ∀ entry ∈ knownTypes context solution expr, entry.2.WellNamed

variable {app : Application} {context : Context} {solution : Solution}

theorem WellNamed.containerHistory (wellNamed : app.WellNamed context solution) :
    ∀ observation ∈ app.containerHistory context solution, observation.ty.WellNamed := by
  intro observation member
  obtain ⟨entry, isKnown, rfl⟩ := List.mem_map.mp member
  exact wellNamed app.container (by simp [exprs]) entry isKnown

theorem WellNamed.resultHistory (wellNamed : app.WellNamed context solution) :
    ∀ observation ∈ app.resultHistory context solution, observation.ty.WellNamed := by
  simp only [WellNamed, exprs, List.forall_mem_cons] at wellNamed
  rcases wellNamed with ⟨ofContainer, -, ofFallback, ofCall, -⟩
  rw [forall_mem_resultHistory]
  refine ⟨?_, ofFallback, ofCall⟩
  intro entry isKnown picked isPicked
  exact Findings.wellNamed_of_selected? (ofContainer entry isKnown) isPicked

end Application

namespace Slots

/-- The slots with a number and its three successors as identities. -/
def startingAt (next : ExprId) : Slots where
  container := .placeholder next
  selector := .placeholder (next + 1)
  fallback := .placeholder (next + 2)
  out := .placeholder (next + 3)

end Slots

/-- Setting up a call site succeeds and takes the next four numbers for its slots. -/
theorem constraints_runIn (site : Expr) (context : Context) :
    (constraints site).runIn context =
      let slots := Slots.startingAt context.next
      (.ok [.hasType slots.selector .text, .sameType slots.fallback slots.out,
        .function ⟨site, slots.args, slots.out⟩, .generator ⟨site, slots⟩],
        { context with next := context.next + 4 }) := rfl

namespace Slots

/-- What a member of the record is tied to: the result's slot if it is selected,
and otherwise the unknown on record for it. -/
def Represents (slots : Slots) (selector : String) (context : Context)
    (part : String × Expr) : Prop :=
  if part.1 = selector then part.2 = slots.out
  else ∃ id, part.2 = .placeholder id ∧
    context.memberUnknowns.lookup (slots.container.id, part.1) = some id

theorem memberExprs_cons_run (slots : Slots) (selector name : String) (rest : List String)
    (context : Context) :
    (slots.memberExprs selector (name :: rest)).run context =
      let first := if name = selector then (slots.out, context)
        else (Context.memberUnknown slots.container name).run context
      let others := (slots.memberExprs selector rest).run first.2
      ((name, first.1) :: others.1, others.2) := by
  rw [memberExprs]
  split <;> rfl

theorem memberExprs_run (slots : Slots) (selector : String) (names : List String)
    (context : Context) :
    ∃ parts after, (slots.memberExprs selector names).run context = (parts, after) ∧
      parts.map Prod.fst = names ∧ context.KeepsUnknowns after ∧
      ∀ part ∈ parts, slots.Represents selector after part := by
  induction names generalizing context with
  | nil => exact ⟨[], context, rfl, rfl, fun _ _ kept => kept, by simp⟩
  | cons name rest ih =>
      rw [memberExprs_cons_run]
      by_cases selected : name = selector
      · obtain ⟨parts, after, ran, names, keeps, represent⟩ := ih context
        simp only [if_pos selected, ran]
        refine ⟨_, _, rfl, congrArg (name :: ·) names, keeps,
          List.forall_mem_cons.mpr ⟨?_, represent⟩⟩
        rw [Represents, if_pos selected]
      · obtain ⟨id, middle, ranFirst, found, keepsFirst⟩ :=
          Context.memberUnknown_run slots.container name context
        obtain ⟨parts, after, ran, names, keeps, represent⟩ := ih middle
        simp only [if_neg selected, ranFirst, ran]
        refine ⟨_, _, rfl, congrArg (name :: ·) names,
          fun key id kept => keeps key id (keepsFirst key id kept),
          List.forall_mem_cons.mpr ⟨?_, represent⟩⟩
        rw [Represents, if_neg selected]
        exact ⟨id, rfl, keeps _ _ found⟩

/-- Names that are distinct are accepted for the parts of a constraint. -/
theorem record?_eq_ok (ρ : Type) (expr : Expr) {parts : List (String × Expr)}
    (distinct : (parts.map Prod.fst).Nodup) :
    Constraint.record? expr parts = .ok (.record ⟨expr, parts⟩ : Constraint ρ) := by
  rw [Constraint.record?, Constraint.distinctParts, distinctNames,
    firstRepeat?_eq_none_iff.mpr distinct]
  rfl

/-- A record is taken apart if it has the selected member. -/
theorem decompose_runIn (ρ : Type) (slots : Slots) {selector : String}
    {members : List (String × Ty)} (present : (members.lookup selector).isSome)
    (distinct : (members.map Prod.fst).Nodup) (context : Context) :
    ∃ parts after,
      (slots.decompose (some selector) (.record members)).runIn context =
        (.ok [(.record ⟨slots.container, parts⟩ : Constraint ρ)], after) ∧
      parts.map Prod.fst = members.map Prod.fst ∧
      ∀ part ∈ parts, slots.Represents selector after part := by
  obtain ⟨parts, after, ran, names, -, represent⟩ :=
    slots.memberExprs_run selector (members.map Prod.fst) context
  refine ⟨parts, after, ?_, names, represent⟩
  have accepted := record?_eq_ok ρ slots.container (names ▸ distinct)
  simp only [decompose, Ty.members?, present, if_true, Round.runIn_bind_eq_ok]
  exact ⟨parts, after, congrArg (fun outcome => (Except.ok outcome.1, outcome.2)) ran,
    _, after, by rw [accepted]; rfl, rfl⟩

/-- Nothing else is taken apart. -/
theorem decompose_eq_pure {slots : Slots} {selector : Option String} {ty : Ty}
    (absent : ∀ name members, selector = some name → ty = .record members →
      members.lookup name = none) :
    (slots.decompose selector ty : Round (List (Constraint ρ))) = pure [] := by
  cases selector with
  | none => rfl
  | some name =>
      cases ty with
      | record members => simp [decompose, Ty.members?, absent name members rfl rfl]
      | prim kind => rfl
      | func args ret => rfl
      | unknown => rfl

/-- Either the selector is known and names a member of the record that was found, or it
does not. -/
theorem selected_or_absent (selector : Option String) (found : Option Ty) :
    (∃ name members, selector = some name ∧ found = some (.record members) ∧
        (members.lookup name).isSome) ∨
      ∀ name members, selector = some name → found = some (.record members) →
        members.lookup name = none := by
  by_cases selects : ∃ name members, selector = some name ∧ found = some (.record members) ∧
      (members.lookup name).isSome
  · exact .inl selects
  · refine .inr fun name members isName isRecord => Option.not_isSome_iff_eq_none.mp ?_
    exact fun present => selects ⟨name, members, isName, isRecord, present⟩

/-- If it does, the type of the record and its members are stated. -/
theorem stateContainer_runIn_of_member (ρ : Type) (slots : Slots) {name : String}
    {members : List (String × Ty)} (present : (members.lookup name).isSome)
    (distinct : (members.map Prod.fst).Nodup) (context : Context) :
    ∃ exprs after,
      (slots.stateContainer (some name) (some (.record members))).runIn context =
        (.ok [.hasType slots.container (.record members),
          (.record ⟨slots.container, exprs⟩ : Constraint ρ)], after) ∧
      exprs.map Prod.fst = members.map Prod.fst ∧
      ∀ expr ∈ exprs, slots.Represents name after expr := by
  obtain ⟨exprs, after, ran, names, represent⟩ :=
    decompose_runIn ρ slots present distinct context
  refine ⟨exprs, after, ?_, names, represent⟩
  rw [stateContainer, Round.runIn_bind, ran]
  rfl

/-- Otherwise only its type is. -/
theorem stateContainer_runIn_of_no_member (ρ : Type) (slots : Slots) {selector : Option String}
    {found : Option Ty} (absent : ∀ name members, selector = some name →
      found = some (.record members) → members.lookup name = none) (context : Context) :
    (slots.stateContainer selector found).runIn context =
      (.ok (found.toList.map (.hasType slots.container) : List (Constraint ρ)), context) := by
  cases found with
  | none => rfl
  | some ty =>
      have nothing : (slots.decompose selector ty : Round (List (Constraint ρ))) = pure [] :=
        decompose_eq_pure fun name members isName isRecord =>
          absent name members isName (congrArg some isRecord)
      rw [stateContainer, nothing]
      rfl

/-- What is stated of the record: its type if one was found, and its members if the
selector is known and names one of them. -/
theorem stateContainer_runIn (ρ : Type) (slots : Slots) (selector : Option String)
    {found : Option Ty} (wellNamed : ∀ ty, found = some ty → ty.WellNamed) (context : Context) :
    ∃ (parts : List (Constraint ρ)) (after : Context),
      (slots.stateContainer selector found).runIn context =
        (.ok (found.toList.map (.hasType slots.container) ++ parts), after) ∧
      ∀ part ∈ parts, ∃ name members exprs,
        selector = some name ∧ found = some (.record members) ∧
        part = .record ⟨slots.container, exprs⟩ ∧
        exprs.map Prod.fst = members.map Prod.fst ∧
        ∀ expr ∈ exprs, slots.Represents name after expr := by
  rcases selected_or_absent selector found with ⟨name, members, rfl, rfl, present⟩ | absent
  · have distinct := (Ty.wellNamed_record.mp (wellNamed _ rfl)).1
    obtain ⟨exprs, after, ran, names, represent⟩ :=
      stateContainer_runIn_of_member ρ slots present distinct context
    refine ⟨[.record ⟨slots.container, exprs⟩], after, ran, ?_⟩
    intro part member
    cases List.mem_singleton.mp member
    exact ⟨name, members, exprs, rfl, rfl, rfl, names, represent⟩
  · refine ⟨[], context, ?_, by simp⟩
    rw [stateContainer_runIn_of_no_member ρ slots absent, List.append_nil]

/-- What ties an application to the slots, whatever is known. -/
def links (slots : Slots) (app : Application) : List (Constraint ρ) :=
  [.sameType app.call slots.out,
    .sameType app.container slots.container,
    .sameType app.selector slots.selector,
    .sameType app.fallback slots.fallback,
    .hasType app.selector .text]

/-- What a successful round does: the first call recorded for the site has three
arguments, no type known of the selector contradicts text, every type known of the
container is a record or unknown, and both histories are accepted to the end. -/
theorem derive_eq_ok_iff {slots : Slots} {site : Expr} {facts : List (Constraint ρ)}
    {solution : Solution} {context after : Context} {derived : List (Constraint ρ)} :
    (slots.derive site facts solution).runIn context = (.ok derived, after) ↔
      ∃ app : Application, app.RecordedAt site facts ∧ ∃ ofContainer,
        (∀ entry ∈ knownTypes context solution app.selector, entry.2.Agrees .text) ∧
        (∀ entry ∈ knownTypes context solution app.container,
          Findings.IsRecordOrUnknown entry.2) ∧
        Knowledge.acceptsAll {} (app.containerHistory context solution) = true ∧
        Knowledge.acceptsAll {} (app.resultHistory context solution) = true ∧
        (slots.stateContainer (fixedSelector? app.selector)
          (Knowledge.after {} (app.containerHistory context solution)).ty?).runIn context =
            (.ok ofContainer, after) ∧
        slots.links app ++ ofContainer ++
          slots.stateResult (Knowledge.after {} (app.resultHistory context solution)).ty? ++
          [.producedBy app.call site] = derived := by
  rw [derive]
  cases found : Constraint.callOf? facts site with
  | none =>
      rw [Round.runIn_throw]
      apply Iff.intro (by simp)
      intro stated
      rcases stated with ⟨app, ⟨record, found', -⟩, -⟩
      rw [found] at found'
      cases found'
  | some record =>
      dsimp only
      split
      case h_1 container selector fallback args =>
        simp only [Round.runIn_bind_eq_ok, Round.runIn_getThe, Round.runIn_mk_pure,
          Round.runIn_pure, Prod.mk.injEq, Except.ok.injEq, selectorOf_eq_ok_iff,
          Findings.gather_eq_ok_iff]
        apply Iff.intro
        · intro runs
          rcases runs with ⟨_, _, ⟨rfl, rfl⟩, _, _, ⟨⟨isText, rfl⟩, rfl⟩, _, _,
            ⟨⟨isRecord, ofContainer, ofResult, rfl⟩, rfl⟩, stated, _, ran, rfl, rfl⟩
          exact ⟨⟨record.call, container, selector, fallback⟩, ⟨record, found, rfl, args⟩,
            stated, isText, isRecord, ofContainer, ofResult, ran, rfl⟩
        · intro derives
          rcases derives with ⟨⟨_, _, _, _⟩, ⟨record', found', rfl, args'⟩, stated, isText,
            isRecord, ofContainer, ofResult, ran, rfl⟩
          cases found.symm.trans found'
          cases args.symm.trans args'
          exact ⟨_, _, ⟨rfl, rfl⟩, _, _, ⟨⟨isText, rfl⟩, rfl⟩, _, _,
            ⟨⟨isRecord, ofContainer, ofResult, rfl⟩, rfl⟩, stated, _, ran, rfl, rfl⟩
      case h_2 other =>
        rw [Round.runIn_throw]
        apply Iff.intro (by simp)
        intro stated
        rcases stated with ⟨app, ⟨record', found', -, args⟩, -⟩
        cases found.symm.trans found'
        exact absurd args (other _ _ _)

end Slots

end Polyflow.Lookup
