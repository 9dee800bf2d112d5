/-
# Unknowns of members, stable and fresh

The rule of a call site makes an unknown for a member of its record when a round first
asks for it. This module follows an inference from its start, through any course of
expressions made, types declared, sites set up and rounds run, and says what becomes of
these unknowns. Every number below the next one is given out once: to an expression of
the graph, to a slot or to an unknown. A member keeps its unknown for good, so that a
round that is run again answers the same.
-/

import Polyflow.Proofs.Lookup.Course
import Polyflow.Proofs.Lookup.Failure

namespace Polyflow

namespace Context

/-- The context after an unknown was made for each of the given members of a record, in
their order. -/
def withUnknowns (context : Context) (container : Expr) (names : List String) : Context :=
  { context with
    next := context.next + names.length
    memberUnknowns := ((names.zipIdx context.next).map fun entry =>
      ((container.id, entry.1), entry.2)).reverse ++ context.memberUnknowns }

/-- Unknowns are made one after the other. -/
theorem withUnknowns_cons (context : Context) (container : Expr) (name : String)
    (rest : List String) :
    context.withUnknowns container (name :: rest) =
      (context.withUnknowns container [name]).withUnknowns container rest := by
  simp [withUnknowns, List.zipIdx_cons, Nat.add_comm, Nat.add_left_comm]

/-- The identities of the unknowns made for members. -/
def unknownIds (context : Context) : List ExprId :=
  context.memberUnknowns.map Prod.snd

/-- New unknowns take the next numbers. -/
theorem unknownIds_withUnknowns (context : Context) (container : Expr) (names : List String) :
    (context.withUnknowns container names).unknownIds =
      (List.range' context.next names.length).reverse ++ context.unknownIds := by
  have numbers : ((names.zipIdx context.next).map fun entry =>
      ((container.id, entry.1), entry.2)).map Prod.snd =
        List.range' context.next names.length := by
    rw [List.map_map, ← List.zipIdx_map_snd]
    rfl
  rw [unknownIds, withUnknowns, List.map_append, List.map_reverse, numbers, unknownIds]

/-- An unknown on record is among the unknowns that were made. -/
theorem mem_unknownIds {context : Context} {key : ExprId × String} {id : ExprId}
    (onRecord : context.memberUnknowns.lookup key = some id) : id ∈ context.unknownIds := by
  obtain ⟨before, later, isSplit, -⟩ := List.lookup_eq_some_iff.mp onRecord
  simp [unknownIds, isSplit]

/-- If no number was given out twice, an unknown stands for one member only. -/
theorem eq_of_unknown {context : Context} (distinct : context.unknownIds.Nodup)
    {key key' : ExprId × String} {id : ExprId}
    (onRecord : context.memberUnknowns.lookup key = some id)
    (onRecord' : context.memberUnknowns.lookup key' = some id) : key = key' := by
  obtain ⟨_, _, isSplit, -⟩ := List.lookup_eq_some_iff.mp onRecord
  obtain ⟨_, _, isSplit', -⟩ := List.lookup_eq_some_iff.mp onRecord'
  have member : (key, id) ∈ context.memberUnknowns := by simp [isSplit]
  have member' : (key', id) ∈ context.memberUnknowns := by simp [isSplit']
  exact (Prod.mk.inj (List.inj_on_of_nodup_map distinct member member' rfl)).1

/-- What is new among the unknowns was made for a member of the record, and has one of the
next numbers. -/
theorem new_of_withUnknowns {context : Context} {container : Expr} {names : List String}
    {key : ExprId × String} {id : ExprId} (isNew : context.memberUnknowns.lookup key = none)
    (made : (context.withUnknowns container names).memberUnknowns.lookup key = some id) :
    key.1 = container.id ∧ context.next ≤ id := by
  simp only [withUnknowns] at made
  rw [List.lookup_append, isNew, Option.or_none] at made
  obtain ⟨_, _, isSplit, -⟩ := List.lookup_eq_some_iff.mp made
  have member : (key, id) ∈ ((names.zipIdx context.next).map fun entry =>
      ((container.id, entry.1), entry.2)).reverse := by simp [isSplit]
  obtain ⟨entry, isEntry, same⟩ := List.mem_map.mp (List.mem_reverse.mp member)
  cases same
  exact ⟨rfl, List.le_snd_of_mem_zipIdx isEntry⟩

end Context

/-- As long as the unknowns that it used are on record, a round answers the same. -/
def Round.Recalls {α : Type} (round : Round α) : Prop :=
  ∀ before later : Context, (round.runIn before).2.KeepsUnknowns later →
    (round.runIn later).1 = (round.runIn before).1

namespace Round

variable {α β : Type}

theorem recalls_pure (value : α) : (pure value : Round α).Recalls := fun _ _ _ => rfl

theorem recalls_throw (error : RoundError) : (throw error : Round α).Recalls := fun _ _ _ => rfl

theorem recalls_bind {first : Round α} {rest : α → Round β} (firstGrows : first.Grows)
    (firstRecalls : first.Recalls) (restGrows : ∀ value, (rest value).Grows)
    (restRecalls : ∀ value, (rest value).Recalls) : Round.Recalls (first >>= rest) := by
  intro before later keeps
  have growsLater := (firstGrows later).unknowns
  have same := firstRecalls before later
  simp only [runIn_bind] at keeps ⊢
  cases ran : first.runIn before with
  | mk outcome middle =>
      simp only [ran] at keeps same
      cases outcome with
      | error error =>
          have fails := same keeps
          cases ran' : first.runIn later with
          | mk outcome' middle' =>
              rw [ran'] at fails
              cases fails
              rfl
      | ok value =>
          have growsRest := (restGrows value middle).unknowns
          have succeeds := same fun key id kept => keeps key id (growsRest key id kept)
          cases ran' : first.runIn later with
          | mk outcome' middle' =>
              rw [ran'] at succeeds growsLater
              cases succeeds
              exact restRecalls value middle middle' fun key id kept =>
                growsLater key id (keeps key id kept)

end Round

end Polyflow

namespace Polyflow.Lookup

variable {ρ : Type}

theorem recalls_made (constraint : Except ShapeError (Constraint ρ)) :
    (made constraint).Recalls := by
  cases constraint with
  | ok constraint => exact Round.recalls_pure constraint
  | error error => exact Round.recalls_throw _

namespace Slots

/-- The members of a record are tied to the same expressions again. -/
theorem memberExprs_again (slots : Slots) (selector : String) (names : List String)
    (before later : Context)
    (keeps : ((slots.memberExprs selector names).run before).2.KeepsUnknowns later) :
    ((slots.memberExprs selector names).run later).1 =
      ((slots.memberExprs selector names).run before).1 := by
  induction names generalizing before with
  | nil => rfl
  | cons name rest ih =>
      rw [memberExprs_cons_run] at keeps
      rw [memberExprs_cons_run, memberExprs_cons_run]
      split at keeps
      case isTrue selected =>
        simp only [if_pos selected]
        exact congrArg _ (ih before keeps)
      case isFalse other =>
        simp only [if_neg other]
        obtain ⟨id, middle, ran, onRecord, -⟩ :=
          Context.memberUnknown_run slots.container name before
        rw [ran] at keeps ⊢
        have stays := keeps _ _ ((slots.grows_memberExprs selector rest middle).unknowns _ _ onRecord)
        rw [Context.memberUnknown_run_of_known stays]
        exact congrArg _ (ih middle keeps)

theorem recalls_decompose (slots : Slots) (selector : Option String) (ty : Ty) :
    (slots.decompose selector ty : Round (List (Constraint ρ))).Recalls := by
  unfold decompose
  split
  · split
    · apply Round.recalls_bind
      · exact slots.grows_memberExprs _ _
      · intro before later keeps
        exact congrArg Except.ok (slots.memberExprs_again _ _ before later keeps)
      · exact fun parts => Round.grows_bind (grows_made _) fun _ => Round.grows_pure _
      · exact fun parts => Round.recalls_bind (grows_made _) (recalls_made _)
          (fun _ => Round.grows_pure _) fun _ => Round.recalls_pure _
    · exact Round.recalls_pure _
  · exact Round.recalls_pure _

theorem recalls_stateContainer (slots : Slots) (selector : Option String) (found : Option Ty) :
    (slots.stateContainer selector found : Round (List (Constraint ρ))).Recalls := by
  cases found with
  | none => exact Round.recalls_pure _
  | some ty =>
      exact Round.recalls_bind (slots.grows_decompose selector ty) (slots.recalls_decompose _ _)
        (fun _ => Round.grows_pure _) fun _ => Round.recalls_pure _

end Slots

/-- What a round finds out from the facts and from the types that are known, before it
asks for any unknown: the application on record, the selector if it is fixed, and the types
of the record and of the result. -/
def survey (site : Expr) (facts : List (Constraint ρ)) (known : Expr → List (Source × Ty)) :
    Except RoundError (Application × Option String × Findings) :=
  match Constraint.callOf? facts site with
  | none => .error .noProgress
  | some record =>
    match record.args with
    | [container, selector, fallback] =>
      match selectorOf (known selector) selector with
      | .ok name =>
        (Findings.gather name (known container) (known fallback) (known record.call)).map
          fun findings => (⟨record.call, container, selector, fallback⟩, name, findings)
      | .error error => .error error
    | args => .error (.arity arity args.length)

theorem map_eq_ok {ε α β : Type} {outcome : Except ε α} {change : α → β} {result : β} :
    outcome.map change = .ok result ↔ ∃ value, outcome = .ok value ∧ change value = result := by
  cases outcome <;> simp [Except.map]

/-- The selector that was read is the one that the argument fixes, and the record that was
found is well named. -/
theorem survey_eq_ok {site : Expr} {facts : List (Constraint ρ)} {solution : Solution}
    {context : Context} {app : Application} {name : Option String} {findings : Findings}
    (reads : survey site facts (knownTypes context solution) = .ok (app, name, findings)) :
    app.RecordedAt site facts ∧ name = fixedSelector? app.selector ∧
      findings.container = Knowledge.after {} (app.containerHistory context solution) := by
  rw [survey] at reads
  split at reads
  case h_1 => cases reads
  case h_2 record found =>
    split at reads
    case h_1 container selector fallback args =>
      split at reads
      case h_1 selected selects =>
        obtain ⟨gathered, gathers, same⟩ := map_eq_ok.mp reads
        cases same
        obtain ⟨-, -, -, rfl⟩ := Findings.gather_eq_ok_iff.mp gathers
        exact ⟨⟨record, found, rfl, args⟩, (selectorOf_eq_ok_iff.mp selects).2.symm, rfl⟩
      case h_2 => cases reads
    case h_2 => cases reads

/-- The records that are taken apart in a list of constraints. -/
def recordsAmong (constraints : List (Constraint ρ)) : List RecordShape :=
  constraints.filterMap fun
    | .record shape => some shape
    | _ => none

theorem mem_recordsAmong {constraints : List (Constraint ρ)} {shape : RecordShape} :
    shape ∈ recordsAmong constraints ↔ .record shape ∈ constraints := by
  rw [recordsAmong, List.mem_filterMap]
  constructor
  · rintro ⟨constraint, member, isShape⟩
    cases constraint with
    | record other =>
        cases isShape
        exact member
    | _ => cases isShape
  · intro member
    exact ⟨_, member, rfl⟩

namespace Slots

variable {slots : Slots} {site : Expr} {facts : List (Constraint ρ)} {solution : Solution}
  {context : Context}

/-- What a round answers once it has found something out: it takes the record apart, if it
can, and states what else it found. -/
def conclude (slots : Slots) (site : Expr) (context : Context) :
    Except RoundError (Application × Option String × Findings) →
      Except RoundError (List (Constraint ρ)) × Context
  | .error error => (.error error, context)
  | .ok (app, name, findings) =>
    match (slots.stateContainer name findings.container.ty?).runIn context with
    | (.ok ofContainer, after) =>
      (.ok (slots.links app ++ ofContainer ++ slots.stateResult findings.result.ty? ++
        [.producedBy app.call site]), after)
    | (.error error, after) => (.error error, after)

/-- A round first reads, and uses the context only then to take the record apart. -/
theorem derive_runIn (slots : Slots) (site : Expr) (facts : List (Constraint ρ))
    (solution : Solution) (context : Context) :
    (slots.derive site facts solution).runIn context =
      slots.conclude site context (survey site facts (knownTypes context solution)) := by
  rw [derive, survey]
  cases Constraint.callOf? facts site with
  | none => rfl
  | some record =>
      rcases record with ⟨call, func, args⟩
      rcases args with _ | ⟨container, _ | ⟨selector, _ | ⟨fallback, _ | ⟨further, rest⟩⟩⟩⟩
      case cons.cons.cons.nil =>
        simp only [Round.runIn_bind, Round.runIn_getThe, Round.runIn_mk_pure, Round.runIn_pure]
        cases selectorOf (knownTypes context solution selector) selector with
        | error error => rfl
        | ok name =>
            dsimp only
            cases Findings.gather name (knownTypes context solution container)
              (knownTypes context solution fallback) (knownTypes context solution call) with
            | error error => rfl
            | ok findings =>
                dsimp only [Except.map, conclude]
                cases (slots.stateContainer name findings.container.ty?).runIn context with
                | mk outcome after => cases outcome <;> rfl
      -- A call with another number of arguments is refused on both sides.
      all_goals rfl

/-- A round that is run again under the same declared types answers the same, whatever
happened since. -/
theorem derive_again (slots : Slots) (site : Expr) (facts : List (Constraint ρ))
    (solution : Solution) {before later : Context}
    (declared : ∀ expr, later.typeOf? expr = before.typeOf? expr)
    (keeps : ((slots.derive site facts solution).runIn before).2.KeepsUnknowns later) :
    ((slots.derive site facts solution).runIn later).1 =
      ((slots.derive site facts solution).runIn before).1 := by
  have known : knownTypes later solution = knownTypes before solution :=
    funext fun expr => by rw [knownTypes, knownTypes, declared expr]
  rw [derive_runIn] at keeps
  rw [derive_runIn, derive_runIn, known]
  cases read : survey site facts (knownTypes before solution) with
  | error error => rfl
  | ok reading =>
      rcases reading with ⟨app, name, findings⟩
      simp only [read, conclude] at keeps ⊢
      have recalls : Round.Recalls (slots.stateContainer name findings.container.ty? :
          Round (List (Constraint ρ))) := slots.recalls_stateContainer _ _
      have same := recalls before later
      cases ran : (slots.stateContainer name findings.container.ty? :
          Round (List (Constraint ρ))).runIn before with
      | mk outcome after =>
          cases ran' : (slots.stateContainer name findings.container.ty? :
              Round (List (Constraint ρ))).runIn later with
          | mk outcome' after' =>
              rw [ran, ran'] at same
              rw [ran] at keeps
              cases outcome with
              | ok stated =>
                  cases same keeps
                  rfl
              | error error =>
                  cases same keeps
                  rfl

/-- The members that an unknown is made for when a record of them is taken apart: all but
the selected one and those that have one already. -/
def newMembers (slots : Slots) (selector : Option String) (context : Context)
    (names : List String) : List String :=
  names.filter fun name => selector != some name &&
    (context.memberUnknowns.lookup (slots.container.id, name)).isNone

/-- An unknown for one member does not concern the others. -/
theorem newMembers_withUnknowns (slots : Slots) (selector : Option String) (context : Context)
    {name : String} {names : List String} (fresh : name ∉ names) :
    slots.newMembers selector (context.withUnknowns slots.container [name]) names =
      slots.newMembers selector context names := by
  apply List.filter_congr
  intro other member
  have differs : ((slots.container.id, other) == (slots.container.id, name)) = false := by
    rw [beq_eq_false_iff_ne]
    intro same
    exact fresh ((Prod.mk.inj same).2 ▸ member)
  simp [Context.withUnknowns, List.lookup_cons, differs]

theorem memberExprs_context (slots : Slots) (selector : String) {names : List String}
    (distinct : names.Nodup) (context : Context) :
    ((slots.memberExprs selector names).run context).2 =
      context.withUnknowns slots.container (slots.newMembers (some selector) context names) := by
  induction names generalizing context with
  | nil => rfl
  | cons name rest ih =>
      obtain ⟨fresh, distinctRest⟩ := List.nodup_cons.mp distinct
      rw [memberExprs_cons_run, newMembers, List.filter_cons]
      by_cases selected : name = selector
      · subst selected
        simp only [if_true, bne_self_eq_false, Bool.false_and]
        exact ih distinctRest context
      · have other : (some selector != some name) = true := by simpa using Ne.symm selected
        simp only [if_neg selected, other, Bool.true_and]
        cases found : context.memberUnknowns.lookup (slots.container.id, name) with
        | some id =>
            rw [Context.memberUnknown_run_of_known found]
            exact ih distinctRest context
        | none =>
            rw [Context.memberUnknown_run_of_new found, Option.isNone_none, if_pos rfl,
              Context.withUnknowns_cons]
            have later := ih distinctRest (context.withUnknowns slots.container [name])
            rwa [newMembers_withUnknowns slots _ context fresh] at later

/-- The names of the members that are taken apart in a list of constraints. -/
def membersApart (constraints : List (Constraint ρ)) : List String :=
  constraints.flatMap fun
    | .record shape => shape.members.map Prod.fst
    | _ => []

theorem membersApart_eq_flatMap (constraints : List (Constraint ρ)) :
    membersApart constraints =
      (recordsAmong constraints).flatMap fun shape => shape.members.map Prod.fst := by
  induction constraints with
  | nil => rfl
  | cons constraint rest ih => cases constraint <;> simp_all [membersApart, recordsAmong]

/-- Nothing else that a round derives takes a record apart. -/
theorem recordsAmong_derived (slots : Slots) (app : Application) (site : Expr)
    (ofContainer : List (Constraint ρ)) (found : Option Ty) :
    recordsAmong (slots.links app ++ ofContainer ++ slots.stateResult found ++
      [.producedBy app.call site]) = recordsAmong ofContainer := by
  have ofLinks : recordsAmong (slots.links app : List (Constraint ρ)) = [] := rfl
  have ofResult : recordsAmong (slots.stateResult found : List (Constraint ρ)) = [] := by
    cases found <;> rfl
  have ofCall : recordsAmong [(.producedBy app.call site : Constraint ρ)] = [] := rfl
  simp only [recordsAmong, List.filterMap_append] at ofLinks ofResult ofCall ⊢
  simp only [ofLinks, ofResult, ofCall, List.nil_append, List.append_nil]

theorem membersApart_derived (slots : Slots) (app : Application) (site : Expr)
    (ofContainer : List (Constraint ρ)) (found : Option Ty) :
    membersApart (slots.links app ++ ofContainer ++ slots.stateResult found ++
      [.producedBy app.call site]) = membersApart ofContainer := by
  rw [membersApart_eq_flatMap, recordsAmong_derived, ← membersApart_eq_flatMap]

theorem stateContainer_context_of_member (ρ : Type) (slots : Slots) {selector : String}
    {members : List (String × Ty)} (present : (members.lookup selector).isSome) (context : Context) :
    ((slots.stateContainer (some selector) (some (.record members)) :
        Round (List (Constraint ρ))).runIn context).2 =
      ((slots.memberExprs selector (members.map Prod.fst)).run context).2 := by
  rcases ran : (slots.memberExprs selector (members.map Prod.fst)).run context with ⟨parts, after⟩
  have lifted : Round.runIn (liftM (slots.memberExprs selector (members.map Prod.fst))) context =
      (.ok parts, after) := congrArg (fun result => (Except.ok result.1, result.2)) ran
  simp only [stateContainer, decompose, Ty.members?, present, if_true, Round.runIn_bind, lifted]
  cases (Constraint.record? slots.container parts : Except ShapeError (Constraint ρ)) <;> rfl

/-- What is stated of the record takes apart the members whose unknowns were made for it. -/
theorem stateContainer_makes (ρ : Type) (slots : Slots) (selector : Option String)
    {found : Option Ty} (wellNamed : ∀ ty, found = some ty → ty.WellNamed) (context : Context) :
    ∃ (stated : List (Constraint ρ)) (after : Context),
      (slots.stateContainer selector found).runIn context = (.ok stated, after) ∧
      after = context.withUnknowns slots.container
        (slots.newMembers selector context (membersApart stated)) ∧
      ∀ shape, .record shape ∈ stated → shape.expr = slots.container ∧
        ∃ name, selector = some name ∧ ∀ part ∈ shape.members, slots.Represents name after part := by
  rcases selected_or_absent selector found with ⟨name, members, rfl, rfl, present⟩ | absent
  · have distinct := (Ty.wellNamed_record.mp (wellNamed _ rfl)).1
    obtain ⟨exprs, after, ran, names, represent⟩ :=
      stateContainer_runIn_of_member ρ slots present distinct context
    refine ⟨_, after, ran, ?_, ?_⟩
    · have isAfter := stateContainer_context_of_member ρ slots present context
      rw [ran, memberExprs_context slots name distinct] at isAfter
      simpa [membersApart, names] using isAfter
    · intro shape member
      have isShape : shape = ⟨slots.container, exprs⟩ := by simpa using member
      subst isShape
      exact ⟨rfl, name, rfl, represent⟩
  · refine ⟨_, context, stateContainer_runIn_of_no_member ρ slots absent context, ?_, ?_⟩
    · have nothing : membersApart (found.toList.map
          (.hasType slots.container) : List (Constraint ρ)) = [] := by cases found <;> rfl
      rw [nothing]
      rfl
    · intro shape member
      simp at member

/-- What a round makes: nothing if it fails, and otherwise an unknown for each member that
it takes apart, but for the selected one and those that have one already. -/
theorem derive_makes (slots : Slots)
    (wellNamed : ∀ app : Application, app.RecordedAt site facts → app.WellNamed context solution) :
    let ran := (slots.derive site facts solution).runIn context
    (∀ derived, ran.1 = .ok derived → ∃ app : Application, app.RecordedAt site facts ∧
      ran.2 = context.withUnknowns slots.container
        (slots.newMembers (fixedSelector? app.selector) context (membersApart derived)) ∧
      ∀ shape, .record shape ∈ derived → shape.expr = slots.container ∧
        ∃ name, fixedSelector? app.selector = some name ∧
          ∀ part ∈ shape.members, slots.Represents name ran.2 part) ∧
      ∀ error, ran.1 = .error error → ran.2 = context := by
  intro ran
  have isRan : ran = (slots.derive site facts solution).runIn context := rfl
  rw [derive_runIn] at isRan
  cases reads : survey site facts (knownTypes context solution) with
  | error error =>
      rw [reads, conclude] at isRan
      rw [isRan]
      exact ⟨by simp, fun _ _ => rfl⟩
  | ok reading =>
      rcases reading with ⟨app, selector, findings⟩
      obtain ⟨recorded, rfl, isFound⟩ := survey_eq_ok reads
      have foundNamed (ty : Ty) (holds : findings.container.ty? = some ty) : ty.WellNamed :=
        Knowledge.kept_of_observed Ty.WellNamed (wellNamed app recorded).containerHistory
          (isFound ▸ holds)
      obtain ⟨stated, after, states, isAfter, represent⟩ :=
        slots.stateContainer_makes ρ (fixedSelector? app.selector) foundNamed context
      simp only [reads, conclude, states] at isRan
      rw [isRan]
      refine ⟨fun derived succeeds => ?_, by simp⟩
      cases succeeds
      refine ⟨app, recorded, ?_, ?_⟩
      · rw [membersApart_derived]
        exact isAfter
      · intro shape member
        rw [← mem_recordsAmong, recordsAmong_derived, mem_recordsAmong] at member
        exact represent shape member

end Slots

end Polyflow.Lookup
