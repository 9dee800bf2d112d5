/-
# When a record is taken apart

A round states the members of a record only if the selector is a fixed text and a record
type that is known of the container has a member of that name. Which source knows it does
not matter: what is declared and what was solved have the same names, though perhaps in
another order, or the round fails. Then the members are stated once, under the names of the
type that the same round asserts of the record. The selected one is tied to the result, and
every other one to an unknown of its own. No round fails because they cannot be stated.
-/

import Polyflow.Proofs.Lookup.Numbering
import Polyflow.Proofs.Lookup.Rounds
import Polyflow.Proofs.Lookup.Soundness

namespace Polyflow.Lookup

variable {ρ : Type}

/-- The selector of an application is a fixed text, and some record type that is known of
its container has a member of that name. -/
structure Application.Selects (app : Application) (context : Context) (solution : Solution)
    (name : String) : Prop where
  nonempty : name ≠ ""
  fixed : ∃ id, app.selector = .literal id (.text name)
  present : ∃ entry ∈ knownTypes context solution app.container, ∃ members,
    entry.2 = .record members ∧ (members.lookup name).isSome

namespace Stage

variable {site : Expr} {stage : Stage ρ} {app : Application} {name : String}

/-- What is known of the container has the names of the type that is found for the record:
one of two known types is kept, and the other one agrees with it. -/
theorem Accepts.present_iff (accepts : stage.Accepts site app)
    (wellNamed : app.WellNamed stage.context stage.solution) :
    (∃ entry ∈ knownTypes stage.context stage.solution app.container, ∃ members,
        entry.2 = .record members ∧ (members.lookup name).isSome) ↔
      ∃ members, stage.container? app = some (.record members) ∧
        (members.lookup name).isSome := by
  constructor
  · rintro ⟨entry, isKnown, theirs, isRecord, present⟩
    have observed : Findings.containerObservation entry ∈
        app.containerHistory stage.context stage.solution := List.mem_map_of_mem isKnown
    have isTheirs : (Findings.containerObservation entry).ty = .record theirs := isRecord
    obtain ⟨kept, isKept⟩ := Knowledge.exists_ty?_of_observed accepts.ofContainer observed
      (by rw [isTheirs]; exact Ty.noConfusion)
    obtain ⟨observation, inside, rfl⟩ := Knowledge.exists_observed_of_ty? isKept
    have agrees := Knowledge.agrees_of_length_le_two length_containerHistory_le
      wellNamed.containerHistory accepts.ofContainer observation inside _ observed
    rw [isTheirs] at agrees
    have known : observation.ty ≠ .unknown :=
      Knowledge.ne_unknown_of_ty?_after (by simp [Knowledge.ty?]) isKept
    obtain ⟨ours, isOurs⟩ := exists_record_of_agrees known agrees
    have named := wellNamed.containerHistory observation inside
    rw [isOurs] at agrees named isKept
    have matched := (Ty.record_agrees_record (Ty.wellNamed_record.mp named).1).mp agrees
    exact ⟨ours, isKept, (rel_iff.mp (matched name)).1.mpr present⟩
  · rintro ⟨members, isKept, present⟩
    obtain ⟨observation, inside, isRecord⟩ := Knowledge.exists_observed_of_ty? isKept
    obtain ⟨entry, isKnown, rfl⟩ := List.mem_map.mp inside
    exact ⟨entry, isKnown, members, isRecord, present⟩

/-- The selector selects a member exactly if the type that is found for the record has it. -/
theorem Accepts.selects_iff (accepts : stage.Accepts site app)
    (wellNamed : app.WellNamed stage.context stage.solution) :
    app.Selects stage.context stage.solution name ↔
      fixedSelector? app.selector = some name ∧ ∃ members,
        stage.container? app = some (.record members) ∧ (members.lookup name).isSome := by
  rw [fixedSelector?_eq_some_iff, ← accepts.present_iff wellNamed]
  exact ⟨fun ⟨nonempty, fixed, present⟩ => ⟨⟨nonempty, fixed⟩, present⟩,
    fun ⟨⟨nonempty, fixed⟩, present⟩ => ⟨nonempty, fixed, present⟩⟩

end Stage

namespace Stage

variable {slots : Slots} {site : Expr} {stage : Stage ρ} {app : Application} {name : String}
  {derived : List (Constraint ρ)} {after : Context}

/-- A round that succeeds takes one record apart if the selector selects a member, and none
otherwise. -/
theorem recordsAmong_of_succeeds (accepts : stage.Accepts site app)
    (wellNamed : app.WellNamed stage.context stage.solution)
    (succeeds : (slots.derive site stage.facts stage.solution).runIn stage.context =
      (.ok derived, after)) :
    (∀ name, app.Selects stage.context stage.solution name →
      ∃ members parts, stage.container? app = some (.record members) ∧
        (members.map Prod.fst).Nodup ∧ name ∈ members.map Prod.fst ∧
        recordsAmong derived = [⟨slots.container, parts⟩] ∧
        parts.map Prod.fst = members.map Prod.fst ∧
        ∀ part ∈ parts, slots.Represents name after part) ∧
      ((∀ name, ¬app.Selects stage.context stage.solution name) → recordsAmong derived = []) := by
  obtain ⟨other, recorded, ofContainer, -, -, -, -, states, isDerived⟩ :=
    Slots.derive_eq_ok_iff.mp succeeds
  have same := recordedAt_unique recorded accepts.recorded
  subst same
  subst isDerived
  rw [Slots.recordsAmong_derived]
  replace states : (slots.stateContainer (fixedSelector? other.selector)
    (stage.container? other)).runIn stage.context = (.ok ofContainer, after) := states
  constructor
  · intro name selects
    obtain ⟨isFixed, members, isFound, present⟩ := (accepts.selects_iff wellNamed).mp selects
    have named : (Ty.record members).WellNamed :=
      Knowledge.kept_of_observed Ty.WellNamed wellNamed.containerHistory isFound
    have distinct := (Ty.wellNamed_record.mp named).1
    obtain ⟨parts, after', ran, names, represent⟩ :=
      Slots.stateContainer_runIn_of_member ρ slots present distinct stage.context
    rw [isFixed, isFound, ran] at states
    cases states
    exact ⟨members, parts, isFound, distinct, lookup_isSome_iff_mem.mp present, rfl, names,
      represent⟩
  · intro nothing
    have absent : ∀ name members, fixedSelector? other.selector = some name →
        stage.container? other = some (.record members) → members.lookup name = none := by
      intro name members isFixed isFound
      refine Option.not_isSome_iff_eq_none.mp fun present => nothing name ?_
      exact (accepts.selects_iff wellNamed).mpr ⟨isFixed, members, isFound, present⟩
    rw [Slots.stateContainer_runIn_of_no_member ρ slots absent] at states
    cases states
    cases stage.container? other <;> rfl

/-- Of a record that is taken apart, the round asserts the type that it found, and no
other. -/
theorem hasType_container_iff {next : ExprId} (accepts : stage.Accepts site app)
    (wellNamed : app.WellNamed stage.context stage.solution)
    (selects : app.Selects stage.context stage.solution name)
    (succeeds : (((Slots.startingAt next).derive site stage.facts stage.solution).runIn
      stage.context).1 = .ok derived) {ty : Ty} :
    .hasType (Slots.startingAt next).container ty ∈ derived ↔ stage.container? app = some ty := by
  have asserts : stage.Asserts (Slots.startingAt next) site (Slots.startingAt next).container ty ↔
      .hasType (Slots.startingAt next).container ty ∈ derived := by
    constructor
    · rintro ⟨derived', succeeds', member⟩
      cases succeeds.symm.trans succeeds'
      exact member
    · intro member
      exact ⟨derived, succeeds, member⟩
  -- The selector is a constant, so what is asserted of it is asserted of no slot.
  obtain ⟨id, isLiteral⟩ := selects.fixed
  rw [← asserts, asserts_iff accepts wellNamed, isLiteral]
  simp [Slots.startingAt]

end Stage

/-- Reading never ends over the shape of a constraint. -/
theorem survey_ne_shape {site : Expr} {facts : List (Constraint ρ)}
    {known : Expr → List (Source × Ty)} {error : ShapeError} :
    survey site facts known ≠ .error (.shape error) := by
  intro fails
  rw [survey] at fails
  split at fails
  case h_1 => cases fails
  case h_2 =>
    split at fails
    case h_1 =>
      split at fails
      case h_1 name selects =>
        cases gathers : Findings.gather name _ _ _ with
        | ok findings =>
            rw [gathers] at fails
            cases fails
        | error conflict =>
            rw [gathers] at fails
            cases fails
            exact Findings.isConflict_of_gather gathers
      case h_2 _ selects =>
        cases fails
        exact isConflict_of_selectorOf selects
    case h_2 => cases fails

/-- No round fails because a constraint cannot be made. -/
theorem Slots.derive_ne_shape {slots : Slots} {site : Expr} {facts : List (Constraint ρ)}
    {solution : Solution} {context : Context} {error : ShapeError}
    (wellNamed : ∀ app : Application, app.RecordedAt site facts → app.WellNamed context solution) :
    ((slots.derive site facts solution).runIn context).1 ≠ .error (.shape error) := by
  intro fails
  cases reads : survey site facts (knownTypes context solution) with
  | error other =>
      rw [derive_runIn, reads] at fails
      cases fails
      exact survey_ne_shape reads
  | ok reading =>
      obtain ⟨recorded, -⟩ := survey_eq_ok reads
      exact isConflict_of_derive recorded (wellNamed _ recorded) fails

namespace Inference

variable {inference later : Inference} {event : Event ρ} {events : List (Event ρ)}
  {rule : Generator Slots} {name : String}

/-- The slots of a rule are unknowns with numbers in a row. -/
def Issued (inference : Inference) : Prop :=
  ∀ rule ∈ inference.rules, ∃ next, rule.rule = Slots.startingAt next

theorem Issued.after (issued : inference.Issued) : (inference.after event).Issued := by
  cases event with
  | setUp site => exact List.forall_mem_cons.mpr ⟨⟨inference.context.next, rfl⟩, issued⟩
  | _ => exact issued

theorem Issued.afterAll (issued : inference.Issued) : (inference.afterAll events).Issued := by
  induction events generalizing inference with
  | nil => exact issued
  | cons event rest ih => exact ih issued.after

/-- Only the selected member is tied to the result. -/
theorem Numbered.same_out_iff (numbered : later.Numbered) (ofRules : rule ∈ later.rules)
    {part : String × Expr} (represents : rule.rule.Represents name later.context part) :
    part.2.same rule.rule.out = true ↔ part.1 = name := by
  rw [Expr.same, decide_eq_true_iff]
  rw [Slots.Represents] at represents
  split at represents
  case isTrue selected => simp [selected, represents]
  case isFalse other =>
    obtain ⟨id, isUnknown, onRecord⟩ := represents
    refine iff_of_false (fun isOut => ?_) other
    have isSlot : id ∈ rule.rule.ids := by
      have isId : id = rule.rule.out.id := by rw [← isOut, isUnknown]; rfl
      simp [Slots.ids, isId]
    exact (numbered.not_mem_of_unknown onRecord).2 rule ofRules isSlot

/-- Different members are tied to different expressions. -/
theorem Numbered.eq_of_part (numbered : later.Numbered) (ofRules : rule ∈ later.rules)
    {part part' : String × Expr} (represents : rule.rule.Represents name later.context part)
    (represents' : rule.rule.Represents name later.context part')
    (same : part.2.id = part'.2.id) : part.1 = part'.1 := by
  have isOut := numbered.same_out_iff ofRules represents
  have isOut' := numbered.same_out_iff ofRules represents'
  rw [Expr.same, same, ← Expr.same, isOut'] at isOut
  rw [Slots.Represents] at represents represents'
  split at represents
  case isTrue selected => rw [selected, isOut.mpr selected]
  case isFalse other =>
    obtain ⟨id, isUnknown, onRecord⟩ := represents
    rw [if_neg (fun selected => other (isOut.mp selected))] at represents'
    obtain ⟨id', isUnknown', onRecord'⟩ := represents'
    have sameId : id = id' := by simpa [isUnknown, isUnknown', Expr.id] using same
    subst sameId
    exact (Prod.mk.inj (numbered.eq_of_unknown onRecord onRecord')).2

/-- In what it derives, a round of a rule takes one record apart, in the order of the type
that it asserts of the record, with the selected member tied to the result. -/
structure TakesApart (later : Inference) (rule : Generator Slots) (name : String)
    (derived : List (Constraint ρ)) (shape : RecordShape) : Prop where
  only : recordsAmong derived = [shape]
  container : shape.expr = rule.rule.container
  names : ∃ members,
    (∀ ty, .hasType rule.rule.container ty ∈ derived ↔ ty = .record members) ∧
      shape.members.map Prod.fst = members.map Prod.fst
  selected : (name, rule.rule.out) ∈ shape.members
  /-- No other member is tied to the result. -/
  result : ∀ part ∈ shape.members, part.2.same rule.rule.out = true → part.1 = name
  /-- Every other member is tied to the unknown that the rule has for it. -/
  others : ∀ part ∈ shape.members, part.1 ≠ name →
    ∃ id, part.2 = .placeholder id ∧ later.unknown? rule part.1 = some id
  /-- No two members are tied to the same expression. -/
  apart : (shape.members.map fun part => part.2.id).Nodup

/-- The parts that stand for the members of a well-named record take it apart. -/
theorem Numbered.takesApart (numbered : later.Numbered) (ofRules : rule ∈ later.rules)
    {derived : List (Constraint ρ)} {members : List (String × Ty)} {parts : List (String × Expr)}
    (asserted : ∀ ty, .hasType rule.rule.container ty ∈ derived ↔ ty = .record members)
    (distinct : (members.map Prod.fst).Nodup) (isMember : name ∈ members.map Prod.fst)
    (only : recordsAmong derived = [⟨rule.rule.container, parts⟩])
    (names : parts.map Prod.fst = members.map Prod.fst)
    (represent : ∀ part ∈ parts, rule.rule.Represents name later.context part) :
    later.TakesApart rule name derived ⟨rule.rule.container, parts⟩ := by
  rw [← names] at distinct isMember
  refine ⟨only, rfl, ⟨members, asserted, names⟩, ?_, ?_, ?_, ?_⟩
  · obtain ⟨part, member, isName⟩ := List.mem_map.mp isMember
    have stands := represent part member
    rw [Slots.Represents, if_pos isName] at stands
    exact Prod.ext (x := part) (y := (name, rule.rule.out)) isName stands ▸ member
  · exact fun part member => (numbered.same_out_iff ofRules (represent part member)).mp
  · intro part member other
    have stands := represent part member
    rwa [Slots.Represents, if_neg other] at stands
  · apply List.Nodup.map_on _ distinct.of_map
    intro part member part' member' same
    have sameName :=
      numbered.eq_of_part ofRules (represent part member) (represent part' member') same
    exact List.inj_on_of_nodup_map distinct member member' sameName

/-- A round that succeeds takes a record apart exactly if the selector selects a member of
it, and no round fails because the members cannot be stated. -/
theorem takesApart_iff_selects (possible : ({} : Inference).Admits events)
    (facts : List (Constraint ρ)) (solution : Solution)
    (isPossible : (Event.round rule.rule rule.site facts solution).IsPossible
      (({} : Inference).afterAll events)) :
    let inference := ({} : Inference).afterAll events
    let round : Event ρ := .round rule.rule rule.site facts solution
    (∀ derived, inference.answer rule facts solution = .ok derived →
      ∃ app : Application, app.RecordedAt rule.site facts ∧
        ((∃ shape, .record shape ∈ derived) ↔
          ∃ name, app.Selects inference.context solution name) ∧
        ∀ name, app.Selects inference.context solution name →
          ∃ shape, (inference.after round).TakesApart rule name derived shape) ∧
      ∀ error, inference.answer rule facts solution ≠ .error (.shape error) := by
  have start : ({} : Inference).Numbered := List.Perm.refl _
  have numbered := (start.afterAll possible).after isPossible
  have issued : (({} : Inference).afterAll events).Issued :=
    Issued.afterAll fun _ member => by cases member
  generalize ({} : Inference).afterAll events = inference at numbered issued isPossible
  intro inference' round
  obtain ⟨ofRules, wellNamed⟩ := isPossible
  refine ⟨fun derived succeeds => ?_, fun error => Slots.derive_ne_shape wellNamed⟩
  have ran : ((rule.rule.derive rule.site facts solution).runIn inference.context).1 =
      .ok derived := succeeds
  obtain ⟨app, accepts⟩ : ∃ app,
      (Stage.mk facts solution inference.context).Accepts rule.site app := Stage.exists_accepts ran
  have appNamed := wellNamed app accepts.recorded
  obtain ⟨taken, nothing⟩ :=
    Stage.recordsAmong_of_succeeds accepts appNamed (Prod.ext succeeds rfl)
  refine ⟨app, accepts.recorded, ⟨?_, ?_⟩, fun name selects => ?_⟩
  · rintro ⟨shape, member⟩
    by_contra unselected
    have none := nothing (not_exists.mp unselected)
    rw [← mem_recordsAmong, none] at member
    cases member
  · rintro ⟨name, selects⟩
    obtain ⟨_, parts, -, -, -, only, -⟩ := taken name selects
    exact ⟨_, mem_recordsAmong.mp (only ▸ List.mem_singleton_self _)⟩
  · obtain ⟨members, parts, isFound, distinct, isMember, only, names, represent⟩ :=
      taken name selects
    have asserted (ty : Ty) :
        .hasType rule.rule.container ty ∈ derived ↔ ty = .record members := by
      obtain ⟨next, isSlots⟩ := issued rule ofRules
      rw [answer, isSlots] at succeeds
      rw [isSlots, Stage.hasType_container_iff accepts appNamed selects succeeds, isFound,
        Option.some.injEq, eq_comm]
    exact ⟨_, numbered.takesApart ofRules asserted distinct isMember only names represent⟩

/-- A call that selects the member `a` of a shape. -/
private def pick : Constraint Unit :=
  .call ⟨.symbol 1 "call", .symbol 0 "site",
    [.symbol 2 "shape", .literal 3 (.text "a"), .symbol 4 "other"]⟩

/-- The shape was declared in part, and a site was set up for the call. -/
private def declaredShape : List (Event Unit) :=
  [.express, .express, .express, .express, .express, .setUp (.symbol 0 "site"),
    .declare (.symbol 2 "shape") (.record [("c", .unknown), ("a", .text), ("b", .unknown)])]

/-- Then it was solved, with its members in another order. -/
private def solvedShape : Solution :=
  ⟨(∅ : Std.TreeMap ExprId Ty).insert 2
    (.record [("b", .prim .bool), ("a", .text), ("c", .prim .int)])⟩

private def pickRule : Generator Slots := ⟨.symbol 0 "site", Slots.startingAt 5⟩

/-- The members are stated in the order of the solved type, which is kept. -/
theorem takesApart_of_solved_shape :
    let inference := ({} : Inference).afterAll declaredShape
    let round : Event Unit := .round pickRule.rule pickRule.site [pick] solvedShape
    ({} : Inference).Admits declaredShape ∧ round.IsPossible inference ∧
      ∃ derived, inference.answer pickRule [pick] solvedShape = .ok derived ∧
        recordsAmong derived = [⟨.placeholder 5,
          [("b", .placeholder 9), ("a", .placeholder 8), ("c", .placeholder 10)]⟩] ∧
        ∃ app : Application, app.Selects inference.context solvedShape "a" ∧
          ∃ shape, (inference.after round).TakesApart pickRule "a" derived shape := by
  intro inference round
  have possible : ({} : Inference).Admits declaredShape :=
    ⟨trivial, trivial, trivial, trivial, trivial, trivial, trivial, trivial⟩
  have isPossible : round.IsPossible inference := by
    refine ⟨List.mem_cons_self, ?_⟩
    rintro ⟨call, container, selector, fallback⟩ ⟨record, found, isCall, args⟩
    cases found
    cases isCall
    cases args
    simp only [Application.WellNamed, Application.exprs]
    decide
  obtain ⟨succeeds, -⟩ := takesApart_iff_selects possible [pick] solvedShape isPossible
  obtain ⟨app, recorded, -, taken⟩ := succeeds _ rfl
  have selects : app.Selects inference.context solvedShape "a" := by
    rcases app with ⟨call, container, selector, fallback⟩
    rcases recorded with ⟨record, found, isCall, args⟩
    cases found
    cases isCall
    cases args
    have isKnown : (Source.solved, _) ∈ knownTypes inference.context solvedShape
        (.symbol 2 "shape") := List.mem_cons_of_mem _ List.mem_cons_self
    exact ⟨by decide, ⟨3, rfl⟩, _, isKnown, _, rfl, rfl⟩
  exact ⟨possible, isPossible, _, rfl, rfl, app, selects, taken "a" selects⟩

end Inference

end Polyflow.Lookup
