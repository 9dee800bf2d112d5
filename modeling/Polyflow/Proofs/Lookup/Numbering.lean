/-
# The numbers that an inference gives out

An inference makes expressions for its graph, slots for the call sites that are set up,
and unknowns for the members of records that are taken apart, all in any order. Every
number below the next one belongs to exactly one of these. So an unknown is different
from everything that was there before it, and the unknowns of different members and of
different sites never meet.
-/

import Polyflow.Proofs.Lookup.Unknowns
import Mathlib.Data.List.Pairwise

namespace Polyflow.Lookup

variable {ρ : Type}

/-- The identities of the slots, in order. -/
def Slots.ids (slots : Slots) : List ExprId :=
  [slots.container.id, slots.selector.id, slots.fallback.id, slots.out.id]

/-- An inference under way. -/
structure Inference where
  context : Context := {}
  /-- The identities of the expressions that were made for the graph. -/
  graph : List ExprId := []
  /-- The rules of the call sites that were set up. -/
  rules : List (Generator Slots) := []

/-- The rules among some constraints. -/
def rulesAmong (constraints : List (Constraint Slots)) : List (Generator Slots) :=
  constraints.filterMap fun
    | .generator rule => some rule
    | _ => none

/-- An event of an inference is possible unless it is a round for a site that was not set
up. The types known of the application that a round looks at are well named, like every
type that can be made. -/
def Event.IsPossible (inference : Inference) : Event ρ → Prop
  | .round slots site facts solution =>
    ⟨site, slots⟩ ∈ inference.rules ∧ ∀ app : Application, app.RecordedAt site facts →
      app.WellNamed inference.context solution
  | _ => True

namespace Inference

/-- The inference after an event. -/
def after (inference : Inference) (event : Event ρ) : Inference where
  context := event.apply inference.context
  graph :=
    match event with
    | .express => (Context.fresh.run inference.context).1 :: inference.graph
    | _ => inference.graph
  rules :=
    match event with
    | .setUp site =>
      match ((constraints site).runIn inference.context).1 with
      | .ok made => rulesAmong made ++ inference.rules
      | .error _ => inference.rules
    | _ => inference.rules

/-- The inference after a course of events. -/
def afterAll (inference : Inference) (events : List (Event ρ)) : Inference :=
  events.foldl after inference

/-- Each event of a course is possible when its turn comes. -/
def Admits (inference : Inference) : List (Event ρ) → Prop
  | [] => True
  | event :: rest => event.IsPossible inference ∧ (inference.after event).Admits rest

/-- The identities of all expressions there are: those of the graph, the slots and the
unknowns of members. -/
def exprs (inference : Inference) : List ExprId :=
  inference.graph ++ inference.rules.flatMap (·.rule.ids) ++ inference.context.unknownIds

/-- The unknown of a rule for a member of its record, once it was made. -/
def unknown? (inference : Inference) (rule : Generator Slots) (member : String) : Option ExprId :=
  inference.context.memberUnknowns.lookup (rule.rule.container.id, member)

variable {inference later : Inference} {event : Event ρ} {events : List (Event ρ)}

theorem context_afterAll (inference : Inference) (events : List (Event ρ)) :
    (inference.afterAll events).context = course inference.context events := by
  induction events generalizing inference with
  | nil => rfl
  | cons event rest ih => exact ih (inference.after event)

/-- Every number below the next one was given out, and none of them twice. -/
def Numbered (inference : Inference) : Prop :=
  inference.exprs.Perm (List.range inference.context.next)

/-- It is enough that the next numbers are given to what is new. -/
theorem Numbered.of_perm (numbered : inference.Numbered) (count : Nat)
    (next : later.context.next = inference.context.next + count)
    (more : later.exprs.Perm (List.range' inference.context.next count ++ inference.exprs)) :
    later.Numbered := by
  have numbers : List.range inference.context.next ++ List.range' inference.context.next count =
      List.range later.context.next := by
    rw [next, List.range_eq_range', List.range_eq_range', ← List.range'_append_1, Nat.zero_add]
  rw [Numbered, ← numbers]
  exact more.trans ((numbered.append_left _).trans List.perm_append_comm)

/-- Declaring a type makes no expression. -/
theorem declare_eq_ok {context after : Context} {expr : Expr} {ty : Ty}
    (declares : context.declare expr ty = .ok after) :
    after.next = context.next ∧ after.memberUnknowns = context.memberUnknowns := by
  rcases Context.eq_or_of_declare declares with rfl | ⟨-, rfl⟩
  · exact ⟨rfl, rfl⟩
  · exact ⟨rfl, rfl⟩

/-- An event gives the next numbers to what it makes. -/
theorem Numbered.after (numbered : inference.Numbered) (possible : event.IsPossible inference) :
    (inference.after event).Numbered := by
  cases event with
  | express => exact numbered.of_perm 1 rfl (List.Perm.refl _)
  | declare expr ty =>
      cases declares : inference.context.declare expr ty with
      | ok context =>
          obtain ⟨next, unknowns⟩ := declare_eq_ok declares
          have isContext : (inference.after (.declare expr ty : Event ρ)).context = context := by
            simp only [Inference.after, Event.apply, declares]
          apply numbered.of_perm 0 (isContext ▸ next)
          rw [exprs, isContext, Context.unknownIds, unknowns]
          exact List.Perm.refl _
      | error conflict =>
          have isContext : (inference.after (.declare expr ty : Event ρ)).context =
              inference.context := by
            simp only [Inference.after, Event.apply, declares]
          apply numbered.of_perm 0 (congrArg Context.next isContext)
          rw [exprs, isContext]
          exact List.Perm.refl _
  | setUp site =>
      apply numbered.of_perm 4 rfl
      have slotsFirst := List.perm_append_comm_assoc inference.graph
        (List.range' inference.context.next 4) (inference.rules.flatMap (·.rule.ids))
      have all := slotsFirst.append_right inference.context.unknownIds
      rwa [List.append_assoc (List.range' _ _)] at all
  | round slots site facts solution =>
      obtain ⟨-, wellNamed⟩ := possible
      obtain ⟨succeeds, fails⟩ := slots.derive_makes wellNamed
      have isAfter : (inference.after (.round slots site facts solution)).context =
          ((slots.derive site facts solution).runIn inference.context).2 := rfl
      cases outcome : ((slots.derive site facts solution).runIn inference.context).1 with
      | error error =>
          rw [fails error outcome] at isAfter
          apply numbered.of_perm 0 (congrArg Context.next isAfter)
          rw [exprs, isAfter]
          exact List.Perm.refl _
      | ok derived =>
          obtain ⟨app, -, made, -⟩ := succeeds derived outcome
          rw [made] at isAfter
          apply numbered.of_perm _ (congrArg Context.next isAfter)
          rw [exprs, isAfter, Context.unknownIds_withUnknowns, ← List.append_assoc]
          refine (List.Perm.append_right _ List.perm_append_comm).trans ?_
          rw [List.append_assoc]
          exact List.Perm.append_right _ (List.reverse_perm _)

theorem Numbered.afterAll (numbered : inference.Numbered) (possible : inference.Admits events) :
    (inference.afterAll events).Numbered := by
  induction events generalizing inference with
  | nil => exact numbered
  | cons event rest ih => exact ih (numbered.after possible.1) possible.2

/-- No two expressions have the same identity. -/
theorem Numbered.nodup (numbered : inference.Numbered) : inference.exprs.Nodup :=
  numbered.nodup_iff.mpr List.nodup_range

/-- The identities there are come before the next one. -/
theorem Numbered.lt_next (numbered : inference.Numbered) {id : ExprId}
    (member : id ∈ inference.exprs) : id < inference.context.next :=
  List.mem_range.mp (numbered.mem_iff.mp member)

theorem Numbered.slots_nodup (numbered : inference.Numbered) :
    (inference.rules.flatMap (·.rule.ids)).Nodup :=
  (List.nodup_append.mp (List.nodup_append.mp numbered.nodup).1).2.1

/-- An unknown stands for one member only. -/
theorem Numbered.eq_of_unknown (numbered : inference.Numbered) {key key' : ExprId × String}
    {id : ExprId} (onRecord : inference.context.memberUnknowns.lookup key = some id)
    (onRecord' : inference.context.memberUnknowns.lookup key' = some id) : key = key' :=
  Context.eq_of_unknown (List.nodup_append.mp numbered.nodup).2.1 onRecord onRecord'

/-- Different rules have no slot in common. -/
theorem Numbered.eq_of_slot (numbered : inference.Numbered) {rule rule' : Generator Slots}
    (member : rule ∈ inference.rules) (member' : rule' ∈ inference.rules) {id : ExprId}
    (isSlot : id ∈ rule.rule.ids) (isSlot' : id ∈ rule'.rule.ids) : rule = rule' := by
  have apart := (List.nodup_flatMap.mp numbered.slots_nodup).2
  have symmetric : Std.Symm (fun first second : Generator Slots =>
      first.rule.ids.Disjoint second.rule.ids) :=
        ⟨fun _ _ disjoint _ ofSecond ofFirst => disjoint ofFirst ofSecond⟩
  by_contra differ
  exact apart.forall member member' differ isSlot isSlot'

theorem Numbered.eq_of_container (numbered : inference.Numbered) {rule rule' : Generator Slots}
    (member : rule ∈ inference.rules) (member' : rule' ∈ inference.rules)
    (same : rule.rule.container.id = rule'.rule.container.id) : rule = rule' := by
  have isSlot : rule.rule.container.id ∈ rule.rule.ids := List.mem_cons_self
  have isSlot' : rule'.rule.container.id ∈ rule'.rule.ids := List.mem_cons_self
  exact numbered.eq_of_slot member member' isSlot (same ▸ isSlot')

/-- An unknown is neither an expression of the graph nor a slot. -/
theorem Numbered.not_mem_of_unknown (numbered : inference.Numbered) {key : ExprId × String}
    {id : ExprId} (onRecord : inference.context.memberUnknowns.lookup key = some id) :
    id ∉ inference.graph ∧ ∀ rule ∈ inference.rules, id ∉ rule.rule.ids := by
  have differs := (List.nodup_append.mp numbered.nodup).2.2
  apply And.intro
  · intro ofGraph
    exact differs id (List.mem_append_left _ ofGraph) id (Context.mem_unknownIds onRecord) rfl
  · intro rule member isSlot
    have ofRules : id ∈ inference.rules.flatMap (·.rule.ids) :=
      List.mem_flatMap.mpr ⟨rule, member, isSlot⟩
    exact differs id (List.mem_append_right _ ofRules) id (Context.mem_unknownIds onRecord) rfl

/-- Unknowns are made by the rounds of a rule, for members of its record. -/
theorem exists_rule_of_new (possible : event.IsPossible inference) {key : ExprId × String}
    {id : ExprId} (isNew : inference.context.memberUnknowns.lookup key = none)
    (made : (inference.after event).context.memberUnknowns.lookup key = some id) :
    ∃ rule ∈ inference.rules, ∃ names, (inference.after event).context =
      inference.context.withUnknowns rule.rule.container names := by
  have unchanged (same : (inference.after event).context.memberUnknowns =
      inference.context.memberUnknowns) : False := by
    rw [same, isNew] at made
    cases made
  cases event with
  | express => exact (unchanged rfl).elim
  | setUp site => exact (unchanged rfl).elim
  | declare expr ty =>
      cases declares : inference.context.declare expr ty with
      | ok context =>
          refine (unchanged ?_).elim
          simp only [Inference.after, Event.apply, declares, (declare_eq_ok declares).2]
      | error conflict =>
          refine (unchanged ?_).elim
          simp only [Inference.after, Event.apply, declares]
  | round slots site facts solution =>
      obtain ⟨ofRules, wellNamed⟩ := possible
      obtain ⟨succeeds, fails⟩ := slots.derive_makes wellNamed
      have isAfter : (inference.after (.round slots site facts solution)).context =
          ((slots.derive site facts solution).runIn inference.context).2 := rfl
      cases outcome : ((slots.derive site facts solution).runIn inference.context).1 with
      | error error =>
          rw [fails error outcome] at isAfter
          exact (unchanged (congrArg Context.memberUnknowns isAfter)).elim
      | ok derived =>
          obtain ⟨app, -, isMade, -⟩ := succeeds derived outcome
          exact ⟨⟨site, slots⟩, ofRules, _, isAfter.trans isMade⟩

/-- An unknown that an event makes has a number that was not given out before. -/
theorem next_le_of_new (possible : event.IsPossible inference) {key : ExprId × String}
    {id : ExprId} (isNew : inference.context.memberUnknowns.lookup key = none)
    (made : (inference.after event).context.memberUnknowns.lookup key = some id) :
    inference.context.next ≤ id := by
  obtain ⟨rule, -, names, isAfter⟩ := exists_rule_of_new possible isNew made
  rw [isAfter] at made
  exact (Context.new_of_withUnknowns isNew made).2

/-- The unknown of a member was made after the record that it belongs to. -/
def RecordsFirst (inference : Inference) : Prop :=
  ∀ key id, inference.context.memberUnknowns.lookup key = some id → key.1 < id

theorem RecordsFirst.after (first : inference.RecordsFirst) (numbered : inference.Numbered)
    (possible : event.IsPossible inference) : (inference.after event).RecordsFirst := by
  intro key id made
  cases onRecord : inference.context.memberUnknowns.lookup key with
  | some earlier =>
      have kept := (event.grows_apply inference.context).unknowns key earlier onRecord
      cases made.symm.trans kept
      exact first key id onRecord
  | none =>
      obtain ⟨rule, ofRules, names, isAfter⟩ := exists_rule_of_new possible onRecord made
      rw [isAfter] at made
      obtain ⟨isContainer, isNext⟩ := Context.new_of_withUnknowns onRecord made
      have there : rule.rule.container.id ∈ inference.exprs := by
        apply List.mem_append_left _ (List.mem_append_right _ _)
        exact List.mem_flatMap.mpr ⟨rule, ofRules, List.mem_cons_self⟩
      rw [isContainer]
      exact Nat.lt_of_lt_of_le (numbered.lt_next there) isNext

theorem RecordsFirst.afterAll (first : inference.RecordsFirst) (numbered : inference.Numbered)
    (possible : inference.Admits events) : (inference.afterAll events).RecordsFirst := by
  induction events generalizing inference with
  | nil => exact first
  | cons event rest ih =>
      exact ih (first.after numbered possible.1) (numbered.after possible.1) possible.2

/-- What a round of a rule answers. -/
def answer (inference : Inference) (rule : Generator Slots) (facts : List (Constraint ρ))
    (solution : Solution) : Except RoundError (List (Constraint ρ)) :=
  ((rule.rule.derive rule.site facts solution).runIn inference.context).1

/-- What holds of the unknowns of members at any time in an inference. -/
structure Orderly (ρ : Type) (inference : Inference) : Prop where
  /-- A round that is run again on the same facts, with the same solution and the same
  declared types answers the same, whatever happened in between. -/
  repeats : ∀ rule ∈ inference.rules, ∀ (facts : List (Constraint ρ)) (solution : Solution)
    (events : List (Event ρ)),
      let round : Event ρ := .round rule.rule rule.site facts solution
      let later := (inference.after round).afterAll events
      (∀ expr, later.context.typeOf? expr = inference.context.typeOf? expr) →
        later.answer rule facts solution = inference.answer rule facts solution
  /-- A rule has one unknown for a member at most, and keeps it. -/
  kept : ∀ (rule : Generator Slots) (member : String) (id : ExprId) (events : List (Event ρ)),
    inference.unknown? rule member = some id →
      (inference.afterAll events).unknown? rule member = some id
  /-- Different members have different unknowns, and different rules have. -/
  apart : ∀ rule ∈ inference.rules, ∀ rule' ∈ inference.rules, ∀ (member member' : String)
    (id : ExprId), inference.unknown? rule member = some id →
      inference.unknown? rule' member' = some id → rule = rule' ∧ member = member'
  /-- An unknown is neither an expression of the graph nor a slot of any rule. -/
  hidden : ∀ (rule : Generator Slots) (member : String) (id : ExprId),
    inference.unknown? rule member = some id →
      id ∉ inference.graph ∧ ∀ rule' ∈ inference.rules, id ∉ rule'.rule.ids
  /-- An unknown that is made next is none of the expressions that are there. -/
  fresh : ∀ event : Event ρ, event.IsPossible inference →
    ∀ (rule : Generator Slots) (member : String) (id : ExprId),
      inference.unknown? rule member = none →
        (inference.after event).unknown? rule member = some id → id ∉ inference.exprs
  /-- A round that fails makes nothing. One that succeeds makes an unknown for each member
  that it takes apart, in their order, but for the selected one and those that have one
  already. The members are tied to their unknowns, and the selected one to the result. -/
  makes : ∀ rule ∈ inference.rules, ∀ (facts : List (Constraint ρ)) (solution : Solution),
    let round : Event ρ := .round rule.rule rule.site facts solution
    let later := inference.after round
    round.IsPossible inference →
      (∀ error, inference.answer rule facts solution = .error error →
        later = inference) ∧
      ∀ derived, inference.answer rule facts solution = .ok derived →
        ∃ app : Application, app.RecordedAt rule.site facts ∧
          later.context = inference.context.withUnknowns rule.rule.container
            (rule.rule.newMembers (fixedSelector? app.selector) inference.context
              (Slots.membersApart derived)) ∧
          ∀ shape, .record shape ∈ derived → shape.expr = rule.rule.container ∧
            ∃ name, fixedSelector? app.selector = some name ∧
              ∀ part ∈ shape.members, rule.rule.Represents name later.context part

/-- The unknowns of members are in order at any time, whatever happened since the start of
the inference. -/
theorem orderly_afterAll (possible : ({} : Inference).Admits events) :
    (({} : Inference).afterAll events).Orderly ρ := by
  have start : ({} : Inference).Numbered := List.Perm.refl _
  have numbered := start.afterAll possible
  generalize ({} : Inference).afterAll events = inference at numbered
  refine ⟨?_, ?_, ?_, ?_, ?_, ?_⟩
  · intro rule member facts solution events round later declared
    apply rule.rule.derive_again rule.site facts solution declared
    rw [context_afterAll]
    exact (grows_course _ events).unknowns
  · intro rule member id events onRecord
    rw [unknown?, context_afterAll]
    exact (grows_course _ events).unknowns _ _ onRecord
  · intro rule ofRules rule' ofRules' member member' id onRecord onRecord'
    have distinct := (List.nodup_append.mp numbered.nodup).2.1
    have sameKey := Context.eq_of_unknown distinct onRecord onRecord'
    obtain ⟨sameContainer, sameMember⟩ := Prod.mk.inj sameKey
    exact ⟨numbered.eq_of_container ofRules ofRules' sameContainer, sameMember⟩
  · exact fun rule member id onRecord => numbered.not_mem_of_unknown onRecord
  · intro event isPossible rule member id isNew made there
    exact Nat.not_lt.mpr (next_le_of_new isPossible isNew made) (numbered.lt_next there)
  · intro rule ofRules facts solution round later isPossible
    obtain ⟨succeeds, fails⟩ := rule.rule.derive_makes isPossible.2
    refine ⟨fun error isError => ?_, succeeds⟩
    have context : later.context = inference.context := fails error isError
    exact congrArg (fun context => { inference with context }) context

/-- A call whose record has the members `a`, `b` and `c`, and whose selector is `a`. -/
private def memberCall : Constraint Unit :=
  .call ⟨.symbol 1 "call", .symbol 0 "site",
    [.symbol 2 "shape", .literal 3 (.text "a"), .symbol 4 "other"]⟩

private def shapeTy : Ty :=
  .record [("c", .prim .int), ("a", .text), ("b", .prim .bool)]

/-- Two sites are set up for one expression, and a round is run for each, with an
expression in between. -/
private def twoSites : List (Event Unit) :=
  [.express, .express, .express, .express, .express, .setUp (.symbol 0 "site"),
    .setUp (.symbol 0 "site"), .declare (.symbol 2 "shape") shapeTy,
    .round (Slots.startingAt 9) (.symbol 0 "site") [memberCall] {}, .express,
    .round (Slots.startingAt 5) (.symbol 0 "site") [memberCall] {}]

private theorem memberCall_wellNamed {context : Context}
    (declared : context.typeOf? (.symbol 2 "shape") = some shapeTy)
    (others : context.typeOf? (.symbol 1 "call") = none ∧
      context.typeOf? (.symbol 4 "other") = none) (app : Application)
    (recorded : app.RecordedAt (.symbol 0 "site") [memberCall]) : app.WellNamed context {} := by
  rcases recorded with ⟨record, found, isCall, args⟩
  cases found
  rcases app with ⟨call, container, selector, fallback⟩
  cases isCall
  cases args
  have nothing (expr : Expr) : ({} : Solution).get? expr = none := rfl
  have ofLiteral : context.typeOf? (.literal 3 (.text "a")) = some .text := rfl
  simp [Application.WellNamed, Application.exprs, knownTypes, declared, others, nothing,
    ofLiteral]
  decide

/-- The unknowns of the two sites take different numbers, after all that was there. -/
theorem orderly_after_two_sites :
    let inference := ({} : Inference).afterAll twoSites
    let site := Expr.symbol 0 "site"
    ({} : Inference).Admits twoSites ∧
      inference.unknown? ⟨site, Slots.startingAt 9⟩ "c" = some 13 ∧
      inference.unknown? ⟨site, Slots.startingAt 9⟩ "b" = some 14 ∧
      inference.unknown? ⟨site, Slots.startingAt 5⟩ "c" = some 16 ∧
      inference.unknown? ⟨site, Slots.startingAt 5⟩ "a" = none ∧
      inference.Orderly Unit := by
  intro inference site
  have possible : ({} : Inference).Admits twoSites := by
    refine ⟨trivial, trivial, trivial, trivial, trivial, trivial, trivial, trivial,
      ⟨?_, ?_⟩, trivial, ⟨?_, ?_⟩, trivial⟩
    · exact List.mem_cons_self
    · exact memberCall_wellNamed rfl ⟨rfl, rfl⟩
    · exact List.mem_cons_of_mem _ List.mem_cons_self
    · exact memberCall_wellNamed rfl ⟨rfl, rfl⟩
  exact ⟨possible, rfl, rfl, rfl, rfl, orderly_afterAll possible⟩

end Inference

end Polyflow.Lookup
