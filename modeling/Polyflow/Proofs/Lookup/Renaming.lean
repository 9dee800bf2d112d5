/-
# Rules that differ in the names of their unknowns

A site may be set up more than once, each time with slots of its own, and the rules make
unknowns of their own for the members of records, each in the order in which its rounds
ask for them. That is all they differ in. A renaming that exchanges the unknowns of one
rule for their counterparts of the other one turns the constraints of one set-up into
those of the other, and the answer of any round of one rule into the answer of a round of
the other one on the same facts, whatever rounds of either were run before.
-/

import Polyflow.Proofs.Lookup.Exchange
import Polyflow.Proofs.Lookup.Numbering
import Mathlib.Data.List.Zip

namespace Polyflow

/-- The number that forms a pair with the given one, or the number itself. -/
def exchange (pairs : List (ExprId × ExprId)) (id : ExprId) : ExprId :=
  ((pairs ++ pairs.map Prod.swap).lookup id).getD id

/-- Two numbers form a pair, in one order or in the other. -/
def Paired (pairs : List (ExprId × ExprId)) (id id' : ExprId) : Prop :=
  (id, id') ∈ pairs ∨ (id', id) ∈ pairs

/-- No number is in two different pairs. -/
def IsMatching (pairs : List (ExprId × ExprId)) : Prop :=
  ∀ id id' id'', Paired pairs id id' → Paired pairs id id'' → id' = id''

section Exchange

variable {pairs : List (ExprId × ExprId)}

theorem paired_iff_mem {id id' : ExprId} :
    Paired pairs id id' ↔ (id, id') ∈ pairs ++ pairs.map Prod.swap := by
  simp [Paired]

/-- Paired numbers are exchanged. -/
theorem exchange_of_paired (matching : IsMatching pairs) {id id' : ExprId}
    (paired : Paired pairs id id') : exchange pairs id = id' := by
  have present : ((pairs ++ pairs.map Prod.swap).lookup id).isSome := by
    rw [List.lookup_isSome_iff]
    exact ⟨_, paired_iff_mem.mp paired, beq_self_eq_true id⟩
  obtain ⟨other, found⟩ := Option.isSome_iff_exists.mp present
  obtain ⟨before, later, split, -⟩ := List.lookup_eq_some_iff.mp found
  have paired' : Paired pairs id other := by
    rw [paired_iff_mem, split]
    simp
  rw [exchange, found, Option.getD_some, matching id other id' paired' paired]

/-- All other numbers stay as they are. -/
theorem exchange_of_unpaired {id : ExprId} (unpaired : ∀ id', ¬ Paired pairs id id') :
    exchange pairs id = id := by
  have absent : (pairs ++ pairs.map Prod.swap).lookup id = none := by
    rw [List.lookup_eq_none_iff]
    intro pair member
    rw [bne_iff_ne]
    intro same
    exact unpaired pair.2 (paired_iff_mem.mpr (same ▸ member))
  rw [exchange, absent, Option.getD_none]

/-- Exchanging numbers twice changes nothing. -/
theorem exchange_exchange (matching : IsMatching pairs) (id : ExprId) :
    exchange pairs (exchange pairs id) = id := by
  by_cases paired : ∃ id', Paired pairs id id'
  · rcases paired with ⟨id', paired⟩
    rw [exchange_of_paired matching paired, exchange_of_paired matching paired.symm]
  · have unpaired : ∀ id', ¬ Paired pairs id id' := fun id' both => paired ⟨id', both⟩
    rw [exchange_of_unpaired unpaired, exchange_of_unpaired unpaired]

theorem exchange_bijective (matching : IsMatching pairs) : Function.Bijective (exchange pairs) :=
  Function.bijective_iff_has_inverse.mpr
    ⟨exchange pairs, exchange_exchange matching, exchange_exchange matching⟩

end Exchange

/-- An expression after the unknowns got other numbers. -/
def Expr.renumber (change : ExprId → ExprId) : Expr → Expr
  | .placeholder id => .placeholder (change id)
  | expr => expr

theorem Expr.renumber_of_fixed {change : ExprId → ExprId} {expr : Expr}
    (fixed : change expr.id = expr.id) : expr.renumber change = expr := by
  cases expr with
  | placeholder id => exact congrArg Expr.placeholder fixed
  | _ => rfl

end Polyflow

namespace Polyflow.Lookup

variable {ρ : Type}

namespace Slots

/-- What a round states of the record, with the unknowns that are on record afterwards. -/
inductive States (slots : Slots) (selector : Option String) (context : Context) :
    Option Ty → List (Constraint ρ) → Prop
  /-- The type and the members, if the selected one is among them. -/
  | apart {name : String} {members : List (String × Ty)} {parts : List (String × Expr)}
      (isName : selector = some name) (present : (members.lookup name).isSome)
      (names : parts.map Prod.fst = members.map Prod.fst)
      (represent : ∀ part ∈ parts, slots.Represents name context part) :
      States slots selector context (some (.record members))
        [.hasType slots.container (.record members), .record ⟨slots.container, parts⟩]
  /-- The type, if there is one. -/
  | whole {found : Option Ty} (absent : ∀ name members, selector = some name →
      found = some (.record members) → members.lookup name = none) :
      States slots selector context found (found.toList.map (.hasType slots.container))

variable {slots slots' : Slots} {selector : Option String} {found : Option Ty}
  {stated stated' : List (Constraint ρ)} {context later : Context}

theorem States.grows (states : slots.States selector context found stated)
    (grows : context.Grows later) : slots.States selector later found stated := by
  cases states with
  | apart isName present names represent =>
      exact .apart isName present names fun part member => (represent part member).grows grows
  | whole absent => exact .whole absent

theorem exists_states (ρ : Type) (slots : Slots) (selector : Option String)
    (wellNamed : ∀ ty, found = some ty → ty.WellNamed) (context : Context) :
    ∃ (stated : List (Constraint ρ)) (after : Context),
      (slots.stateContainer selector found).runIn context = (.ok stated, after) ∧
        slots.States selector after found stated := by
  rcases selected_or_absent selector found with ⟨name, members, rfl, rfl, present⟩ | absent
  · have distinct := (Ty.wellNamed_record.mp (wellNamed _ rfl)).1
    obtain ⟨parts, after, ran, names, represent⟩ :=
      stateContainer_runIn_of_member ρ slots present distinct context
    exact ⟨_, after, ran, .apart rfl present names represent⟩
  · exact ⟨_, context, stateContainer_runIn_of_no_member ρ slots absent context, .whole absent⟩

/-- A change of expressions leads from the unknowns of some slots to those of others. -/
structure LeadsTo (change : Expr → Expr) (context : Context) (slots slots' : Slots) : Prop where
  toSlots : slots.mapExprs change = slots'
  toMembers : ∀ name id id', context.memberUnknowns.lookup (slots.container.id, name) = some id →
    context.memberUnknowns.lookup (slots'.container.id, name) = some id' →
      change (.placeholder id) = .placeholder id'

theorem mapExprs_startingAt {change : Expr → Expr} {next next' : ExprId}
    (exchanges : ∀ id id', (id, id') ∈ (startingAt next).ids.zip (startingAt next').ids →
      change (.placeholder id) = .placeholder id') :
    (startingAt next).mapExprs change = startingAt next' := by
  simp only [ids, startingAt, Expr.id, List.zip_cons_cons, List.zip_nil_right, List.mem_cons,
    Prod.mk.injEq, List.not_mem_nil, or_false] at exchanges
  simp only [mapExprs, startingAt, mk.injEq]
  refine ⟨exchanges _ _ ?_, exchanges _ _ ?_, exchanges _ _ ?_, exchanges _ _ ?_⟩ <;> simp

/-- What the members are tied to changes along. -/
theorem LeadsTo.represents {change : Expr → Expr} (leads : LeadsTo change context slots slots')
    {name : String} {part part' : String × Expr} (represents : slots.Represents name context part)
    (represents' : slots'.Represents name context part') (same : part.1 = part'.1) :
    part' = (part.1, change part.2) := by
  refine Prod.ext same.symm ?_
  rw [Represents] at represents represents'
  rw [← same] at represents'
  split at represents
  case isTrue selected =>
    rw [if_pos selected] at represents'
    rw [represents', represents, ← leads.toSlots, mapExprs]
  case isFalse other =>
    rw [if_neg other] at represents'
    rcases represents with ⟨id, isUnknown, onRecord⟩
    rcases represents' with ⟨id', isUnknown', onRecord'⟩
    rw [isUnknown', isUnknown]
    exact (leads.toMembers _ id id' onRecord onRecord').symm

theorem LeadsTo.parts {change : Expr → Expr} (leads : LeadsTo change context slots slots')
    {name : String} {parts parts' : List (String × Expr)}
    (represent : ∀ part ∈ parts, slots.Represents name context part)
    (represent' : ∀ part ∈ parts', slots'.Represents name context part)
    (names : parts.map Prod.fst = parts'.map Prod.fst) : parts' = changeParts change parts := by
  induction parts generalizing parts' with
  | nil => exact List.map_eq_nil_iff.mp names.symm
  | cons part rest ih =>
      cases parts' with
      | nil => cases names
      | cons part' rest' =>
          obtain ⟨same, namesRest⟩ := List.cons.inj names
          rw [List.forall_mem_cons] at represent represent'
          rw [leads.represents represent.1 represent'.1 same,
            ih represent.2 represent'.2 namesRest]
          rfl

/-- What is stated of the record changes along, if the same type was found. -/
theorem LeadsTo.states {change : Expr → Expr} (leads : LeadsTo change context slots slots')
    (states : slots.States selector context found stated)
    (states' : slots'.States selector context found stated') :
    stated' = stated.map (Constraint.mapExprs change) := by
  have container : change slots.container = slots'.container :=
    congrArg Slots.container leads.toSlots
  cases states with
  | @apart name members parts isName present names represent =>
      cases states' with
      | @apart name' _ parts' isName' _ names' represent' =>
          cases isName.symm.trans isName'
          rw [leads.parts represent represent' (names.trans names'.symm)]
          simp [Constraint.mapExprs, container]
      | whole absent =>
          rw [absent name members isName rfl] at present
          cases present
  | whole absent =>
      cases states' with
      | @apart name members _ isName present _ _ =>
          rw [absent name members isName rfl] at present
          cases present
      | whole _ => cases found <;> simp [Constraint.mapExprs, container]

end Slots

namespace Inference

variable {events : List (Event ρ)} {event : Event ρ} {inference final : Inference}

theorem afterAll_append (inference : Inference) (first second : List (Event ρ)) :
    inference.afterAll (first ++ second) = (inference.afterAll first).afterAll second :=
  List.foldl_append

/-- An event occurs in a course, when the inference has come as far as given. -/
def Meets (events : List (Event ρ)) (event : Event ρ) (inference : Inference) : Prop :=
  ∃ before later, events = before ++ event :: later ∧ inference = ({} : Inference).afterAll before

theorem Admits.split {before later : List (Event ρ)}
    (possible : inference.Admits (before ++ event :: later)) :
    event.IsPossible (inference.afterAll before) := by
  induction before generalizing inference with
  | nil => exact possible.1
  | cons first rest ih => exact ih possible.2

theorem Meets.possible (meets : Meets events event inference)
    (possible : ({} : Inference).Admits events) : event.IsPossible inference := by
  rcases meets with ⟨before, later, rfl, rfl⟩
  exact possible.split

/-- What an event leaves in the context is still there at the end of the course. -/
theorem Meets.grows (meets : Meets events event inference) :
    (event.apply inference.context).Grows (({} : Inference).afterAll events).context := by
  rcases meets with ⟨before, later, rfl, rfl⟩
  have grows := grows_course ((({} : Inference).afterAll before).after event).context later
  rw [← context_afterAll] at grows
  rw [afterAll_append]
  exact grows

theorem Admits.numbered (possible : ({} : Inference).Admits events) :
    (({} : Inference).afterAll events).Numbered :=
  Numbered.afterAll (List.Perm.refl _) possible

theorem Admits.recordsFirst (possible : ({} : Inference).Admits events) :
    (({} : Inference).afterAll events).RecordsFirst :=
  RecordsFirst.afterAll (by simp [RecordsFirst]) (List.Perm.refl _) possible

/-- Rules are never given up. -/
theorem mem_rules_afterAll {rule : Generator Slots} (member : rule ∈ inference.rules)
    (events : List (Event ρ)) : rule ∈ (inference.afterAll events).rules := by
  induction events generalizing inference with
  | nil => exact member
  | cons event rest ih =>
      apply ih
      cases event with
      | setUp site => exact List.mem_cons_of_mem _ member
      | _ => exact member

/-- A site that is set up has its rule from then on. -/
theorem Meets.mem_rules {site : Expr} (meets : Meets events (.setUp site) inference) :
    ⟨site, Slots.startingAt inference.context.next⟩ ∈ (({} : Inference).afterAll events).rules := by
  rcases meets with ⟨before, later, rfl, rfl⟩
  rw [afterAll_append]
  exact mem_rules_afterAll List.mem_cons_self later

/-- The unknowns of a rule: its slots, and those that it made for members. -/
def IsInternal (inference : Inference) (rule : Generator Slots) (id : ExprId) : Prop :=
  id ∈ rule.rule.ids ∨ ∃ member, inference.unknown? rule member = some id

/-- The unknowns of two rules, slot by slot and member by member. -/
def counterparts (inference : Inference) (rule rule' : Generator Slots) :
    List (ExprId × ExprId) :=
  rule.rule.ids.zip rule'.rule.ids ++
    (inference.context.memberUnknowns.map (·.1.2)).filterMap fun member =>
      (inference.unknown? rule member).bind fun id => (inference.unknown? rule' member).map (id, ·)

variable {rule rule' : Generator Slots} {id id' id'' : ExprId}

theorem mem_counterparts :
    (id, id') ∈ inference.counterparts rule rule' ↔
      (id, id') ∈ rule.rule.ids.zip rule'.rule.ids ∨
        ∃ member, inference.unknown? rule member = some id ∧
          inference.unknown? rule' member = some id' := by
  rw [counterparts, List.mem_append, List.mem_filterMap]
  apply or_congr_right
  apply exists_congr
  intro member
  have isMember (onRecord : inference.unknown? rule member = some id) :
      member ∈ inference.context.memberUnknowns.map (·.1.2) := by
    obtain ⟨_, _, split, -⟩ := List.lookup_eq_some_iff.mp onRecord
    simp [split]
  simp only [Option.bind_eq_some_iff, Option.map_eq_some_iff, Prod.mk.injEq]
  constructor
  · rintro ⟨-, _, onRecord, _, onRecord', rfl, rfl⟩
    exact ⟨onRecord, onRecord'⟩
  · rintro ⟨onRecord, onRecord'⟩
    exact ⟨isMember onRecord, id, onRecord, id', onRecord', rfl, rfl⟩

theorem mem_counterparts_swap :
    (id, id') ∈ inference.counterparts rule rule' ↔
      (id', id) ∈ inference.counterparts rule' rule := by
  rw [mem_counterparts, mem_counterparts]
  apply or_congr
  · rw [← List.zip_swap rule.rule.ids, List.mem_map]
    constructor
    · exact fun isSlot => ⟨(id, id'), isSlot, rfl⟩
    · rintro ⟨⟨first, second⟩, isSlot, same⟩
      cases same
      exact isSlot
  · exact exists_congr fun member => and_comm

theorem isInternal_of_counterpart (counterpart : (id, id') ∈ inference.counterparts rule rule') :
    inference.IsInternal rule id := by
  rcases mem_counterparts.mp counterpart with isSlot | ⟨member, onRecord, -⟩
  · exact .inl (List.of_mem_zip isSlot).1
  · exact .inr ⟨member, onRecord⟩

/-- The unknowns of different rules are different. -/
theorem Numbered.eq_of_internal (numbered : inference.Numbered) (ofRules : rule ∈ inference.rules)
    (ofRules' : rule' ∈ inference.rules) (internal : inference.IsInternal rule id)
    (internal' : inference.IsInternal rule' id) : rule = rule' := by
  rcases internal with isSlot | ⟨member, onRecord⟩
  · rcases internal' with isSlot' | ⟨member', onRecord'⟩
    · exact numbered.eq_of_slot ofRules ofRules' isSlot isSlot'
    · exact absurd isSlot ((numbered.not_mem_of_unknown onRecord').2 rule ofRules)
  · rcases internal' with isSlot' | ⟨member', onRecord'⟩
    · exact absurd isSlot' ((numbered.not_mem_of_unknown onRecord).2 rule' ofRules')
    · have sameKey := numbered.eq_of_unknown onRecord onRecord'
      exact numbered.eq_of_container ofRules ofRules' (Prod.mk.inj sameKey).1

/-- An unknown has one counterpart at most. -/
theorem Numbered.counterpart_unique (numbered : inference.Numbered)
    (ofRules : rule ∈ inference.rules)
    (counterpart : (id, id') ∈ inference.counterparts rule rule')
    (counterpart' : (id, id'') ∈ inference.counterparts rule rule') : id' = id'' := by
  rcases mem_counterparts.mp counterpart with isSlot | ⟨member, onRecord, isOther⟩
  · rcases mem_counterparts.mp counterpart' with isSlot' | ⟨member', onRecord', -⟩
    · have ids : rule.rule.ids.Nodup := (List.nodup_flatMap.mp numbered.slots_nodup).1 rule ofRules
      have firsts : (rule.rule.ids.zip rule'.rule.ids).map Prod.fst = rule.rule.ids :=
        List.map_fst_zip (Nat.le_refl 4)
      have same := List.inj_on_of_nodup_map (firsts ▸ ids) isSlot isSlot' rfl
      exact (Prod.mk.inj same).2
    · exact absurd (List.of_mem_zip isSlot).1
        ((numbered.not_mem_of_unknown onRecord').2 rule ofRules)
  · rcases mem_counterparts.mp counterpart' with isSlot' | ⟨member', onRecord', isOther'⟩
    · exact absurd (List.of_mem_zip isSlot').1
        ((numbered.not_mem_of_unknown onRecord).2 rule ofRules)
    · have sameKey := numbered.eq_of_unknown onRecord onRecord'
      rw [← (Prod.mk.inj sameKey).2, isOther] at isOther'
      exact Option.some.inj isOther'

theorem eq_of_counterpart_self (counterpart : (id, id') ∈ inference.counterparts rule rule) :
    id = id' := by
  rcases mem_counterparts.mp counterpart with isSlot | ⟨member, onRecord, onRecord'⟩
  · simp only [Slots.ids, List.zip_cons_cons, List.zip_nil_right, List.mem_cons, Prod.mk.injEq,
      List.not_mem_nil, or_false] at isSlot
    rcases isSlot with ⟨rfl, rfl⟩ | ⟨rfl, rfl⟩ | ⟨rfl, rfl⟩ | ⟨rfl, rfl⟩ <;> rfl
  · exact Option.some.inj (onRecord.symm.trans onRecord')

/-- Unknowns can be exchanged for their counterparts. -/
theorem Numbered.matching (numbered : inference.Numbered) (ofRules : rule ∈ inference.rules)
    (ofRules' : rule' ∈ inference.rules) : IsMatching (inference.counterparts rule rule') := by
  intro id id' id'' paired paired'
  by_cases same : rule = rule'
  · subst same
    have equal {id id' : ExprId} (both : Paired (inference.counterparts rule rule) id id') :
        id = id' := by
      rcases both with counterpart | counterpart
      · exact eq_of_counterpart_self counterpart
      · exact (eq_of_counterpart_self counterpart).symm
    exact (equal paired).symm.trans (equal paired')
  · have apart {other other' : ExprId} (ofFirst : (id, other) ∈ inference.counterparts rule rule')
        (ofSecond : (other', id) ∈ inference.counterparts rule rule') : False :=
      same (numbered.eq_of_internal ofRules ofRules' (isInternal_of_counterpart ofFirst)
        (isInternal_of_counterpart (mem_counterparts_swap.mp ofSecond)))
    rcases paired with counterpart | counterpart
    · rcases paired' with counterpart' | counterpart'
      · exact numbered.counterpart_unique ofRules counterpart counterpart'
      · exact (apart counterpart counterpart').elim
    · rcases paired' with counterpart' | counterpart'
      · exact (apart counterpart' counterpart).elim
      · exact numbered.counterpart_unique ofRules' (mem_counterparts_swap.mp counterpart)
          (mem_counterparts_swap.mp counterpart')

/-- What a round of a rule answers, told with the unknowns at the end of the course. -/
theorem Meets.answer {site : Expr} {slots : Slots} {facts : List (Constraint ρ)}
    {solution : Solution}
    (meets : Meets events (.round slots site facts solution) inference)
    (possible : ({} : Inference).Admits events) {app : Application} {name : Option String}
    {findings : Findings}
    (reads : survey site facts (knownTypes inference.context solution) =
      .ok (app, name, findings)) :
    ∃ stated : List (Constraint ρ),
      slots.States name (({} : Inference).afterAll events).context findings.container.ty? stated ∧
      inference.answer ⟨site, slots⟩ facts solution =
        .ok (slots.derived site app stated findings.result.ty?) := by
  obtain ⟨recorded, -, isFound⟩ := survey_eq_ok reads
  have wellNamed := (meets.possible possible).2 app recorded
  have foundNamed (ty : Ty) (holds : findings.container.ty? = some ty) : ty.WellNamed :=
    Knowledge.kept_of_observed Ty.WellNamed wellNamed.containerHistory (isFound ▸ holds)
  obtain ⟨stated, after, ran, states⟩ := slots.exists_states ρ name foundNamed inference.context
  have outcome : (slots.derive site facts solution).runIn inference.context =
      (.ok (slots.derived site app stated findings.result.ty?), after) := by
    rw [Slots.derive_runIn, reads, Slots.conclude, ran]
    rfl
  have grows := meets.grows
  rw [Event.apply, outcome] at grows
  exact ⟨stated, states.grows grows, congrArg Prod.fst outcome⟩

/-- A change of expressions that leads from some slots to others, and leaves the site and the
application as they are, turns the answer to a round with the ones into the answer to a
round with the others. -/
theorem Meets.answer_changed {site : Expr} {slots slots' : Slots} {facts : List (Constraint ρ)}
    {solution : Solution} {early late : Inference} {change : Expr → Expr}
    (round : Meets events (.round slots site facts solution) early)
    (round' : Meets events (.round slots' site facts solution) late)
    (possible : ({} : Inference).Admits events)
    (declared : ∀ expr, late.context.typeOf? expr = early.context.typeOf? expr)
    (leads : slots.LeadsTo change (({} : Inference).afterAll events).context slots')
    (siteFixed : change site = site)
    (appFixed : ∀ app : Application, app.RecordedAt site facts → app.mapExprs change = app) :
    late.answer ⟨site, slots'⟩ facts solution =
      (early.answer ⟨site, slots⟩ facts solution).map (List.map (Constraint.mapExprs change)) := by
  have known : knownTypes late.context solution = knownTypes early.context solution :=
    funext fun expr => by rw [knownTypes, knownTypes, declared expr]
  cases reads : survey site facts (knownTypes early.context solution) with
  | error error =>
      simp only [Inference.answer, Slots.derive_runIn, known, reads, Slots.conclude, Except.map]
  | ok reading =>
      rcases reading with ⟨app, name, findings⟩
      obtain ⟨stated, states, isAnswer⟩ := round.answer possible reads
      obtain ⟨stated', states', isAnswer'⟩ := round'.answer possible (known ▸ reads)
      rw [isAnswer, isAnswer', Except.map, Slots.mapExprs_derived, leads.toSlots, siteFixed,
        appFixed app (survey_eq_ok reads).1, leads.states states states']

/-- The rule that a site gets if it is set up now. -/
def newRule (inference : Inference) (site : Expr) : Generator Slots :=
  ⟨site, Slots.startingAt inference.context.next⟩

/-- Expressions with the unknowns of two rules exchanged for their counterparts. -/
def toCounterpart (inference : Inference) (rule rule' : Generator Slots) : Expr → Expr :=
  Expr.renumber (exchange (inference.counterparts rule rule'))

/-- What is neither an unknown of one rule nor of the other stays as it is. -/
theorem exchange_of_not_internal (notFirst : ¬ inference.IsInternal rule id)
    (notSecond : ¬ inference.IsInternal rule' id) :
    exchange (inference.counterparts rule rule') id = id := by
  apply exchange_of_unpaired
  intro id' paired
  rcases paired with counterpart | counterpart
  · exact notFirst (isInternal_of_counterpart counterpart)
  · exact notSecond (isInternal_of_counterpart (mem_counterparts_swap.mp counterpart))

/-- An application that speaks of no unknown of two rules stays as it is. -/
theorem mapExprs_toCounterpart {app : Application}
    (apart : ∀ expr ∈ app.exprs, ¬ inference.IsInternal rule expr.id ∧
      ¬ inference.IsInternal rule' expr.id) :
    app.mapExprs (inference.toCounterpart rule rule') = app := by
  have fixed (expr : Expr) (member : expr ∈ app.exprs) :
      inference.toCounterpart rule rule' expr = expr :=
    Expr.renumber_of_fixed (exchange_of_not_internal (apart expr member).1 (apart expr member).2)
  simp only [Application.exprs, List.forall_mem_cons] at fixed
  rcases fixed with ⟨container, selector, fallback, call, -⟩
  rw [Application.mapExprs, container, selector, fallback, call]

/-- The exchange leads from the slots of one set-up to those of another. -/
theorem leadsTo_toCounterpart {site : Expr} (first second : Inference)
    (matching : IsMatching (inference.counterparts (first.newRule site) (second.newRule site))) :
    (first.newRule site).rule.LeadsTo
      (inference.toCounterpart (first.newRule site) (second.newRule site)) inference.context
      (second.newRule site).rule := by
  have exchanges {id id' : ExprId}
      (counterpart : (id, id') ∈ inference.counterparts (first.newRule site) (second.newRule site)) :
      inference.toCounterpart (first.newRule site) (second.newRule site) (.placeholder id) =
        .placeholder id' :=
    congrArg Expr.placeholder (exchange_of_paired matching (.inl counterpart))
  constructor
  · exact Slots.mapExprs_startingAt fun id id' isSlot =>
      exchanges (mem_counterparts.mpr (.inl isSlot))
  · intro member id id' onRecord onRecord'
    exact exchanges (mem_counterparts.mpr (.inr ⟨member, onRecord, onRecord'⟩))

/-- An expression that was there when a site was set up is no unknown of its rule. -/
theorem not_internal_of_lt {later : Inference} (first : later.RecordsFirst) (site : Expr)
    {id : Nat} (there : id < inference.context.next) :
    ¬ later.IsInternal (inference.newRule site) id := by
  rintro (isSlot | ⟨member, onRecord⟩)
  · simp only [newRule, Slots.ids, Slots.startingAt, Expr.id, List.mem_cons, List.not_mem_nil,
      or_false] at isSlot
    have new : inference.context.next ≤ id := by
      rcases isSlot with rfl | rfl | rfl | rfl
      · exact Nat.le_refl _
      all_goals exact Nat.le_add_right _ _
    exact Nat.not_lt.mpr new there
  · exact Nat.lt_asymm there (first _ _ onRecord)

/-- The constraints of one set-up turn into those of another one, and so does the rule. -/
theorem constraints_changed {site : Expr} {first second : Inference} {change : Expr → Expr}
    (siteFixed : change site = site)
    (toSlots : (first.newRule site).rule.mapExprs change = (second.newRule site).rule) :
    ∃ made, ((constraints site).runIn first.context).1 = .ok made ∧
      ((constraints site).runIn second.context).1 = .ok (made.map fun constraint =>
        (constraint.mapExprs change).mapRule (Slots.mapExprs change)) := by
  refine ⟨_, congrArg Prod.fst (constraints_runIn site first.context), ?_⟩
  have isSecond : Slots.startingAt second.context.next =
      (Slots.startingAt first.context.next).mapExprs change := toSlots.symm
  simp only [constraints_runIn, isSecond, List.map_cons, List.map_nil, Constraint.mapExprs,
    Constraint.mapRule, siteFixed]
  rfl

/-- How the rules of two set-ups of one site correspond by a change of numbers, at the end
of a course of events. -/
structure Correspond (events : List (Event ρ)) (site : Expr) (first second : Inference)
    (change : ExprId → ExprId) : Prop where
  /-- No two numbers become one, and none is left out. -/
  bijective : Function.Bijective change
  /-- The unknown of the one rule for a member becomes that of the other. -/
  members : ∀ (member : String) (id id' : ExprId),
    let final := ({} : Inference).afterAll events
    final.unknown? (first.newRule site) member = some id →
      final.unknown? (second.newRule site) member = some id' → change id = id'
  /-- What is an unknown of neither rule stays as it is. -/
  others : ∀ id : ExprId,
    let final := ({} : Inference).afterAll events
    ¬ final.IsInternal (first.newRule site) id → ¬ final.IsInternal (second.newRule site) id →
      change id = id
  /-- The constraints of the one set-up become those of the other, and so does the rule. -/
  constraints : ∃ made, ((constraints site).runIn first.context).1 = .ok made ∧
    ((constraints site).runIn second.context).1 = .ok (made.map fun constraint =>
      (constraint.mapExprs (Expr.renumber change)).mapRule (Slots.mapExprs (Expr.renumber change)))
  /-- The answer to any round of the one rule becomes the answer to any round of the other on
  the same facts, with the same solution and the same declared types, if the call on record
  speaks of no unknown of either. -/
  answers : ∀ (facts : List (Constraint ρ)) (solution : Solution) (early late : Inference),
    let final := ({} : Inference).afterAll events
    Meets events (.round (first.newRule site).rule site facts solution) early →
    Meets events (.round (second.newRule site).rule site facts solution) late →
    (∀ expr, late.context.typeOf? expr = early.context.typeOf? expr) →
    (∀ app : Application, app.RecordedAt site facts → ∀ expr ∈ app.exprs,
      ¬ final.IsInternal (first.newRule site) expr.id ∧
        ¬ final.IsInternal (second.newRule site) expr.id) →
      late.answer (second.newRule site) facts solution =
        (early.answer (first.newRule site) facts solution).map
          (List.map (Constraint.mapExprs (Expr.renumber change)))

/-- The rules of two set-ups of one site correspond, whatever rounds of either are run and
whatever else happens. -/
theorem exists_correspond (possible : ({} : Inference).Admits events) {site : Expr}
    {first second : Inference} (setUp : Meets events (.setUp site) first)
    (setUp' : Meets events (.setUp site) second) (there : site.id < first.context.next)
    (there' : site.id < second.context.next) :
    ∃ change, Correspond events site first second change := by
  have matching := possible.numbered.matching setUp.mem_rules setUp'.mem_rules
  have leads := leadsTo_toCounterpart first second matching
  have siteFixed := Expr.renumber_of_fixed (exchange_of_not_internal
    (not_internal_of_lt possible.recordsFirst site there)
    (not_internal_of_lt possible.recordsFirst site there'))
  refine ⟨exchange _, exchange_bijective matching, ?_, fun id => exchange_of_not_internal,
    constraints_changed siteFixed leads.toSlots, ?_⟩
  · intro member id id' final onRecord onRecord'
    exact exchange_of_paired matching
      (.inl (mem_counterparts.mpr (.inr ⟨member, onRecord, onRecord'⟩)))
  · intro facts solution early late final round round' declared apart
    exact round.answer_changed round' possible declared leads siteFixed fun app recorded =>
      mapExprs_toCounterpart (apart app recorded)

/-- A call on a record of three members, which selects one of them. -/
private def selecting (selector : Expr) : Constraint Unit :=
  .call ⟨.symbol 1 "call", .symbol 0 "site", [.symbol 2 "shape", selector, .symbol 4 "other"]⟩

private def threeMembers : Ty :=
  .record [("c", .prim .int), ("a", .text), ("b", .prim .bool)]

/-- A site is set up twice. A round of the second rule comes first, and the first rule meets
the members in another order. -/
private def inAnotherOrder : List (Event Unit) :=
  [.express, .express, .express, .express, .express, .express, .setUp (.symbol 0 "site"),
    .setUp (.symbol 0 "site"), .declare (.symbol 2 "shape") threeMembers,
    .round (Slots.startingAt 10) (.symbol 0 "site") [selecting (.literal 3 (.text "a"))] {},
    .round (Slots.startingAt 6) (.symbol 0 "site") [selecting (.literal 5 (.text "c"))] {},
    .round (Slots.startingAt 6) (.symbol 0 "site") [selecting (.literal 3 (.text "a"))] {}]

private theorem exprs_of_selecting {selector : Expr} {app : Application}
    (recorded : app.RecordedAt (.symbol 0 "site") [selecting selector]) :
    app.exprs = [.symbol 2 "shape", selector, .symbol 4 "other", .symbol 1 "call"] := by
  rcases recorded with ⟨record, found, isCall, args⟩
  cases found
  rcases app with ⟨call, container, selector, fallback⟩
  cases isCall
  cases args
  rfl

private theorem selecting_wellNamed {context : Context} {id : ExprId} {member : String}
    (declared : context.typeOf? (.symbol 2 "shape") = some threeMembers)
    (others : context.typeOf? (.symbol 1 "call") = none ∧
      context.typeOf? (.symbol 4 "other") = none) (app : Application)
    (recorded : app.RecordedAt (.symbol 0 "site") [selecting (.literal id (.text member))]) :
    app.WellNamed context {} := by
  have nothing (expr : Expr) : ({} : Solution).get? expr = none := rfl
  have ofLiteral : context.typeOf? (.literal id (.text member)) = some .text := rfl
  simp only [Application.WellNamed, exprs_of_selecting recorded, knownTypes, List.forall_mem_cons,
    declared, others, nothing, ofLiteral]
  exact ⟨by decide, by decide, by decide, by decide, by simp⟩

/-- What one rule makes for a member is exchanged for what the other one makes for it. -/
theorem exists_correspond_in_another_order :
    let site := Expr.symbol 0 "site"
    let after (count : Nat) := ({} : Inference).afterAll (inAnotherOrder.take count)
    let selected := [selecting (.literal 3 (.text "a"))]
    ({} : Inference).Admits inAnotherOrder ∧
      Meets inAnotherOrder (.setUp site) (after 6) ∧ Meets inAnotherOrder (.setUp site) (after 7) ∧
      site.id < (after 6).context.next ∧ site.id < (after 7).context.next ∧
      ∃ change, Correspond inAnotherOrder site (after 6) (after 7) change ∧
        change 18 = 14 ∧ change 17 = 15 ∧
        ((after 9).answer ⟨site, Slots.startingAt 10⟩ selected {}).isOk ∧
        (after 9).answer ⟨site, Slots.startingAt 10⟩ selected {} =
          ((after 11).answer ⟨site, Slots.startingAt 6⟩ selected {}).map
            (List.map (Constraint.mapExprs (Expr.renumber change))) := by
  intro site after selected
  have possible : ({} : Inference).Admits inAnotherOrder := by
    refine ⟨trivial, trivial, trivial, trivial, trivial, trivial, trivial, trivial, trivial,
      ⟨List.mem_cons_self, ?_⟩, ⟨List.mem_cons_of_mem _ List.mem_cons_self, ?_⟩,
      ⟨List.mem_cons_of_mem _ List.mem_cons_self, ?_⟩, trivial⟩
    all_goals exact selecting_wellNamed rfl ⟨rfl, rfl⟩
  have setUp : Meets inAnotherOrder (.setUp site) (after 6) := ⟨_, _, rfl, rfl⟩
  have setUp' : Meets inAnotherOrder (.setUp site) (after 7) := ⟨_, _, rfl, rfl⟩
  have there : site.id < (after 6).context.next := by decide
  have there' : site.id < (after 7).context.next := by decide
  obtain ⟨change, correspond⟩ := exists_correspond possible setUp setUp' there there'
  refine ⟨possible, setUp, setUp', there, there', change, correspond,
    correspond.members "c" 18 14 rfl rfl, correspond.members "b" 17 15 rfl rfl, rfl, ?_⟩
  apply correspond.answers selected {} (after 11) (after 9) ⟨_, _, rfl, rfl⟩ ⟨_, _, rfl, rfl⟩
  · intro expr
    cases expr <;> rfl
  · intro app recorded expr member
    have first : expr.id < 6 := by
      rw [exprs_of_selecting recorded] at member
      revert expr
      decide
    exact ⟨not_internal_of_lt possible.recordsFirst site first,
      not_internal_of_lt possible.recordsFirst site (Nat.lt_of_lt_of_le first (by decide))⟩

end Inference

end Polyflow.Lookup
