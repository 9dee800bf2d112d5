/-
# What one round asserts and a later one may contradict

The rule of a call site is applied again whenever more is known, and each time it
asserts the types it finds for its slots anew. Between two rounds facts are only
appended, and what was solved or declared stays. The type asserted of the record is
never contradicted by a later round. The type asserted of the result can be, though
no round fails in between: exactly if it has holes and something is known of it
below the outermost level.
-/

import Polyflow.Proofs.Infer.Persistence
import Polyflow.Proofs.Lookup.Derivation

namespace Polyflow.Lookup

variable {ρ : Type}

/-- What a round is given. -/
structure Stage (ρ : Type) where
  facts : List (Constraint ρ)
  solution : Solution
  context : Context

namespace Stage

/-- A later stage: facts were appended, and what was solved or declared stays. -/
structure Extends (earlier later : Stage ρ) : Prop where
  facts : earlier.facts <+: later.facts
  solved : ∀ expr ty, earlier.solution.get? expr = some ty → later.solution.get? expr = some ty
  declared : ∀ expr ty, earlier.context.typeOf? expr = some ty →
    later.context.typeOf? expr = some ty

/-- What an inference guarantees of the application on record: names are distinct in
every type that is known, and a slot is not itself the selector of the call that it
was made for. -/
structure Proper (slots : Slots) (site : Expr) (stage : Stage ρ) : Prop where
  wellNamed : ∀ app : Application, app.RecordedAt site stage.facts → ∀ expr ∈ app.exprs,
    ∀ entry ∈ knownTypes stage.context stage.solution expr, entry.2.WellNamed
  hidden : ∀ app : Application, app.RecordedAt site stage.facts →
    app.selector ∉ [slots.container, slots.fallback, slots.out]

/-- The round at this stage succeeds and asserts a type of an expression. -/
def Asserts (slots : Slots) (site : Expr) (stage : Stage ρ) (expr : Expr) (ty : Ty) : Prop :=
  ∃ derived, ((slots.derive site stage.facts stage.solution).runIn stage.context).1 = .ok derived ∧
    .hasType expr ty ∈ derived

/-- Everything that the round at this stage checks of an application is in order. -/
structure Accepts (site : Expr) (stage : Stage ρ) (app : Application) : Prop where
  recorded : app.RecordedAt site stage.facts
  selector : ∀ entry ∈ knownTypes stage.context stage.solution app.selector, entry.2.Agrees .text
  container : ∀ entry ∈ knownTypes stage.context stage.solution app.container,
    Findings.IsRecordOrUnknown entry.2
  ofContainer : Knowledge.acceptsAll {}
    (app.containerHistory stage.context stage.solution) = true
  ofResult : Knowledge.acceptsAll {} (app.resultHistory stage.context stage.solution) = true

/-- The type found for the record. -/
def container? (stage : Stage ρ) (app : Application) : Option Ty :=
  (Knowledge.after {} (app.containerHistory stage.context stage.solution)).ty?

/-- The type found for the result. -/
def result? (stage : Stage ρ) (app : Application) : Option Ty :=
  (Knowledge.after {} (app.resultHistory stage.context stage.solution)).ty?

variable {slots : Slots} {site : Expr} {stage earlier later : Stage ρ} {app : Application}
  {ty : Ty}

/-- A round that succeeds accepts the application recorded for its site. -/
theorem exists_accepts {derived : List (Constraint ρ)}
    (succeeds : ((slots.derive site stage.facts stage.solution).runIn stage.context).1 =
      .ok derived) : ∃ app, stage.Accepts site app := by
  obtain ⟨app, recorded, _, isText, isRecord, ofContainer, ofResult, -⟩ :=
    Slots.derive_eq_ok_iff.mp (Prod.ext succeeds rfl)
  exact ⟨app, recorded, isText, isRecord, ofContainer, ofResult⟩

/-- What a round derives that accepts an application. -/
theorem Accepts.outcome (accepts : stage.Accepts site app)
    (wellNamed : app.WellNamed stage.context stage.solution) (slots : Slots) :
    ∃ parts : List (Constraint ρ), (∀ part ∈ parts, ∃ shape, part = .record shape) ∧
      ((slots.derive site stage.facts stage.solution).runIn stage.context).1 =
        .ok (slots.links app ++
          ((stage.container? app).toList.map (.hasType slots.container) ++ parts) ++
          slots.stateResult (stage.result? app) ++ [.producedBy app.call site]) := by
  have foundNamed (ty : Ty) (holds : stage.container? app = some ty) : ty.WellNamed :=
    Knowledge.kept_of_observed Ty.WellNamed wellNamed.containerHistory holds
  obtain ⟨parts, after, stated, areParts⟩ :=
    slots.stateContainer_runIn ρ (fixedSelector? app.selector) foundNamed stage.context
  have ran := Slots.derive_eq_ok_iff.mpr ⟨app, accepts.recorded, _, accepts.selector,
    accepts.container, accepts.ofContainer, accepts.ofResult, stated, rfl⟩
  refine ⟨parts, fun part member => ?_, congrArg Prod.fst ran⟩
  obtain ⟨_, _, exprs, -, -, isPart, -⟩ := areParts part member
  exact ⟨⟨slots.container, exprs⟩, isPart⟩

/-- The application that is recorded for a site is the only one. -/
theorem recordedAt_unique {other : Application} (recorded : app.RecordedAt site stage.facts)
    (recorded' : other.RecordedAt site stage.facts) : app = other := by
  rcases recorded with ⟨record, found, call, args⟩
  rcases recorded' with ⟨record', found', call', args'⟩
  cases found.symm.trans found'
  cases app
  cases other
  cases args.symm.trans args'
  cases call.symm.trans call'
  rfl

/-- A round asserts that the selector is a text, and what it found of the record and
of the result. -/
theorem asserts_iff (accepts : stage.Accepts site app)
    (wellNamed : app.WellNamed stage.context stage.solution) {expr : Expr} :
    stage.Asserts slots site expr ty ↔
      (expr = app.selector ∧ ty = .text) ∨
        (expr = slots.container ∧ stage.container? app = some ty) ∨
          ((expr = slots.fallback ∨ expr = slots.out) ∧ stage.result? app = some ty) := by
  obtain ⟨parts, areParts, outcome⟩ := accepts.outcome wellNamed slots
  have ofParts : Constraint.hasType expr ty ∉ parts := fun member => by
    obtain ⟨shape, isRecord⟩ := areParts _ member
    cases isRecord
  have ofLinks : Constraint.hasType expr ty ∈ (slots.links app : List (Constraint ρ)) ↔
      expr = app.selector ∧ ty = .text := by
    simp [Slots.links]
  have ofContainer : Constraint.hasType expr ty ∈ ((stage.container? app).toList.map
      (Constraint.hasType slots.container) : List (Constraint ρ)) ↔
        expr = slots.container ∧ stage.container? app = some ty := by
    cases stage.container? app <;> simp [eq_comm]
  have ofResult : Constraint.hasType expr ty ∈
      (slots.stateResult (stage.result? app) : List (Constraint ρ)) ↔
        (expr = slots.fallback ∨ expr = slots.out) ∧ stage.result? app = some ty := by
    cases stage.result? app <;> simp [Slots.stateResult, eq_comm, or_and_right]
  simp [Asserts, outcome, ofParts, ofLinks, ofContainer, ofResult]

/-- Of the record a round asserts what it found of it. -/
theorem asserts_container_iff {next : ExprId} (accepts : stage.Accepts site app)
    (proper : stage.Proper (Slots.startingAt next) site) :
    stage.Asserts (Slots.startingAt next) site (Slots.startingAt next).container ty ↔
      stage.container? app = some ty := by
  have hidden := proper.hidden app accepts.recorded
  have notSelector : (Slots.startingAt next).container ≠ app.selector := fun same =>
    hidden (same ▸ List.mem_cons_self)
  rw [asserts_iff accepts (proper.wellNamed app accepts.recorded)]
  simp only [notSelector, false_and, false_or]
  simp [Slots.startingAt]

/-- Of the result a round asserts what it found of it, in both slots that have its
type. -/
theorem asserts_result_iff {next : ExprId} (accepts : stage.Accepts site app)
    (proper : stage.Proper (Slots.startingAt next) site) {slot : Expr}
    (ofResult : slot ∈ [(Slots.startingAt next).fallback, (Slots.startingAt next).out]) :
    stage.Asserts (Slots.startingAt next) site slot ty ↔ stage.result? app = some ty := by
  have hidden := proper.hidden app accepts.recorded
  have notSelector : slot ≠ app.selector := fun same =>
    hidden (same ▸ List.mem_cons_of_mem _ ofResult)
  have notContainer : slot ≠ (Slots.startingAt next).container := by
    rcases List.mem_pair.mp ofResult with rfl | rfl <;> simp [Slots.startingAt]
  have isSlot : slot = (Slots.startingAt next).fallback ∨ slot = (Slots.startingAt next).out :=
    List.mem_pair.mp ofResult
  rw [asserts_iff accepts (proper.wellNamed app accepts.recorded)]
  simp [notSelector, notContainer, isSlot]

theorem Extends.recordedAt (extended : earlier.Extends later)
    (recorded : app.RecordedAt site earlier.facts) : app.RecordedAt site later.facts := by
  rcases recorded with ⟨record, found, call, args⟩
  rcases extended.facts with ⟨more, appended⟩
  refine ⟨record, ?_, call, args⟩
  rw [Constraint.callOf?] at found
  rw [Constraint.callOf?, ← appended, List.findSome?_append, found, Option.some_or]

theorem Extends.mem_knownTypes (extended : earlier.Extends later) {expr : Expr}
    {entry : Source × Ty}
    (isKnown : entry ∈ knownTypes earlier.context earlier.solution expr) :
    entry ∈ knownTypes later.context later.solution expr := by
  simp only [knownTypes, List.mem_append, List.mem_map, Option.mem_toList]
    at isKnown ⊢
  rcases isKnown with ⟨ty, holds, isEntry⟩ | ⟨ty, holds, isEntry⟩
  · exact .inl ⟨ty, extended.declared expr ty holds, isEntry⟩
  · exact .inr ⟨ty, extended.solved expr ty holds, isEntry⟩

/-- Whatever was observed of the record is observed again. -/
theorem Extends.mem_containerHistory (extended : earlier.Extends later) :
    ∀ observation ∈ app.containerHistory earlier.context earlier.solution,
      observation ∈ app.containerHistory later.context later.solution := by
  intro observation member
  obtain ⟨entry, isKnown, rfl⟩ := List.mem_map.mp member
  exact List.mem_map_of_mem (extended.mem_knownTypes isKnown)

/-- Whatever was observed of the result is observed again. -/
theorem Extends.mem_resultHistory (extended : earlier.Extends later) :
    ∀ observation ∈ app.resultHistory earlier.context earlier.solution,
      observation ∈ app.resultHistory later.context later.solution := by
  obtain ⟨ofPicked, ofFallback, ofCall⟩ :=
    Application.forall_mem_resultHistory.mp fun observation
      (member : observation ∈ app.resultHistory later.context later.solution) => member
  rw [Application.forall_mem_resultHistory]
  refine ⟨fun entry isKnown picked isPicked => ?_, fun entry isKnown => ?_,
    fun entry isKnown => ?_⟩
  · exact ofPicked entry (extended.mem_knownTypes isKnown) picked isPicked
  · exact ofFallback entry (extended.mem_knownTypes isKnown)
  · exact ofCall entry (extended.mem_knownTypes isKnown)

/-- The record is observed twice at most. -/
theorem length_containerHistory_le :
    (app.containerHistory stage.context stage.solution).length ≤ 2 := by
  rw [Application.containerHistory, knownTypes]
  cases stage.context.typeOf? app.container <;>
    cases stage.solution.get? app.container <;> simp

/-- Rounds of one site that both succeed accept the same application. -/
theorem Extends.accepts_both (extended : earlier.Extends later) {expr expr' : Expr} {ty' : Ty}
    (first : earlier.Asserts slots site expr ty) (second : later.Asserts slots site expr' ty') :
    ∃ app, earlier.Accepts site app ∧ later.Accepts site app := by
  rcases first with ⟨_, succeeds, -⟩
  rcases second with ⟨_, succeeds', -⟩
  obtain ⟨app, accepts⟩ := exists_accepts succeeds
  obtain ⟨app', accepts'⟩ := exists_accepts succeeds'
  have same := recordedAt_unique (extended.recordedAt accepts.recorded) accepts'.recorded
  subst same
  exact ⟨app, accepts, accepts'⟩

/-- Once a round has asserted a type of an expression, no later round asserts one that
contradicts it. -/
def Persists (ρ : Type) (slots : Slots) (site expr : Expr) (asserted : Ty) : Prop :=
  ∀ earlier later : Stage ρ, earlier.Proper slots site → later.Proper slots site →
    earlier.Extends later → earlier.Asserts slots site expr asserted →
      ∀ ty, later.Asserts slots site expr ty → asserted.Agrees ty

/-- What is asserted of the record persists. -/
theorem persists_container (site : Expr) (next : ExprId) (asserted : Ty) :
    Persists ρ (Slots.startingAt next) site (Slots.startingAt next).container asserted := by
  intro earlier later proper proper' extended first ty second
  obtain ⟨app, accepts, accepts'⟩ := extended.accepts_both first second
  obtain ⟨observation, inside, rfl⟩ :=
    Knowledge.exists_observed_of_ty? ((asserts_container_iff accepts proper).mp first)
  obtain ⟨observation', inside', rfl⟩ :=
    Knowledge.exists_observed_of_ty? ((asserts_container_iff accepts' proper').mp second)
  have wellNamed : app.WellNamed later.context later.solution :=
    proper'.wellNamed app accepts'.recorded
  exact Knowledge.agrees_of_length_le_two length_containerHistory_le
    wellNamed.containerHistory accepts'.ofContainer
    observation (extended.mem_containerHistory observation inside) observation' inside'

/-- A firm type that is asserted of the result persists. -/
theorem persists_of_firm (site : Expr) (next : ExprId) {asserted : Ty}
    (firm : asserted.holes = 0 ∨ asserted.IsShallow) {slot : Expr}
    (ofResult : slot ∈ [(Slots.startingAt next).fallback, (Slots.startingAt next).out]) :
    Persists ρ (Slots.startingAt next) site slot asserted := by
  intro earlier later proper proper' extended first ty second
  obtain ⟨app, accepts, accepts'⟩ := extended.accepts_both first second
  obtain ⟨observation, inside, rfl⟩ :=
    Knowledge.exists_observed_of_ty? ((asserts_result_iff accepts proper ofResult).mp first)
  have wellNamed : app.WellNamed later.context later.solution :=
    proper'.wellNamed app accepts'.recorded
  exact Knowledge.agrees_of_firm wellNamed.resultHistory accepts'.ofResult
    (extended.mem_resultHistory observation inside) firm
    ((asserts_result_iff accepts' proper' ofResult).mp second)

/-- An application whose selector is not fixed, with the numbers after those of the
slots. -/
def plainApplication (next : ExprId) : Application where
  call := .symbol (next + 7) "result"
  container := .symbol (next + 4) "container"
  selector := .symbol (next + 5) "selector"
  fallback := .symbol (next + 6) "fallback"

/-- A stage at which the plain application is on record and the type of its fallback
was solved. Its fallback may have a declared type as well, and its call a solved one. -/
def plainStage (ρ : Type) (site : Expr) (next : ExprId) (solved : Ty)
    (declared result : Option Ty) : Stage ρ where
  facts := [.call ⟨(plainApplication next).call, site, [(plainApplication next).container,
    (plainApplication next).selector, (plainApplication next).fallback]⟩]
  solution :=
    let fallback := (∅ : Std.TreeMap ExprId Ty).insert (next + 6) solved
    ⟨result.elim fallback (fallback.insert (next + 7))⟩
  context :=
    { next := next + 8
      declared := declared.elim ∅ ((∅ : Std.TreeMap ExprId Ty).insert (next + 6)) }

/-- What is observed of the result at a plain stage. -/
def plainHistory (solved : Ty) (declared result : Option Ty) : List Observation :=
  declared.toList.map (fun ty => Findings.resultObservation "optional arg type" (.declared, ty)) ++
    Findings.resultObservation "optional arg type" (.solved, solved) ::
      result.toList.map fun ty => Findings.resultObservation "return type" (.solved, ty)

section Plain

variable (ρ : Type) (site : Expr) (next : ExprId) (solved : Ty) (declared result : Option Ty)

theorem plainApplication_recordedAt :
    (plainApplication next).RecordedAt site
      (plainStage ρ site next solved declared result).facts :=
  ⟨⟨(plainApplication next).call, site, _⟩,
    by simp [plainStage, Constraint.callOf?, Expr.same], rfl, rfl⟩

/-- The types known at a plain stage. -/
theorem knownTypes_plainStage :
    let stage := plainStage ρ site next solved declared result
    let app := plainApplication next
    knownTypes stage.context stage.solution app.container = [] ∧
      knownTypes stage.context stage.solution app.selector = [] ∧
      knownTypes stage.context stage.solution app.fallback =
        declared.toList.map (Source.declared, ·) ++ [(Source.solved, solved)] ∧
      knownTypes stage.context stage.solution app.call = result.toList.map (Source.solved, ·) := by
  cases declared <;> cases result <;>
    simp [knownTypes, plainStage, plainApplication, Context.typeOf?, Solution.get?, Expr.id,
      Std.TreeMap.getElem_insert]

theorem resultHistory_plainStage :
    (plainApplication next).resultHistory (plainStage ρ site next solved declared result).context
      (plainStage ρ site next solved declared result).solution =
        plainHistory solved declared result := by
  obtain ⟨ofContainer, -, ofFallback, ofCall⟩ :=
    knownTypes_plainStage ρ site next solved declared result
  simp only [Application.resultHistory, Findings.resultHistory, ofContainer, ofFallback, ofCall,
    plainHistory]
  simp [Function.comp_def]

/-- Of a plain stage only the history of the result is checked. -/
theorem plainStage_accepts
    (accepts : Knowledge.acceptsAll {} (plainHistory solved declared result) = true) :
    (plainStage ρ site next solved declared result).Accepts site (plainApplication next) := by
  obtain ⟨ofContainer, ofSelector, -, -⟩ :=
    knownTypes_plainStage ρ site next solved declared result
  refine ⟨plainApplication_recordedAt ρ site next solved declared result, ?_, ?_, ?_,
    resultHistory_plainStage ρ site next solved declared result ▸ accepts⟩
  · simp [ofSelector]
  · simp [ofContainer]
  · rw [Application.containerHistory, ofContainer]
    rfl

theorem plainStage_proper (solvedNamed : solved.WellNamed)
    (declaredNamed : ∀ ty ∈ declared, ty.WellNamed) (resultNamed : ∀ ty ∈ result, ty.WellNamed) :
    (plainStage ρ site next solved declared result).Proper (Slots.startingAt next) site := by
  have recorded := plainApplication_recordedAt ρ site next solved declared result
  obtain ⟨ofContainer, ofSelector, ofFallback, ofCall⟩ :=
    knownTypes_plainStage ρ site next solved declared result
  refine ⟨fun app recorded' => ?_, fun app recorded' => ?_⟩
  · have same := recordedAt_unique recorded recorded'
    subst same
    simp only [Application.exprs, List.forall_mem_cons, ofContainer, ofSelector, ofFallback, ofCall]
    simpa [or_imp, forall_and, solvedNamed] using ⟨declaredNamed, resultNamed⟩
  · have same := recordedAt_unique recorded recorded'
    subst same
    simp [plainApplication, Slots.startingAt]

/-- More may become known at a plain stage. -/
theorem plainStage_extends :
    (plainStage ρ site next solved none none).Extends
      (plainStage ρ site next solved declared result) where
  facts := List.prefix_refl _
  solved expr ty holds := by
    cases result with
    | none => exact holds
    | some result =>
        simp only [plainStage, Solution.get?, Option.elim_none, Option.elim_some] at holds ⊢
        grind
  declared expr ty holds := by
    cases expr <;> simp_all [plainStage, Context.typeOf?]

/-- A known type that was solved for the fallback alone is asserted of the result. -/
theorem plainStage_result? (known : solved ≠ .unknown) :
    (plainStage ρ site next solved none none).Accepts site (plainApplication next) ∧
      (plainStage ρ site next solved none none).result? (plainApplication next) = some solved := by
  have accepts : Knowledge.acceptsAll {} (plainHistory solved none none) = true :=
    Bool.and_eq_true_iff.mpr ⟨Knowledge.accepts_of_first _, rfl⟩
  refine ⟨plainStage_accepts ρ site next solved none none accepts, ?_⟩
  rw [result?, resultHistory_plainStage]
  exact congrArg Knowledge.ty? (Knowledge.next_of_first known)

/-- A type that is neither complete nor shallow does not persist when it is asserted
of the result: an opening of it may be declared in the meantime, which is observed
before it and stays. -/
theorem not_persists_of_open {asserted : Ty} (wellNamed : asserted.WellNamed)
    (incomplete : asserted.holes ≠ 0) (deep : ¬ asserted.IsShallow) {slot : Expr}
    (ofResult : slot ∈ [(Slots.startingAt next).fallback, (Slots.startingAt next).out]) :
    ¬ Persists ρ (Slots.startingAt next) site slot asserted := by
  obtain ⟨opened, openedNamed, openedKnown, openedAgrees, noMore, path, part, isOpen, isThere,
    partKnown⟩ := Ty.exists_opening wellNamed incomplete deep
  obtain ⟨final, finalNamed, finalComplete, agreesFinal, contradicts⟩ :=
    Ty.exists_agrees_not_agrees openedNamed wellNamed isOpen isThere partKnown
  have assertedKnown : asserted ≠ .unknown := by
    intro unknown
    subst unknown
    exact deep fun step child found => by simp at found
  have finalKnown := ((Ty.holes_eq_zero_iff finalNamed).mp finalComplete).1
  have fewer : final.holes < opened.holes := by
    have openedHoles : opened.holes ≠ 0 := fun complete => by
      have closed := Ty.holes_of_at? openedNamed complete isOpen
      rw [Ty.holes] at closed
      cases closed
    omega
  obtain ⟨acceptsAll, kept⟩ := Knowledge.after_displaced
    (Findings.resultObservation "optional arg type" (.declared, opened))
    (Findings.resultObservation "optional arg type" (.solved, asserted))
    (Findings.resultObservation "return type" (.solved, final))
    openedKnown openedAgrees noMore finalKnown agreesFinal fewer
  obtain ⟨accepts, result⟩ := plainStage_result? ρ site next asserted assertedKnown
  have accepts' := plainStage_accepts ρ site next asserted (some opened) (some final) acceptsAll
  have result' : (plainStage ρ site next asserted (some opened) (some final)).result?
      (plainApplication next) = some final := by
    rw [result?, resultHistory_plainStage]
    exact kept
  have proper := plainStage_proper ρ site next asserted none none wellNamed (by simp) (by simp)
  have proper' := plainStage_proper ρ site next asserted (some opened) (some final) wellNamed
    (by simpa using openedNamed) (by simpa using finalNamed)
  intro persists
  apply contradicts
  apply persists _ _ proper proper' (plainStage_extends ρ site next asserted _ _)
  · exact (asserts_result_iff accepts proper ofResult).mpr result
  · exact (asserts_result_iff accepts' proper' ofResult).mpr result'

end Plain

/-- What is asserted of the record always persists, and a type asserted of the result
does exactly if it is complete or shallow. -/
theorem persists_iff (ρ : Type) (site : Expr) (next : ExprId) {asserted : Ty}
    (wellNamed : asserted.WellNamed) :
    let slots := Slots.startingAt next
    Persists ρ slots site slots.container asserted ∧
      ∀ slot ∈ [slots.fallback, slots.out],
        Persists ρ slots site slot asserted ↔ asserted.holes = 0 ∨ asserted.IsShallow := by
  intro slots
  apply And.intro (persists_container site next asserted)
  intro slot ofResult
  apply Iff.intro
  · intro persists
    by_contra notFirm
    obtain ⟨incomplete, deep⟩ := not_or.mp notFirm
    exact not_persists_of_open ρ site next wellNamed incomplete deep ofResult persists
  · intro firm
    exact persists_of_firm site next firm ofResult

/-- A record of two members. -/
private def halvesTy (a b : Ty) : Ty :=
  .record [("a", a), ("b", b)]

/-- Of `struct{a str; b ?}` the member `a` may be contradicted later. -/
theorem not_persists_half_known :
    let slots := Slots.startingAt 1
    (halvesTy .text .unknown).WellNamed ∧
      ¬ Persists Unit slots (.placeholder 0) slots.out (halvesTy .text .unknown) := by
  intro slots
  have wellNamed : (halvesTy .text .unknown).WellNamed := by decide
  apply And.intro wellNamed
  intro persists
  have ofOut := (persists_iff Unit (.placeholder 0) 1 wellNamed).2 slots.out (.tail _ (.head _))
  rcases ofOut.mp persists with complete | shallow
  · cases complete
  · cases shallow (.member "a") .text rfl

/-- Two rounds that contradict each other: the first one asserts `struct{a str; b ?}`
of the result and the second one `struct{a int; b int}`, after `struct{a ?; b int}`
was declared for the fallback. -/
theorem contradicting_rounds :
    let site := Expr.placeholder 0
    let slots := Slots.startingAt 1
    let earlier := plainStage Unit site 1 (halvesTy .text .unknown) none none
    let later := plainStage Unit site 1 (halvesTy .text .unknown)
      (some (halvesTy .unknown (.prim .int))) (some (halvesTy (.prim .int) (.prim .int)))
    earlier.Proper slots site ∧ later.Proper slots site ∧ earlier.Extends later ∧
      earlier.Asserts slots site slots.out (halvesTy .text .unknown) ∧
      later.Asserts slots site slots.out (halvesTy (.prim .int) (.prim .int)) ∧
      ¬ (halvesTy .text .unknown).Agrees (halvesTy (.prim .int) (.prim .int)) := by
  intro site slots earlier later
  refine ⟨?_, ?_, plainStage_extends Unit site 1 _ _ _, ⟨_, rfl, ?_⟩, ⟨_, rfl, ?_⟩, by decide⟩
  · exact plainStage_proper Unit site 1 _ none none (by decide) (by simp) (by simp)
  · exact plainStage_proper Unit site 1 _ _ _ (by decide) (by decide) (by decide)
  · exact List.mem_of_getElem? (i := 6) rfl
  · exact List.mem_of_getElem? (i := 6) rfl

end Stage

end Polyflow.Lookup
