/-
# What was derived is derived again

Rounds are monotone. As more becomes known, and as long as it is known in full, what
one round of a call site derived is derived again by every later round that succeeds,
whatever happened in between. A type may be told in another order of its members, and
then the record is taken apart in another order too, but into the same parts. And once a
round has succeeded, a later one cannot fail for want of something to work with.
-/

import Polyflow.Proofs.Lookup.Course
import Polyflow.Proofs.Lookup.Detection

namespace Polyflow

/-- The same constraint, on the same expressions, up to the order of members in a type
and in a record that is taken apart. -/
def Constraint.RecursAs {ρ : Type} : Constraint ρ → Constraint ρ → Prop
  | .hasType expr ty, .hasType expr' ty' => expr = expr' ∧ ty.Equiv ty'
  | .sameType left right, .sameType left' right' => left = left' ∧ right = right'
  | .function shape, .function shape' => shape = shape'
  | .record shape, .record shape' => shape.expr = shape'.expr ∧ shape.members.Perm shape'.members
  | .producedBy result func, .producedBy result' func' => result = result' ∧ func = func'
  | .call found, .call found' => found = found'
  | .generator ours, .generator theirs => ours.site = theirs.site
  | _, _ => False

/-- A list has everything that another one has. -/
def Constraint.AllRecur {ρ : Type} (earlier later : List (Constraint ρ)) : Prop :=
  ∀ constraint ∈ earlier, ∃ constraint' ∈ later, constraint.RecursAs constraint'

namespace Constraint

variable {ρ : Type} {first first' second second' : List (Constraint ρ)}

theorem AllRecur.append (firsts : AllRecur first first') (seconds : AllRecur second second') :
    AllRecur (first ++ second) (first' ++ second') := by
  intro constraint member
  rcases List.mem_append.mp member with inFirst | inSecond
  · obtain ⟨constraint', member', recurs⟩ := firsts constraint inFirst
    exact ⟨constraint', List.mem_append_left _ member', recurs⟩
  · obtain ⟨constraint', member', recurs⟩ := seconds constraint inSecond
    exact ⟨constraint', List.mem_append_right _ member', recurs⟩

end Constraint

end Polyflow

namespace Polyflow.Lookup

variable {ρ : Type}

namespace Slots

variable {slots : Slots} {selector : String} {after : Context}

/-- What a member is tied to is fixed by its name. -/
theorem Represents.unique {part part' : String × Expr}
    (represents : slots.Represents selector after part)
    (represents' : slots.Represents selector after part') (same : part.1 = part'.1) :
    part.2 = part'.2 := by
  rw [Represents] at represents represents'
  rw [← same] at represents'
  split at represents
  case isTrue selected =>
    rw [if_pos selected] at represents'
    exact represents.trans represents'.symm
  case isFalse other =>
    rw [if_neg other] at represents'
    rcases represents with ⟨id, isUnknown, onRecord⟩
    rcases represents' with ⟨id', isUnknown', onRecord'⟩
    cases onRecord.symm.trans onRecord'
    exact isUnknown.trans isUnknown'.symm

theorem links_recur (slots : Slots) (app : Application) :
    Constraint.AllRecur (slots.links app : List (Constraint ρ)) (slots.links app) := by
  intro constraint member
  refine ⟨constraint, member, ?_⟩
  simp only [links, List.mem_cons, List.not_mem_nil, or_false] at member
  rcases member with rfl | rfl | rfl | rfl | rfl
  · exact ⟨rfl, rfl⟩
  · exact ⟨rfl, rfl⟩
  · exact ⟨rfl, rfl⟩
  · exact ⟨rfl, rfl⟩
  · exact ⟨rfl, Ty.equiv_refl trivial⟩

/-- What is stated of the result recurs if the type found for it does. -/
theorem stateResult_recurs (slots : Slots) {found found' : Option Ty}
    (recurs : ∀ ty, found = some ty → ∃ ty', found' = some ty' ∧ ty.Equiv ty') :
    Constraint.AllRecur (slots.stateResult found : List (Constraint ρ))
      (slots.stateResult found') := by
  cases found with
  | none => simp [Constraint.AllRecur, stateResult]
  | some ty =>
      obtain ⟨ty', rfl, equal⟩ := recurs ty rfl
      intro constraint member
      rcases List.mem_pair.mp member with rfl | rfl
      · exact ⟨_, List.mem_cons_self, rfl, equal⟩
      · exact ⟨_, List.mem_cons_of_mem _ List.mem_cons_self, rfl, equal⟩

/-- What is stated of the record recurs if the type found for it does. -/
theorem stateContainer_recurs {selector : Option String} {found found' : Option Ty}
    (wellNamed : ∀ ty, found = some ty → ty.WellNamed)
    (wellNamed' : ∀ ty, found' = some ty → ty.WellNamed)
    (recurs : ∀ ty, found = some ty → ∃ ty', found' = some ty' ∧ ty.Equiv ty')
    {stated stated' : List (Constraint ρ)} {context context' after' : Context}
    (ran : (slots.stateContainer selector found).runIn context = (.ok stated, after))
    (grows : after.Grows context')
    (ran' : (slots.stateContainer selector found').runIn context' = (.ok stated', after')) :
    Constraint.AllRecur stated stated' := by
  have grows' : context'.Grows after' := by
    have grows' : context'.Grows ((slots.stateContainer selector found' :
        Round (List (Constraint ρ))).runIn context').2 :=
      slots.grows_stateContainer selector found' context'
    rwa [ran'] at grows'
  rcases selected_or_absent selector found with ⟨name, members, rfl, rfl, present⟩ | absent
  · obtain ⟨ty', rfl, equal⟩ := recurs _ rfl
    have named := wellNamed _ rfl
    have named' := wellNamed' _ rfl
    obtain ⟨members', rfl, -⟩ :=
      Ty.exists_record_of_equiv (equal.symm named named') named' named
    have distinct := (Ty.wellNamed_record.mp named).1
    have distinct' := (Ty.wellNamed_record.mp named').1
    have matched := (Ty.record_equiv_record distinct distinct').mp equal
    have present' := (rel_iff.mp (matched name)).1.mp present
    obtain ⟨exprs, _, ranHere, names, represent⟩ :=
      stateContainer_runIn_of_member ρ slots present distinct context
    obtain ⟨exprs', _, ranHere', names', represent'⟩ :=
      stateContainer_runIn_of_member ρ slots present' distinct' context'
    cases ran.symm.trans ranHere
    cases ran'.symm.trans ranHere'
    -- The later type may list its members in another order: parts are compared by name.
    have parts : exprs.Perm exprs' := by
      apply perm_of_names
      · rw [names, names']
        exact matched.names_perm distinct distinct'
      · exact names ▸ distinct
      · intro part member part' member'
        exact ((represent part member).grows (grows.trans grows')).unique
          (represent' part' member')
    intro constraint member
    rcases List.mem_pair.mp member with rfl | rfl
    · exact ⟨_, List.mem_cons_self, rfl, equal⟩
    · exact ⟨_, List.mem_cons_of_mem _ List.mem_cons_self, rfl, parts⟩
  · cases ran.symm.trans (stateContainer_runIn_of_no_member ρ slots absent context)
    obtain ⟨parts, _, ranHere', -⟩ :=
      slots.stateContainer_runIn ρ selector wellNamed' context'
    cases ran'.symm.trans ranHere'
    intro constraint member
    obtain ⟨ty, isFound, rfl⟩ := List.mem_map.mp member
    obtain ⟨ty', isFound', equal⟩ := recurs ty (Option.mem_toList.mp isFound)
    refine ⟨.hasType slots.container ty', ?_, rfl, equal⟩
    simp [isFound']

end Slots

namespace Stage

variable {slots : Slots} {site : Expr} {earlier later : Stage ρ} {app : Application}

/-- A stage that is reached after the round at another one: facts were appended, and
what was solved stays. The context has had any course since then. -/
structure Follows (slots : Slots) (site : Expr) (earlier later : Stage ρ) : Prop where
  facts : earlier.facts <+: later.facts
  solved : ∀ expr ty, earlier.solution.get? expr = some ty → later.solution.get? expr = some ty
  reached : ∃ events : List (Event ρ), later.context = course
    ((slots.derive site earlier.facts earlier.solution).runIn earlier.context).2 events

theorem Follows.grows (follows : Follows slots site earlier later) :
    ((slots.derive site earlier.facts earlier.solution).runIn earlier.context).2.Grows
      later.context := by
  rcases follows.reached with ⟨events, reached⟩
  rw [reached]
  exact grows_course _ events

theorem Follows.extends (follows : Follows slots site earlier later) : earlier.Extends later where
  facts := follows.facts
  solved := follows.solved
  declared := ((slots.grows_derive site earlier.facts earlier.solution earlier.context).trans
    follows.grows).declared

/-- Names that are distinct in what is known later were so before. -/
theorem Extends.wellNamed (extended : earlier.Extends later)
    (wellNamed : app.WellNamed later.context later.solution) :
    app.WellNamed earlier.context earlier.solution :=
  fun expr member entry isKnown => wellNamed expr member entry (extended.mem_knownTypes isKnown)

/-- Everything that a round derived recurs in a later one that succeeds, if all that is
known then is known in full; and if the later one fails, it is over a contradiction. -/
theorem derived_recurs (follows : Follows slots site earlier later)
    {derived : List (Constraint ρ)}
    (succeeds : ((slots.derive site earlier.facts earlier.solution).runIn earlier.context).1 =
      .ok derived)
    (definite : ∀ app : Application, app.RecordedAt site later.facts → later.Definite app) :
    let outcome := ((slots.derive site later.facts later.solution).runIn later.context).1
    (∀ derived', outcome = .ok derived' → Constraint.AllRecur derived derived') ∧
      ∀ error, outcome = .error error → error.IsConflict := by
  intro outcome
  obtain ⟨app, recorded, ofContainer, -, -, -, -, stated, rfl⟩ :=
    Slots.derive_eq_ok_iff.mp (Prod.ext succeeds rfl)
  have extended := follows.extends
  have recorded' := extended.recordedAt recorded
  have definite := definite app recorded'
  have named' := definite.wellNamed
  have named := extended.wellNamed named'
  apply And.intro
  · intro derived' succeeds'
    obtain ⟨app', recordedAgain, ofContainer', -, -, acceptsContainer, acceptsResult, stated',
      rfl⟩ := Slots.derive_eq_ok_iff.mp (Prod.ext succeeds' rfl)
    -- Appended facts come after the call that was found, so it is found again.
    have same := recordedAt_unique recorded' recordedAgain
    subst same
    have containerRecurs := slots.stateContainer_recurs
      (fun _ holds => Knowledge.kept_of_observed Ty.WellNamed named.containerHistory holds)
      (fun _ holds => Knowledge.kept_of_observed Ty.WellNamed named'.containerHistory holds)
      (fun _ holds => Knowledge.exists_equiv_of_observed_again named'.containerHistory
        definite.containerHistory acceptsContainer extended.mem_containerHistory holds)
      stated follows.grows stated'
    have resultRecurs : Constraint.AllRecur (slots.stateResult _ : List (Constraint ρ))
        (slots.stateResult _) := slots.stateResult_recurs
      (fun _ holds => Knowledge.exists_equiv_of_observed_again named'.resultHistory
        definite.resultHistory acceptsResult extended.mem_resultHistory holds)
    have producedRecurs : Constraint.AllRecur [(.producedBy app.call site : Constraint ρ)]
        [.producedBy app.call site] := by
      intro constraint member
      cases List.mem_singleton.mp member
      exact ⟨_, member, rfl, rfl⟩
    exact (((slots.links_recur app).append containerRecurs).append resultRecurs).append
      producedRecurs
  · intro error fails
    exact Slots.isConflict_of_derive recorded' named' fails

private def sizeApplication : Application where
  call := .placeholder 1
  container := .symbol 2 "shape"
  selector := .literal 3 (.text "size")
  fallback := .symbol 4 "other"

/-- The record was solved, and nothing is declared. -/
private def solvedStage : Stage Unit where
  facts := [.call ⟨.placeholder 1, .placeholder 0,
    [.symbol 2 "shape", .literal 3 (.text "size"), .symbol 4 "other"]⟩]
  solution := ⟨(∅ : Std.TreeMap ExprId Ty).insert 2
    (.record [("size", .prim .int), ("color", .text), ("name", .text)])⟩
  context := { next := 9 }

/-- The record was declared since, in another order of its members, and a round was run
that failed. -/
private def declaredStage : Stage Unit where
  facts := solvedStage.facts ++ [.producedBy (.placeholder 1) (.placeholder 0)]
  solution := solvedStage.solution
  context := course
    (((Slots.startingAt 5).derive (.placeholder 0) solvedStage.facts
      solvedStage.solution).runIn solvedStage.context).2
    [.round (Slots.startingAt 5) (.placeholder 0) ([] : List (Constraint Unit)) {}, .express,
      .declare (.symbol 2 "shape")
        (.record [("name", .text), ("size", .prim .int), ("color", .text)])]

/-- The record is taken apart again, now in the order in which it was declared. -/
theorem derived_recurs_in_another_order :
    let slots := Slots.startingAt 5
    let site := Expr.placeholder 0
    Follows slots site solvedStage declaredStage ∧
      (∀ app : Application, app.RecordedAt site declaredStage.facts →
        declaredStage.Definite app) ∧
      ∃ derived derived',
        ((slots.derive site solvedStage.facts solvedStage.solution).runIn
          solvedStage.context).1 = .ok derived ∧
        ((slots.derive site declaredStage.facts declaredStage.solution).runIn
          declaredStage.context).1 = .ok derived' ∧
        Constraint.AllRecur derived derived' := by
  intro slots site
  have follows : Follows slots site solvedStage declaredStage :=
    ⟨List.prefix_append _ _, fun _ _ holds => holds, _, rfl⟩
  have recorded : sizeApplication.RecordedAt site declaredStage.facts := ⟨_, rfl, rfl, rfl⟩
  have definite (app : Application) (recorded' : app.RecordedAt site declaredStage.facts) :
      declaredStage.Definite app := by
    rw [← recordedAt_unique recorded recorded', Definite]
    decide
  refine ⟨follows, definite, _, _, rfl, rfl, ?_⟩
  exact (derived_recurs follows rfl definite).1 _ rfl

end Stage

end Polyflow.Lookup
