/-
# Positions in partly known types

A path of steps leads to a position in a type. One type resolves another when it
has a hole only where the other knows nothing either. A type that agrees with
another and resolves it can stand in for it: whatever agrees with the first
agrees with the second. If it leaves open a position that the other knows, it
cannot: some complete type agrees with the first and contradicts the second.
-/

import Polyflow.Proofs.Ty.Agreement
import Mathlib.Tactic.Choose

namespace Polyflow.Ty

/-- The type at the end of a path, if the path exists. -/
def at? : Ty → List Step → Option Ty
  | ty, [] => some ty
  | ty, step :: path => (ty.child? step).bind (·.at? path)

/-- Every hole of the first type is a hole of the second one, where the second
has that position at all. -/
def Resolves (precise rough : Ty) : Prop :=
  ∀ path ty, precise.at? path = some .unknown → rough.at? path = some ty → ty = .unknown

@[simp]
theorem at?_nil (ty : Ty) : ty.at? [] = some ty := rfl

/-- A path that begins at a child continues there. -/
theorem at?_cons {ty child : Ty} {step : Step} (found : ty.child? step = some child)
    (path : List Step) : ty.at? (step :: path) = child.at? path := by
  simp [at?, found]

/-- Types that resolve one another do so at each pair of children. -/
theorem Resolves.child {precise rough part roughPart : Ty} (resolves : precise.Resolves rough)
    {step : Step} (found : precise.child? step = some part)
    (found' : rough.child? step = some roughPart) : part.Resolves roughPart := by
  intro path ty isOpen isThere
  apply resolves (step :: path) ty
  · rw [at?_cons found, isOpen]
  · rw [at?_cons found', isThere]

/-- The type with its children changed, each under its own step. -/
def mapChildren (change : Step → Ty → Ty) : Ty → Ty
  | .prim kind => .prim kind
  | .record members =>
    .record (members.map fun entry => (entry.1, change (.member entry.1) entry.2))
  | .func args ret =>
    .func (args.mapIdx fun index entry => (entry.1, change (.arg index) entry.2)) (change .ret ret)
  | .unknown => .unknown

@[simp]
theorem head_mapChildren (change : Step → Ty → Ty) (ty : Ty) :
    (ty.mapChildren change).head = ty.head := by
  cases ty <;> rfl

@[simp]
theorem child?_mapChildren (change : Step → Ty → Ty) (ty : Ty) (step : Step) :
    (ty.mapChildren change).child? step = (ty.child? step).map (change step) := by
  cases ty with
  | prim kind => simp [mapChildren]
  | unknown => simp [mapChildren]
  | record members =>
      cases step with
      | member name => exact lookup_map members (fun name => change (.member name)) name
      | arg index => rfl
      | ret => rfl
  | func args ret =>
      cases step with
      | member name => rfl
      | arg index => simp [mapChildren, child?, Function.comp_def]
      | ret => rfl

/-- Names stay distinct if they are so in every changed child. -/
theorem wellNamed_mapChildren {change : Step → Ty → Ty} {ty : Ty} (wellNamed : ty.WellNamed)
    (changed : ∀ step child, ty.child? step = some child → (change step child).WellNamed) :
    (ty.mapChildren change).WellNamed := by
  cases ty with
  | prim kind => trivial
  | unknown => trivial
  | record members =>
      rcases wellNamed_record.mp wellNamed with ⟨distinct, -⟩
      apply wellNamed_record.mpr
      apply And.intro (by simpa [Function.comp_def] using distinct)
      intro entry member
      obtain ⟨original, present, rfl⟩ := List.mem_map.mp member
      exact changed (.member original.1) original.2
        ((lookup_eq_some_iff_mem distinct).mpr present)
  | func args ret =>
      rcases wellNamed_func.mp wellNamed with ⟨distinct, -, -⟩
      refine wellNamed_func.mpr ⟨?_, ?_, changed .ret ret rfl⟩
      · have names : (args.mapIdx fun index entry =>
            (entry.1, change (.arg index) entry.2)).map Prod.fst = args.map Prod.fst := by
          apply List.ext_getElem?
          intro index
          simp [Function.comp_def]
        rw [names]
        exact distinct
      · intro entry member
        obtain ⟨index, bound, rfl⟩ := List.mem_mapIdx.mp member
        exact changed (.arg index) _ (by simp [child?, bound])

/-- A type agrees with its changed form if each child agrees with its own. -/
theorem agrees_mapChildren {change : Step → Ty → Ty} {ty : Ty} (wellNamed : ty.WellNamed)
    (changed : ∀ step child, ty.child? step = some child → child.Agrees (change step child)) :
    ty.Agrees (ty.mapChildren change) := by
  apply agrees_of_children wellNamed (head_mapChildren change ty).symm
  intro step
  rw [child?_mapChildren]
  cases found : ty.child? step with
  | none => exact .none
  | some child => exact .some (changed step child found)

/-- The changed form of a known type is complete if each changed child is. -/
theorem holes_mapChildren {change : Step → Ty → Ty} {ty : Ty}
    (wellNamed : (ty.mapChildren change).WellNamed) (known : ty ≠ .unknown)
    (changed : ∀ step child, ty.child? step = some child → (change step child).holes = 0) :
    (ty.mapChildren change).holes = 0 := by
  rw [holes_eq_zero_iff wellNamed]
  apply And.intro
  · intro unknown
    rw [← head_eq_unknown, head_mapChildren, head_eq_unknown] at unknown
    exact known unknown
  · intro step child found
    rw [child?_mapChildren] at found
    obtain ⟨original, present, rfl⟩ := Option.map_eq_some_iff.mp found
    exact changed step original present

/-- What is known in part can be completed. -/
theorem exists_completion {ty : Ty} (wellNamed : ty.WellNamed) :
    ∃ whole : Ty, whole.WellNamed ∧ whole.holes = 0 ∧ ty.Agrees whole := by
  induction ty using inductionOnChildren with
  | parent ty ih =>
      by_cases known : ty = .unknown
      · subst known
        exact ⟨.prim .bool, trivial, rfl, unknown_agrees _⟩
      · have completable := fun step child found => ih step child found (wellNamed.child found)
        choose! change named complete agrees using completable
        have wholeNamed := wellNamed_mapChildren wellNamed named
        exact ⟨ty.mapChildren change, wholeNamed, holes_mapChildren wholeNamed known complete,
          agrees_mapChildren wellNamed agrees⟩

/-- For every known type there is a complete one that contradicts it at the
outermost level. -/
theorem exists_contradiction {ty : Ty} (known : ty ≠ .unknown) :
    ∃ other : Ty, other.WellNamed ∧ other.holes = 0 ∧ ¬ ty.Agrees other := by
  cases ty with
  | unknown => exact absurd rfl known
  | prim kind =>
      by_cases same : kind = .bool
      · subst same
        exact ⟨.prim .int, trivial, rfl, by decide⟩
      · exact ⟨.prim .bool, trivial, rfl, by simpa [Agrees, conflict?] using same⟩
  | record members => exact ⟨.prim .bool, trivial, rfl, by simp [Agrees, conflict?]⟩
  | func args ret => exact ⟨.prim .bool, trivial, rfl, by simp [Agrees, conflict?]⟩

theorem ne_unknown_of_child {ty child : Ty} {step : Step}
    (found : ty.child? step = some child) : ty ≠ .unknown := by
  intro unknown
  rw [unknown, child?_unknown] at found
  cases found

/-- A known type can be completed so that one child becomes a given complete type
that it agrees with. -/
theorem exists_completion_with_child {ty child other : Ty} {step : Step}
    (wellNamed : ty.WellNamed) (found : ty.child? step = some child)
    (otherNamed : other.WellNamed) (otherComplete : other.holes = 0)
    (agrees : child.Agrees other) :
    ∃ whole : Ty, whole.WellNamed ∧ whole.holes = 0 ∧ ty.Agrees whole ∧
      whole.child? step = some other := by
  have completable (at_ : Step) (part : Ty) (present : ty.child? at_ = some part) :
      ∃ whole : Ty, whole.WellNamed ∧ whole.holes = 0 ∧ part.Agrees whole ∧
        (at_ = step → whole = other) := by
    by_cases same : at_ = step
    · subst same
      rw [found] at present
      cases present
      exact ⟨other, otherNamed, otherComplete, agrees, fun _ => rfl⟩
    · obtain ⟨whole, named, complete, agrees⟩ := exists_completion (wellNamed.child present)
      exact ⟨whole, named, complete, agrees, fun equal => absurd equal same⟩
  choose! change named complete agrees' here using completable
  have wholeNamed := wellNamed_mapChildren wellNamed named
  refine ⟨ty.mapChildren change, wholeNamed, ?_, agrees_mapChildren wellNamed agrees', ?_⟩
  · exact holes_mapChildren wholeNamed (ne_unknown_of_child found) complete
  · rw [child?_mapChildren, found, Option.map_some, here step child found rfl]

/-- If the first type leaves open a position that the second one knows, they can
be driven apart: a complete type agrees with the first and not with the second. -/
theorem exists_agrees_not_agrees {kept earlier known : Ty} {path : List Step}
    (keptNamed : kept.WellNamed) (earlierNamed : earlier.WellNamed)
    (isOpen : kept.at? path = some .unknown) (isThere : earlier.at? path = some known)
    (something : known ≠ .unknown) :
    ∃ next : Ty, next.WellNamed ∧ next.holes = 0 ∧ kept.Agrees next ∧ ¬ earlier.Agrees next := by
  induction path generalizing kept earlier with
  | nil =>
      cases isOpen
      cases isThere
      obtain ⟨other, named, complete, contradicts⟩ := exists_contradiction something
      exact ⟨other, named, complete, unknown_agrees _, contradicts⟩
  | cons step path ih =>
      rcases Option.bind_eq_some_iff.mp isOpen with ⟨part, found, isOpen⟩
      rcases Option.bind_eq_some_iff.mp isThere with ⟨earlierPart, found', isThere⟩
      obtain ⟨other, otherNamed, otherComplete, agrees, contradicts⟩ :=
        ih (keptNamed.child found) (earlierNamed.child found') isOpen isThere
      obtain ⟨next, nextNamed, complete, agreesNext, foundNext⟩ :=
        exists_completion_with_child keptNamed found otherNamed otherComplete agrees
      refine ⟨next, nextNamed, complete, agreesNext, fun earlierAgrees => ?_⟩
      obtain ⟨nextPart, foundPart, agreesPart⟩ := exists_right_of_rel
        (earlierAgrees.children earlierNamed (ne_unknown_of_child found')
          (ne_unknown_of_child foundNext) step) found'
      rw [foundNext] at foundPart
      cases foundPart
      exact contradicts agreesPart

/-- A type that agrees with another and resolves it stands in for it. -/
theorem Resolves.agrees {kept earlier next : Ty} (resolves : kept.Resolves earlier)
    (agrees : kept.Agrees earlier) (agreesNext : kept.Agrees next)
    (keptNamed : kept.WellNamed) (earlierNamed : earlier.WellNamed) : earlier.Agrees next := by
  induction kept using inductionOnChildren generalizing earlier next with
  | parent kept ih =>
      rcases (agrees_iff keptNamed).mp agrees with rfl | rfl | ⟨heads, children⟩
      · rw [resolves [] earlier rfl rfl]
        exact unknown_agrees _
      · exact unknown_agrees _
      rcases (agrees_iff keptNamed).mp agreesNext with rfl | rfl | ⟨heads', children'⟩
      · rw [resolves [] earlier rfl rfl]
        exact unknown_agrees _
      · exact agrees_unknown _
      apply agrees_of_children earlierNamed (heads.symm.trans heads')
      intro step
      have swapped : Option.Rel (fun earlier kept => Agrees kept earlier)
          (earlier.child? step) (kept.child? step) :=
        rel_swap (children step) fun _ _ _ _ => id
      apply rel_compose swapped (children' step)
      intro earlierPart part nextPart foundEarlier found foundNext agreesPart agreesNextPart
      exact ih step part found (resolves.child found foundEarlier) agreesPart agreesNextPart
        (keptNamed.child found) (earlierNamed.child foundEarlier)

/-- Exactly the types that agree with another and resolve it stand in for it. -/
theorem forall_agrees_iff {kept earlier : Ty} (keptNamed : kept.WellNamed)
    (earlierNamed : earlier.WellNamed) :
    (∀ next : Ty, next.WellNamed → kept.Agrees next → earlier.Agrees next) ↔
      kept.Agrees earlier ∧ kept.Resolves earlier := by
  refine ⟨fun standsIn => ⟨?_, fun path ty isOpen isThere => ?_⟩, fun both next _ agreesNext => ?_⟩
  · exact (standsIn kept keptNamed (agrees_refl keptNamed)).symm earlierNamed keptNamed
  · by_contra something
    obtain ⟨next, named, -, agrees, contradicts⟩ :=
      exists_agrees_not_agrees keptNamed earlierNamed isOpen isThere something
    exact contradicts (standsIn next named agrees)
  · exact both.2.agrees both.1 agreesNext keptNamed earlierNamed

end Polyflow.Ty
