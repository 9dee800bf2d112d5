/-
# What a history of observations leaves behind

Knowledge keeps one observation out of all that it accepted, so a new one is
checked against the kept type alone. Agreement is not transitive: a type that was
accepted earlier but not kept may know a position that the kept type leaves open,
and an observation that contradicts it there is accepted too. This module follows
knowledge through any history, and says exactly when an earlier observation is
safe from such a contradiction.
-/

import Polyflow.Infer.Knowledge
import Polyflow.Proofs.Ty.Position

namespace Polyflow.Knowledge

/-- Whether an observation is taken in. -/
def accepts (knowledge : Knowledge) (observation : Observation) : Bool :=
  (knowledge.observe observation).isOk

/-- What is known after an observation. One that is refused changes nothing. -/
def next (knowledge : Knowledge) (observation : Observation) : Knowledge :=
  match knowledge.observe observation with
  | .ok (after, _) => after
  | .error _ => knowledge

theorem accepts_iff {knowledge : Knowledge} {observation : Observation} :
    knowledge.accepts observation = true ↔
      ∀ kept, knowledge.ty? = some kept → kept.Agrees observation.ty := by
  rcases knowledge with ⟨kept⟩
  by_cases known : observation.ty.isKnown = true
  · cases kept with
    | none => simp [accepts, observe, known, ty?, Except.isOk, Except.toBool]
    | some kept =>
        cases conflict : kept.ty.conflict? observation.ty with
        | none =>
            by_cases fewer : observation.ty.holes < kept.ty.holes <;>
              simp [accepts, observe, known, ty?, conflict, fewer, Ty.Agrees, Except.isOk,
                Except.toBool]
        | some cause =>
            simp [accepts, observe, known, ty?, conflict, Ty.Agrees, Except.isOk, Except.toBool]
  · have unknown : observation.ty = .unknown := by simpa [Ty.isKnown_iff] using known
    simp [accepts, observe, unknown, Ty.isKnown, Except.isOk, Except.toBool]

/-- Whether an observation takes the place of the one kept: it is accepted, it is
known, and it has fewer holes. -/
def replaces (knowledge : Knowledge) (observation : Observation) : Bool :=
  knowledge.accepts observation && observation.ty.isKnown &&
    knowledge.ty?.all (observation.ty.holes < ·.holes)

theorem replaces_iff {knowledge : Knowledge} {observation : Observation} :
    knowledge.replaces observation = true ↔
      knowledge.accepts observation = true ∧ observation.ty ≠ .unknown ∧
        ∀ kept, knowledge.ty? = some kept → observation.ty.holes < kept.holes := by
  rw [replaces, Bool.and_eq_true, Bool.and_eq_true, Ty.isKnown_iff, and_assoc]
  cases knowledge.ty? <;> simp

theorem next_eq_ite (knowledge : Knowledge) (observation : Observation) :
    knowledge.next observation =
      if knowledge.replaces observation then ⟨some observation⟩ else knowledge := by
  rcases knowledge with ⟨kept⟩
  by_cases known : observation.ty.isKnown = true
  · cases kept with
    | none => simp [next, replaces, accepts_iff, observe, known, ty?]
    | some kept =>
        cases conflict : kept.ty.conflict? observation.ty with
        | none =>
            by_cases fewer : observation.ty.holes < kept.ty.holes <;>
              simp [next, replaces, accepts_iff, observe, known, ty?, conflict, fewer, Ty.Agrees]
        | some cause =>
            simp [next, replaces, accepts_iff, observe, known, ty?, conflict, Ty.Agrees]
  · simp [next, replaces, observe, known]

/-- An unknown type is accepted and changes nothing. -/
theorem accepts_unknown (knowledge : Knowledge) (origin : String) :
    knowledge.accepts ⟨.unknown, origin⟩ = true :=
  accepts_iff.mpr fun kept _ => Ty.agrees_unknown kept

theorem next_unknown (knowledge : Knowledge) (origin : String) :
    knowledge.next ⟨.unknown, origin⟩ = knowledge := rfl

/-- What is known after a list of observations. -/
def after (knowledge : Knowledge) (observations : List Observation) : Knowledge :=
  observations.foldl next knowledge

/-- Those of a list of observations that are accepted when their turn comes. -/
def accepted (knowledge : Knowledge) : List Observation → List Observation
  | [] => []
  | observation :: rest =>
    if knowledge.accepts observation then observation :: (knowledge.next observation).accepted rest
    else (knowledge.next observation).accepted rest

/-- Whether a list of observations is accepted from its first to its last. -/
def acceptsAll (knowledge : Knowledge) : List Observation → Bool
  | [] => true
  | observation :: rest =>
    knowledge.accepts observation && (knowledge.next observation).acceptsAll rest

theorem after_append (knowledge : Knowledge) (first second : List Observation) :
    knowledge.after (first ++ second) = (knowledge.after first).after second :=
  List.foldl_append

theorem acceptsAll_append (knowledge : Knowledge) (first second : List Observation) :
    knowledge.acceptsAll (first ++ second) =
      (knowledge.acceptsAll first && (knowledge.after first).acceptsAll second) := by
  induction first generalizing knowledge with
  | nil => rfl
  | cons observation rest ih =>
      rw [List.cons_append, acceptsAll, ih, acceptsAll, Bool.and_assoc]
      rfl

theorem accepted_append (knowledge : Knowledge) (first second : List Observation) :
    knowledge.accepted (first ++ second) =
      knowledge.accepted first ++ (knowledge.after first).accepted second := by
  induction first generalizing knowledge with
  | nil => rfl
  | cons observation rest ih =>
      have later : knowledge.after (observation :: rest) = (knowledge.next observation).after rest :=
        rfl
      rw [List.cons_append, accepted, accepted, ih, later]
      by_cases accepts : knowledge.accepts observation = true
      · simp only [if_pos accepts, List.cons_append]
      · simp only [if_neg accepts]

theorem kept_next {knowledge : Knowledge} {observation kept : Observation}
    (holds : (knowledge.next observation).kept = some kept) :
    kept = observation ∨ knowledge.kept = some kept := by
  rw [next_eq_ite] at holds
  split at holds
  · exact .inl (Option.some.inj holds).symm
  · exact .inr holds

/-- What is kept was observed, unless it was there from the start. -/
theorem kept_after {knowledge : Knowledge} {observations : List Observation} {kept : Observation}
    (holds : (knowledge.after observations).kept = some kept) :
    kept ∈ observations ∨ knowledge.kept = some kept := by
  induction observations generalizing knowledge with
  | nil => exact .inr holds
  | cons observation rest ih =>
      rcases ih holds with later | first
      · exact .inl (List.mem_cons_of_mem _ later)
      · rcases kept_next first with rfl | before
        · exact .inl List.mem_cons_self
        · exact .inr before

/-- Something that is kept is only ever replaced. -/
theorem isSome_kept_next {knowledge : Knowledge} (something : knowledge.kept.isSome)
    (observation : Observation) : (knowledge.next observation).kept.isSome := by
  rw [next_eq_ite]
  split
  · rfl
  · exact something

theorem isSome_kept_after {knowledge : Knowledge} (something : knowledge.kept.isSome)
    (observations : List Observation) : (knowledge.after observations).kept.isSome := by
  induction observations generalizing knowledge with
  | nil => exact something
  | cons observation rest ih => exact ih (isSome_kept_next something observation)

/-- Once a known type was accepted, something is kept. -/
theorem isSome_kept_of_accepted {knowledge : Knowledge} {observations : List Observation}
    {observation : Observation} (member : observation ∈ knowledge.accepted observations)
    (known : observation.ty ≠ .unknown) : (knowledge.after observations).kept.isSome := by
  induction observations generalizing knowledge with
  | nil => cases member
  | cons first rest ih =>
      rw [accepted] at member
      split at member
      case isTrue accepts =>
        rcases List.mem_cons.mp member with rfl | later
        · have something : (knowledge.next observation).kept.isSome := by
            rw [next_eq_ite]
            cases kept : knowledge.kept with
            | none => simp [replaces, accepts, Ty.isKnown_iff.mpr known, ty?, kept]
            | some other => split <;> simp [kept]
          exact isSome_kept_after something rest
        · exact ih later
      case isFalse => exact ih member

/-- If all are accepted, the accepted ones are those made. -/
theorem accepted_of_acceptsAll {knowledge : Knowledge} {observations : List Observation}
    (accepts : knowledge.acceptsAll observations = true) :
    knowledge.accepted observations = observations := by
  induction observations generalizing knowledge with
  | nil => rfl
  | cons first rest ih =>
      rw [acceptsAll, Bool.and_eq_true] at accepts
      rw [accepted, if_pos accepts.1, ih accepts.2]

/-- Then something is kept if a known type was among them. -/
theorem exists_ty?_of_observed {observations : List Observation} {observation : Observation}
    (accepts : acceptsAll {} observations = true) (member : observation ∈ observations)
    (known : observation.ty ≠ .unknown) : ∃ ty, (after {} observations).ty? = some ty := by
  rw [← accepted_of_acceptsAll accepts] at member
  obtain ⟨kept, holds⟩ := Option.isSome_iff_exists.mp (isSome_kept_of_accepted member known)
  exact ⟨kept.ty, by rw [ty?, holds, Option.map_some]⟩

/-- The accepted observations are among those made. -/
theorem mem_of_mem_accepted {knowledge : Knowledge} {observations : List Observation}
    {observation : Observation} (member : observation ∈ knowledge.accepted observations) :
    observation ∈ observations := by
  induction observations generalizing knowledge with
  | nil => cases member
  | cons first rest ih =>
      rw [accepted] at member
      split at member
      · rcases List.mem_cons.mp member with rfl | later
        · exact List.mem_cons_self
        · exact List.mem_cons_of_mem _ (ih later)
      · exact List.mem_cons_of_mem _ (ih member)

/-- An earlier accepted observation is safe, at some moment of a history, from
contradiction by whatever is accepted next exactly if the type kept at that moment
agrees with it and resolves every position that it knows. -/
theorem forall_accepts_agrees_iff {seen : List Observation}
    (wellNamed : ∀ observation ∈ seen, observation.ty.WellNamed) {earlier : Observation}
    (member : earlier ∈ accepted {} seen) :
    (∀ later : Observation, later.ty.WellNamed → (after {} seen).accepts later = true →
        earlier.ty.Agrees later.ty) ↔
      ∀ kept, (after {} seen).ty? = some kept →
        kept.Agrees earlier.ty ∧ kept.Resolves earlier.ty := by
  have earlierNamed := wellNamed earlier (mem_of_mem_accepted member)
  by_cases known : earlier.ty = .unknown
  · rw [known]
    refine ⟨fun _ kept _ => ⟨Ty.agrees_unknown kept, fun path ty _ isThere => ?_⟩,
      fun _ later _ _ => Ty.unknown_agrees _⟩
    cases path with
    | nil => exact (Option.some.inj isThere).symm
    | cons step path => simp [Ty.at?] at isThere
  · obtain ⟨kept, holds⟩ := Option.isSome_iff_exists.mp (isSome_kept_of_accepted member known)
    have keptTy : (after {} seen).ty? = some kept.ty := by simp [ty?, holds]
    have keptNamed : kept.ty.WellNamed := by
      rcases kept_after holds with inside | atStart
      · exact wellNamed kept inside
      · cases atStart
    have standsIn := Ty.forall_agrees_iff keptNamed earlierNamed
    simp only [accepts_iff, keptTy, Option.some.injEq, forall_eq']
    rw [← standsIn]
    exact ⟨fun safe next named agrees => safe ⟨next, ""⟩ named agrees,
      fun safe later named agrees => safe later.ty named agrees⟩

/-- A record of two members, observed somewhere. -/
private def pairObserved (first second : Ty) : Observation :=
  ⟨.record [("a", first), ("b", second)], "somewhere"⟩

/-- After `struct{a ?; b int}` was kept, `struct{a str; b ?}` is accepted without
being kept, and is not safe: the kept type leaves `a` open. -/
theorem not_forall_accepts_agrees_of_open_member :
    let seen := [pairObserved .unknown (.prim .int), pairObserved .text .unknown]
    pairObserved .text .unknown ∈ accepted {} seen ∧
      ¬ ∀ later : Observation, later.ty.WellNamed → (after {} seen).accepts later = true →
        (pairObserved .text .unknown).ty.Agrees later.ty := by
  intro seen
  have wellNamed : ∀ observation ∈ seen, observation.ty.WellNamed := by decide
  have member : pairObserved .text .unknown ∈ accepted {} seen := .tail _ (.head _)
  apply And.intro member
  intro safe
  have resolved := ((forall_accepts_agrees_iff wellNamed member).mp safe _ rfl).2
  cases resolved [.member "a"] .text rfl rfl

/-- Not all accepted observations agree: of `struct{a ?; b int}`,
`struct{a str; b ?}` and `struct{a int; b int}` all are accepted, and the last two
contradict each other. -/
theorem not_forall_accepted_pairwise_agrees :
    ¬ ∀ observations : List Observation,
      (∀ observation ∈ observations, observation.ty.WellNamed) →
        (accepted {} observations).Pairwise fun earlier later =>
          earlier.ty.Agrees later.ty := by
  intro pairwise
  have agree := pairwise
    [pairObserved .unknown (.prim .int), pairObserved .text .unknown,
      pairObserved (.prim .int) (.prim .int)]
    (by decide)
  revert agree
  decide

end Polyflow.Knowledge
