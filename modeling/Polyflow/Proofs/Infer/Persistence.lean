/-
# What survives further observations

Once a firm type was observed, nothing that is kept later contradicts it: the kept
type resolves it, so whatever is accepted next agrees with it as well. For a type
that is not firm this fails, even if it was accepted and nothing was refused since.
-/

import Polyflow.Proofs.Infer.Satisfaction
import Polyflow.Proofs.Ty.Complete
import Polyflow.Proofs.Ty.Opening

namespace Polyflow.Knowledge

/-- What is kept is known. -/
theorem ne_unknown_of_ty?_after {knowledge : Knowledge} {observations : List Observation}
    (known : ∀ ty, knowledge.ty? = some ty → ty ≠ .unknown) {ty : Ty}
    (holds : (knowledge.after observations).ty? = some ty) : ty ≠ .unknown := by
  induction observations generalizing knowledge with
  | nil => exact known ty holds
  | cons observation rest ih =>
      apply ih _ holds
      intro kept isKept
      rw [next_eq_ite] at isKept
      split at isKept
      case isTrue replaces =>
        cases isKept
        exact (replaces_iff.mp replaces).2.1
      case isFalse => exact known kept isKept

/-- What is kept is known and has distinct names. -/
def IsProper (knowledge : Knowledge) : Prop :=
  ∀ kept, knowledge.ty? = some kept → kept ≠ .unknown ∧ kept.WellNamed

/-- The kept type agrees with another one and has no more holes. -/
def Settles (knowledge : Knowledge) (ty : Ty) : Prop :=
  ∃ kept, knowledge.ty? = some kept ∧ kept ≠ .unknown ∧ kept.WellNamed ∧ kept.Agrees ty ∧
    kept.holes ≤ ty.holes

/-- A known type is settled once it was accepted. -/
theorem settles_next {knowledge : Knowledge} {observation : Observation}
    (proper : knowledge.IsProper) (known : observation.ty ≠ .unknown)
    (wellNamed : observation.ty.WellNamed) (accepts : knowledge.accepts observation = true) :
    (knowledge.next observation).Settles observation.ty := by
  rw [next_eq_ite]
  split
  case isTrue replaces =>
    exact ⟨observation.ty, rfl, known, wellNamed, Ty.agrees_refl wellNamed, Nat.le_refl _⟩
  case isFalse stays =>
    rw [replaces_iff, not_and, not_and] at stays
    have notFewer := stays accepts known
    simp only [not_forall, Nat.not_lt] at notFewer
    rcases notFewer with ⟨kept, holds, noMore⟩
    obtain ⟨keptKnown, keptNamed⟩ := proper kept holds
    exact ⟨kept, holds, keptKnown, keptNamed, accepts_iff.mp accepts kept holds, noMore⟩

/-- A firm type that is settled stays so when more is accepted. -/
theorem Settles.next {knowledge : Knowledge} {ty : Ty} {observation : Observation}
    (settles : knowledge.Settles ty) (firm : ty.holes = 0 ∨ ty.IsShallow) (tyNamed : ty.WellNamed)
    (wellNamed : observation.ty.WellNamed) (accepts : knowledge.accepts observation = true) :
    (knowledge.next observation).Settles ty := by
  rw [next_eq_ite]
  split
  case isFalse => exact settles
  case isTrue replaces =>
    rcases settles with ⟨kept, holds, known, keptNamed, agrees, noMore⟩
    obtain ⟨-, nextKnown, fewer⟩ := replaces_iff.mp replaces
    have resolves := Ty.resolves_of_firm known keptNamed noMore firm
    have agreesNext := resolves.agrees agrees (accepts_iff.mp accepts kept holds) keptNamed tyNamed
    exact ⟨observation.ty, rfl, nextKnown, wellNamed, agreesNext.symm tyNamed wellNamed,
      Nat.le_trans (Nat.le_of_lt (fewer kept holds)) noMore⟩

theorem Settles.after {knowledge : Knowledge} {ty : Ty} {observations : List Observation}
    (settles : knowledge.Settles ty) (firm : ty.holes = 0 ∨ ty.IsShallow) (tyNamed : ty.WellNamed)
    (wellNamed : ∀ observation ∈ observations, observation.ty.WellNamed)
    (accepts : knowledge.acceptsAll observations = true) :
    (knowledge.after observations).Settles ty := by
  induction observations generalizing knowledge with
  | nil => exact settles
  | cons observation rest ih =>
      rw [acceptsAll, Bool.and_eq_true] at accepts
      obtain ⟨first, named⟩ := List.forall_mem_cons.mp wellNamed
      exact ih (settles.next firm tyNamed first accepts.1) named accepts.2

/-- After a history that was accepted to its end, every known firm type in it is
settled. -/
theorem settles_of_firm {observations : List Observation} {observation : Observation}
    (wellNamed : ∀ observation ∈ observations, observation.ty.WellNamed)
    (accepts : acceptsAll {} observations = true) (member : observation ∈ observations)
    (firm : observation.ty.holes = 0 ∨ observation.ty.IsShallow)
    (known : observation.ty ≠ .unknown) : (after {} observations).Settles observation.ty := by
  obtain ⟨before, later, rfl⟩ := List.append_of_mem member
  rw [List.forall_mem_append, List.forall_mem_cons] at wellNamed
  rcases wellNamed with ⟨beforeNamed, hereNamed, laterNamed⟩
  rw [acceptsAll_append, acceptsAll, Bool.and_eq_true, Bool.and_eq_true] at accepts
  rcases accepts with ⟨-, accepts, acceptsLater⟩
  have proper : (after {} before).IsProper := by
    intro ty isKept
    refine ⟨ne_unknown_of_ty?_after ?_ isKept, ?_⟩
    · simp [ty?]
    exact kept_of_observed Ty.WellNamed beforeNamed isKept
  have settled := settles_next proper known hereNamed accepts
  rw [after_append]
  exact settled.after firm hereNamed laterNamed acceptsLater

/-- What is kept then agrees with every firm type in it. -/
theorem agrees_of_firm {observations : List Observation} {observation : Observation} {kept : Ty}
    (wellNamed : ∀ observation ∈ observations, observation.ty.WellNamed)
    (accepts : acceptsAll {} observations = true) (member : observation ∈ observations)
    (firm : observation.ty.holes = 0 ∨ observation.ty.IsShallow)
    (holds : (after {} observations).ty? = some kept) : observation.ty.Agrees kept := by
  by_cases known : observation.ty = .unknown
  · rw [known]
    exact Ty.unknown_agrees kept
  · obtain ⟨ty, isKept, -, tyNamed, agrees, -⟩ :=
      settles_of_firm wellNamed accepts member firm known
    cases isKept.symm.trans holds
    exact agrees.symm tyNamed (wellNamed observation member)

/-- A complete type in it equals what is kept. -/
theorem equiv_of_complete {observations : List Observation} {observation : Observation}
    (wellNamed : ∀ observation ∈ observations, observation.ty.WellNamed)
    (accepts : acceptsAll {} observations = true) (member : observation ∈ observations)
    (complete : observation.ty.holes = 0) :
    ∃ kept, (after {} observations).ty? = some kept ∧ observation.ty.Equiv kept := by
  have hereNamed := wellNamed observation member
  obtain ⟨kept, isKept, -, keptNamed, agrees, noMore⟩ := settles_of_firm wellNamed accepts member
    (.inl complete) (Ty.ne_unknown_of_complete complete)
  have keptComplete : kept.holes = 0 := Nat.le_zero.mp (complete ▸ noMore)
  have equal := (Ty.agrees_iff_equiv keptNamed hereNamed keptComplete complete).mp agrees
  exact ⟨kept, isKept, equal.symm keptNamed hereNamed⟩

/-- If whatever was observed is observed again, and only complete types besides, then
what was kept equals what is kept now. -/
theorem exists_equiv_of_observed_again {earlier later : List Observation} {ty : Ty}
    (wellNamed : ∀ observation ∈ later, observation.ty.WellNamed)
    (complete : ∀ observation ∈ later, observation.ty ≠ .unknown → observation.ty.holes = 0)
    (accepts : acceptsAll {} later = true)
    (again : ∀ observation ∈ earlier, observation ∈ later)
    (holds : (after {} earlier).ty? = some ty) :
    ∃ kept, (after {} later).ty? = some kept ∧ ty.Equiv kept := by
  have known := ne_unknown_of_ty?_after (by simp [ty?]) holds
  obtain ⟨observation, inside, rfl⟩ := exists_observed_of_ty? holds
  have member := again observation inside
  exact equiv_of_complete wellNamed accepts member (complete observation member known)

/-- The first observation is accepted. -/
theorem accepts_of_first (observation : Observation) :
    ({} : Knowledge).accepts observation = true :=
  accepts_iff.mpr (by simp [ty?])

/-- It is kept if it is known. -/
theorem next_of_first {observation : Observation} (known : observation.ty ≠ .unknown) :
    ({} : Knowledge).next observation = ⟨some observation⟩ := by
  rw [next_eq_ite, if_pos]
  exact replaces_iff.mpr ⟨accepts_of_first observation, known, by simp [ty?]⟩

/-- If there are no more than two observations, all of them agree: the second is
checked against the first. -/
theorem agrees_of_length_le_two {observations : List Observation}
    (atMostTwo : observations.length ≤ 2)
    (wellNamed : ∀ observation ∈ observations, observation.ty.WellNamed)
    (accepts : acceptsAll {} observations = true) :
    ∀ first ∈ observations, ∀ second ∈ observations, first.ty.Agrees second.ty := by
  match observations with
  | [] => simp
  | [only] =>
      have onlyNamed := wellNamed only List.mem_cons_self
      simp only [List.forall_mem_singleton]
      exact Ty.agrees_refl onlyNamed
  | [first, second] =>
      simp only [List.forall_mem_cons, List.not_mem_nil, false_implies, implies_true, and_true]
        at wellNamed ⊢
      rcases wellNamed with ⟨firstNamed, secondNamed⟩
      have agrees : first.ty.Agrees second.ty := by
        by_cases known : first.ty = .unknown
        · rw [known]
          exact Ty.unknown_agrees _
        · simp only [acceptsAll, next_of_first known, Bool.and_eq_true] at accepts
          exact accepts_iff.mp accepts.2.1 first.ty rfl
      exact ⟨⟨Ty.agrees_refl firstNamed, agrees⟩, agrees.symm firstNamed secondNamed,
        Ty.agrees_refl secondNamed⟩

/-- How a type is lost that was accepted in between: the type kept before it has no
more holes and stays, and the next one only has to agree with that. -/
theorem after_displaced (before between final : Observation) (known : before.ty ≠ .unknown)
    (agreesBetween : before.ty.Agrees between.ty) (noMore : before.ty.holes ≤ between.ty.holes)
    (finalKnown : final.ty ≠ .unknown) (agreesFinal : before.ty.Agrees final.ty)
    (fewer : final.ty.holes < before.ty.holes) :
    acceptsAll {} [before, between, final] = true ∧
      (after {} [before, between, final]).ty? = some final.ty := by
  have kept (ty : Ty) (holds : (⟨some before⟩ : Knowledge).ty? = some ty) : ty = before.ty :=
    (Option.some.inj holds).symm
  have acceptsBetween : (⟨some before⟩ : Knowledge).accepts between = true :=
    accepts_iff.mpr fun ty holds => kept ty holds ▸ agreesBetween
  have acceptsFinal : (⟨some before⟩ : Knowledge).accepts final = true :=
    accepts_iff.mpr fun ty holds => kept ty holds ▸ agreesFinal
  have stays : (⟨some before⟩ : Knowledge).next between = ⟨some before⟩ := by
    rw [next_eq_ite, if_neg]
    intro replaces
    have fewerBetween := (replaces_iff.mp replaces).2.2 before.ty rfl
    omega
  have replaced : (⟨some before⟩ : Knowledge).next final = ⟨some final⟩ := by
    rw [next_eq_ite, if_pos]
    exact replaces_iff.mpr ⟨acceptsFinal, finalKnown, fun ty holds => kept ty holds ▸ fewer⟩
  apply And.intro
  · simp only [acceptsAll, next_of_first known, stays, accepts_of_first, acceptsBetween,
      acceptsFinal, Bool.and_self]
  · simp only [after, List.foldl_cons, List.foldl_nil, next_of_first known, stays, replaced, ty?,
      Option.map_some]

end Polyflow.Knowledge
