/-
# What knowledge keeps of a history

Out of all observations that were accepted, knowledge keeps the one with the fewest holes,
and of several such the earliest, with the origin that it came from. This holds whatever
was refused in between, because a refused observation leaves no trace. What a further
observation is answered depends on the kept one alone: it is refused if it contradicts that
one, and it is news exactly if it takes its place.
-/

import Polyflow.Proofs.Infer.History
import Mathlib.Data.List.MinMax

namespace Polyflow.Knowledge

variable {knowledge : Knowledge} {observation : Observation} {seen : List Observation}

/-- What is refused, and with which report. -/
theorem observe_eq_error_iff {error : Inconsistency} :
    knowledge.observe observation = .error error ↔
      observation.ty ≠ .unknown ∧ ∃ kept cause, knowledge.kept = some kept ∧
        kept.ty.conflict? observation.ty = some cause ∧
          error = ⟨observation.origin, kept.origin, cause⟩ := by
  rcases knowledge with ⟨kept⟩
  by_cases known : observation.ty = .unknown
  · simp [observe, known, Ty.isKnown]
  · rw [observe, if_pos (Ty.isKnown_iff.mpr known)]
    cases kept with
    | none => simp
    | some kept =>
        cases conflict : kept.ty.conflict? observation.ty with
        | none => by_cases fewer : observation.ty.holes < kept.ty.holes <;> simp [fewer, conflict]
        | some cause => simp [known, conflict, eq_comm]

/-- What is accepted is answered with whether it takes the place of what was kept. -/
theorem observe_of_accepts (accepts : knowledge.accepts observation = true) :
    knowledge.observe observation =
      .ok (knowledge.next observation, knowledge.replaces observation) := by
  have agrees := accepts_iff.mp accepts
  rw [next_eq_ite, replaces, accepts, Bool.true_and]
  by_cases known : observation.ty.isKnown = true
  · rcases knowledge with ⟨_ | kept⟩
    · simp [observe, known, ty?]
    · have noConflict : kept.ty.conflict? observation.ty = none := agrees kept.ty rfl
      by_cases fewer : observation.ty.holes < kept.ty.holes
      · simp [observe, known, ty?, noConflict, fewer]
      · simp [observe, known, ty?, noConflict, fewer]
  · simp [observe, known]

theorem observe_eq_ok_iff {later : Knowledge} {news : Bool} :
    knowledge.observe observation = .ok (later, news) ↔
      knowledge.accepts observation = true ∧ knowledge.next observation = later ∧
        knowledge.replaces observation = news := by
  constructor
  · intro answer
    have accepts : knowledge.accepts observation = true := by
      rw [Knowledge.accepts, answer]
      rfl
    rw [observe_of_accepts accepts] at answer
    cases answer
    exact ⟨accepts, rfl, rfl⟩
  · rintro ⟨accepts, rfl, rfl⟩
    exact observe_of_accepts accepts

theorem observe_eq_news_iff :
    (∃ later, knowledge.observe observation = .ok (later, true)) ↔
      knowledge.replaces observation = true := by
  constructor
  · rintro ⟨later, answer⟩
    exact (observe_eq_ok_iff.mp answer).2.2
  · intro replaces
    have accepts := (replaces_iff.mp replaces).1
    exact ⟨_, observe_eq_ok_iff.mpr ⟨accepts, rfl, replaces⟩⟩

/-- Whatever takes the place of the kept observation differs from it: it has fewer holes. -/
theorem replaces_iff_kept_ne :
    knowledge.replaces observation = true ↔
      (knowledge.next observation).kept ≠ knowledge.kept := by
  rw [next_eq_ite]
  by_cases replaces : knowledge.replaces observation = true
  · rw [if_pos replaces, iff_true_left replaces]
    intro same
    have fewer := (replaces_iff.mp replaces).2.2 observation.ty (by simp [ty?, ← same])
    exact Nat.lt_irrefl _ fewer
  · simp [replaces]

/-- The number of holes of what is kept never grows. -/
theorem holes_next_le {kept : Ty} (holds : knowledge.ty? = some kept)
    (observation : Observation) :
    ∃ later, (knowledge.next observation).ty? = some later ∧ later.holes ≤ kept.holes := by
  rw [next_eq_ite]
  split
  case isTrue replaces =>
    exact ⟨observation.ty, rfl, Nat.le_of_lt ((replaces_iff.mp replaces).2.2 kept holds)⟩
  case isFalse => exact ⟨kept, holds, Nat.le_refl _⟩

theorem holes_after_le {kept : Ty} (holds : knowledge.ty? = some kept)
    (observations : List Observation) :
    ∃ later, (knowledge.after observations).ty? = some later ∧ later.holes ≤ kept.holes := by
  induction observations generalizing knowledge kept with
  | nil => exact ⟨kept, holds, Nat.le_refl _⟩
  | cons observation rest ih =>
      obtain ⟨next, isNext, noMore⟩ := holes_next_le holds observation
      obtain ⟨later, isLater, noMore'⟩ := ih isNext
      exact ⟨later, isLater, Nat.le_trans noMore' noMore⟩

/-- The known observations among those that are accepted. -/
def informative (seen : List Observation) : List Observation :=
  (accepted {} seen).filter (·.ty.isKnown)

theorem informative_concat (seen : List Observation) (observation : Observation) :
    informative (seen ++ [observation]) =
      informative seen ++
        if (after {} seen).accepts observation && observation.ty.isKnown then [observation]
        else [] := by
  rw [informative, accepted_append, List.filter_append, ← informative]
  cases accepts : (after {} seen).accepts observation <;>
    simp [accepted, accepts, List.filter_cons]

/-- What is kept is the first of the informative observations with the fewest holes. -/
theorem kept_after_eq_argmin (seen : List Observation) :
    (after {} seen).kept = (informative seen).argmin (·.ty.holes) := by
  induction seen using List.reverseRecOn with
  | nil => rfl
  | append_singleton seen observation ih =>
      have last : (after {} (seen ++ [observation])).kept =
          ((after {} seen).next observation).kept := by
        rw [after_append]
        rfl
      rw [last, next_eq_ite, informative_concat]
      by_cases counts : ((after {} seen).accepts observation && observation.ty.isKnown) = true
      · rw [if_pos counts, List.argmin_concat, ← ih, replaces, counts, Bool.true_and, ty?]
        cases holds : (after {} seen).kept with
        | none => rfl
        | some kept =>
            by_cases fewer : observation.ty.holes < kept.ty.holes
            · simp [fewer]
            · simp [fewer, holds]
      · rw [if_neg counts, List.append_nil, ← ih, replaces]
        simp [counts]

/-- Nothing is kept after an observation exactly if nothing was before and the observed type
is unknown. -/
theorem kept_next_eq_none_iff :
    (knowledge.next observation).kept = none ↔
      knowledge.kept = none ∧ observation.ty = .unknown := by
  constructor
  · intro nothing
    have before : knowledge.kept = none := by
      by_contra something
      have later := isSome_kept_next (Option.isSome_iff_ne_none.mpr something) observation
      simp [nothing] at later
    refine ⟨before, ?_⟩
    by_contra known
    have accepts : knowledge.accepts observation = true := accepts_iff.mpr (by simp [ty?, before])
    have replaces : knowledge.replaces observation = true :=
      replaces_iff.mpr ⟨accepts, known, by simp [ty?, before]⟩
    rw [next_eq_ite, if_pos replaces] at nothing
    cases nothing
  · rintro ⟨before, unknown⟩
    rw [next_eq_ite, if_neg, before]
    intro replaces
    exact (replaces_iff.mp replaces).2.1 unknown

theorem kept_after_eq_none_iff :
    (knowledge.after seen).kept = none ↔
      knowledge.kept = none ∧ ∀ observation ∈ seen, observation.ty = .unknown := by
  induction seen generalizing knowledge with
  | nil => simp [after]
  | cons observation rest ih =>
      have later : knowledge.after (observation :: rest) = (knowledge.next observation).after rest :=
        rfl
      rw [later, ih, kept_next_eq_none_iff, List.forall_mem_cons, and_assoc]

/-- What knowledge keeps of a history, and how it answers to one more observation. -/
structure Condenses (seen : List Observation) : Prop where
  /-- Of the accepted observations the earliest with the fewest holes is kept. -/
  kept : (after {} seen).kept = (informative seen).argmin (·.ty.holes)
  /-- Nothing is kept only if there was nothing to learn. -/
  nothing : (after {} seen).kept = none ↔ ∀ observation ∈ seen, observation.ty = .unknown
  /-- The number of holes never grows. -/
  narrows : ∀ kept, (after {} seen).ty? = some kept → ∀ more, ∃ later,
    (after {} (seen ++ more)).ty? = some later ∧ later.holes ≤ kept.holes
  /-- News is what changes the kept observation. -/
  news : ∀ observation, (∃ later, (after {} seen).observe observation = .ok (later, true)) ↔
    (after {} (seen ++ [observation])).kept ≠ (after {} seen).kept
  /-- A known type is refused if the kept one contradicts it, with both origins and the place
  where the two differ. -/
  refuses : ∀ observation error, (after {} seen).observe observation = .error error ↔
    observation.ty ≠ .unknown ∧ ∃ kept cause, (after {} seen).kept = some kept ∧
      kept.ty.conflict? observation.ty = some cause ∧
        error = ⟨observation.origin, kept.origin, cause⟩
  /-- A refusal changes nothing. -/
  unchanged : ∀ observation error, (after {} seen).observe observation = .error error →
    after {} (seen ++ [observation]) = after {} seen

theorem condenses (seen : List Observation) : Condenses seen := by
  have one (observation : Observation) :
      after {} (seen ++ [observation]) = (after {} seen).next observation := after_append _ _ _
  refine ⟨kept_after_eq_argmin seen, ?_, ?_, ?_, ?_, ?_⟩
  · simp [kept_after_eq_none_iff]
  · intro kept holds more
    rw [after_append]
    exact holes_after_le holds more
  · intro observation
    rw [one, ← replaces_iff_kept_ne]
    exact observe_eq_news_iff
  · intro observation error
    exact observe_eq_error_iff
  · intro observation error refused
    rw [one, next, refused]

/-- A gap is filled by a later source, whose origin is kept with it; a source that tells less
does not undo this, and a contradiction is passed over. -/
example :
    (after {} [⟨.record [("a", .unknown)], "declared"⟩, ⟨.record [("a", .text)], "solved"⟩,
      ⟨.record [("a", .unknown)], "declared again"⟩, ⟨.text, "other"⟩]).origin? =
        some "solved" := rfl

end Polyflow.Knowledge
