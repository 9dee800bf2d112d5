/-
# Laws of agreement

Two well-named types agree when one of them is unknown, or when they have the
same head and their children agree step by step. From this one description
follow the laws that inference relies on: agreement is reflexive and symmetric,
and although it is not transitive, two types that agree with the same complete
type agree with each other.
-/

import Polyflow.Proofs.Ty.Structure
import Polyflow.Ty.Agreement

namespace Polyflow.Ty

@[simp]
theorem unknown_agrees (ty : Ty) : Ty.unknown.Agrees ty := by
  cases ty <;> rfl

@[simp]
theorem agrees_unknown (ty : Ty) : ty.Agrees .unknown := by
  cases ty <;> rfl

/-- No member is in conflict when each has a counterpart that it agrees with. -/
theorem memberConflict?_eq_none_iff {ours theirs : List (String × Ty)} :
    memberConflict? ours theirs = none ↔
      ∀ entry ∈ ours, ∃ ty, theirs.lookup entry.1 = some ty ∧ entry.2.Agrees ty := by
  induction ours with
  | nil => simp [memberConflict?]
  | cons entry rest ih =>
      rcases entry with ⟨name, ty⟩
      rw [List.forall_mem_cons, ← ih, memberConflict?]
      cases found : theirs.lookup name with
      | none => simp
      | some theirTy =>
          cases conflict : ty.conflict? theirTy with
          | none => simp [Agrees, conflict]
          | some mismatch => simp [Agrees, conflict]

/-- No argument is in conflict when arguments agree position by position. -/
theorem argConflict?_eq_none_iff (index : Nat) {ours theirs : List (String × Ty)}
    (length : ours.length = theirs.length) :
    argConflict? index ours theirs = none ↔ Aligned Agrees ours theirs := by
  induction ours generalizing theirs index with
  | nil =>
      cases theirs with
      | nil => simp [argConflict?, aligned_nil]
      | cons entry rest => cases length
  | cons entry rest ih =>
      cases theirs with
      | nil => cases length
      | cons entry' rest' =>
          rw [aligned_cons, ← ih (index + 1) (Nat.succ.inj length), argConflict?]
          cases conflict : entry.2.conflict? entry'.2 with
          | none => simp [Agrees, conflict]
          | some mismatch => simp [Agrees, conflict]

/-- Records agree when their members match under agreement. -/
theorem record_agrees_record {ours theirs : List (String × Ty)}
    (distinct : (ours.map Prod.fst).Nodup) :
    (Ty.record ours).Agrees (.record theirs) ↔ Matched Agrees ours theirs := by
  rw [matched_iff_forall_mem distinct, ← memberConflict?_eq_none_iff, Agrees, conflict?]
  cases extra : theirs.find? fun entry => (ours.lookup entry.1).isNone with
  | some entry =>
      have member := List.mem_of_find?_eq_some extra
      have absent := List.find?_some extra
      apply Iff.intro (by simp)
      intro both
      have present := both.1 entry member
      rw [Option.isNone_iff_eq_none.mp absent] at present
      cases present
  | none =>
      have covered : ∀ entry ∈ theirs, (ours.lookup entry.1).isSome := fun entry member => by
        simpa [Option.isSome_iff_ne_none] using List.find?_eq_none.mp extra entry member
      cases conflict : memberConflict? ours theirs with
      | none => exact ⟨fun _ => ⟨covered, rfl⟩, fun _ => rfl⟩
      | some found => cases found <;> simp

/-- Functions agree when their arguments do, position by position, and their
returns do. -/
theorem func_agrees_func {ours theirs : List (String × Ty)} {ret theirRet : Ty} :
    (Ty.func ours ret).Agrees (.func theirs theirRet) ↔
      Aligned Agrees ours theirs ∧ ret.Agrees theirRet := by
  rw [Agrees, conflict?]
  by_cases length : ours.length = theirs.length
  · rw [if_pos length, ← argConflict?_eq_none_iff 0 length]
    cases argConflict? 0 ours theirs with
    | none => simp [Agrees]
    | some mismatch => simp
  · rw [if_neg length]
    exact ⟨by simp, fun both => absurd both.1.length_eq length⟩

/-- Members match when they are related under every step. -/
theorem matched_iff_child? {related : Ty → Ty → Prop} {ours theirs : List (String × Ty)} :
    Matched related ours theirs ↔
      ∀ step, Option.Rel related ((Ty.record ours).child? step)
        ((Ty.record theirs).child? step) := by
  constructor
  · intro matched step
    cases step with
    | member name => exact matched name
    | arg index => exact .none
    | ret => exact .none
  · intro rel name
    exact rel (.member name)

/-- Arguments are aligned and returns related when the parts of the functions
are related under every step. -/
theorem aligned_iff_child? {related : Ty → Ty → Prop} {ours theirs : List (String × Ty)}
    {ret theirRet : Ty} :
    (Aligned related ours theirs ∧ related ret theirRet) ↔
      ∀ step, Option.Rel related ((Ty.func ours ret).child? step)
        ((Ty.func theirs theirRet).child? step) := by
  constructor
  · intro both step
    rcases both with ⟨aligned, rets⟩
    cases step with
    | member name => exact .none
    | arg index => exact aligned index
    | ret => exact .some rets
  · intro rel
    refine ⟨fun index => rel (.arg index), ?_⟩
    have rets := rel .ret
    cases rets with
    | some holds => exact holds

/-- Types agree when one is unknown, or when they have the same head and agree
at every child. -/
theorem agrees_iff {left right : Ty} (wellNamed : left.WellNamed) :
    left.Agrees right ↔
      left = .unknown ∨ right = .unknown ∨
        (left.head = right.head ∧
          ∀ step, Option.Rel Agrees (left.child? step) (right.child? step)) := by
  cases left with
  | unknown => simp
  | prim kind =>
      cases right with
      | prim kind' => simp [Agrees, conflict?, head]
      | unknown => simp
      | _ => simp [Agrees, conflict?, head]
  | record ours =>
      cases right with
      | record theirs =>
          rw [record_agrees_record (wellNamed_record.mp wellNamed).1, matched_iff_child?]
          simp [head]
      | unknown => simp
      | _ => simp [Agrees, conflict?, head]
  | func ours ret =>
      cases right with
      | func theirs theirRet =>
          rw [func_agrees_func, aligned_iff_child?]
          simp [head]
      | unknown => simp
      | _ => simp [Agrees, conflict?, head]

/-- Types with the same head agree if they agree at every child. -/
theorem agrees_of_children {left right : Ty} (wellNamed : left.WellNamed)
    (heads : left.head = right.head)
    (children : ∀ step, Option.Rel Agrees (left.child? step) (right.child? step)) :
    left.Agrees right := by
  rw [agrees_iff wellNamed]
  exact .inr (.inr ⟨heads, children⟩)

/-- Two known types that agree do so at every child. -/
theorem Agrees.children {left right : Ty} (agrees : left.Agrees right) (wellNamed : left.WellNamed)
    (known : left ≠ .unknown) (known' : right ≠ .unknown) (step : Step) :
    Option.Rel Agrees (left.child? step) (right.child? step) :=
  (((agrees_iff wellNamed).mp agrees).resolve_left known).resolve_left known' |>.2 step

/-- A type agrees with itself. -/
theorem agrees_refl {ty : Ty} (wellNamed : ty.WellNamed) : ty.Agrees ty := by
  induction ty using inductionOnChildren with
  | parent ty ih =>
      apply agrees_of_children wellNamed rfl
      intro step
      cases found : ty.child? step with
      | none => exact .none
      | some child => exact .some (ih step child found (wellNamed.child found))

/-- The verdict does not depend on the order of the two types. -/
theorem Agrees.symm {left right : Ty} (agrees : left.Agrees right)
    (wellNamed : left.WellNamed) (wellNamed' : right.WellNamed) : right.Agrees left := by
  induction left using inductionOnChildren generalizing right with
  | parent left ih =>
      rcases (agrees_iff wellNamed).mp agrees with rfl | rfl | ⟨heads, children⟩
      · exact agrees_unknown _
      · exact unknown_agrees _
      · apply agrees_of_children wellNamed' heads.symm
        intro step
        apply rel_swap (children step)
        intro ours theirs found found' agrees
        exact ih step ours found agrees (wellNamed.child found) (wellNamed'.child found')

/-- Two types that agree with the same complete type agree with each other: what
both know is what the complete type has there. -/
theorem agrees_of_common {left right whole : Ty} (wellNamed : left.WellNamed)
    (wellNamed' : right.WellNamed) (wholeNamed : whole.WellNamed) (complete : whole.holes = 0)
    (ofLeft : left.Agrees whole) (ofRight : right.Agrees whole) : left.Agrees right := by
  induction whole using inductionOnChildren generalizing left right with
  | parent whole ih =>
      obtain ⟨known, completeChildren⟩ := (holes_eq_zero_iff wholeNamed).mp complete
      rcases (agrees_iff wellNamed).mp ofLeft with rfl | unknown | ⟨heads, children⟩
      · exact unknown_agrees _
      · exact absurd unknown known
      rcases (agrees_iff wellNamed').mp ofRight with rfl | unknown | ⟨heads', children'⟩
      · exact agrees_unknown _
      · exact absurd unknown known
      apply agrees_of_children wellNamed (heads.trans heads'.symm)
      intro step
      have fromRight : Option.Rel (fun part theirs => Agrees theirs part)
          (whole.child? step) (right.child? step) :=
        rel_swap (children' step) fun _ _ _ _ => id
      apply rel_compose (children step) fromRight
      intro ours part theirs found foundPart found' agrees agrees'
      exact ih step part foundPart (wellNamed.child found) (wellNamed'.child found')
        (wholeNamed.child foundPart) (completeChildren step part foundPart) agrees agrees'

end Polyflow.Ty
