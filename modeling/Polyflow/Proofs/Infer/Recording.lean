/-
# What a solution retains

The first type that is inserted for an expression is stored. Later ones are compared with
it and go no further, so one type decides about all insertions for its expression, those
before the present one and those to come. That type may be unknown. An unknown type agrees
with every other, and then insertions succeed of which nothing is left. This module
follows a solution through any sequence of insertions and says exactly when that happens.
-/

import Polyflow.Infer.Solution
import Polyflow.Proofs.Ty.Agreement

namespace Polyflow.Solution

/-- A type that is to be inserted for an expression. -/
structure Insertion where
  expr : Expr
  ty : Ty

variable {solution : Solution} {insertion : Insertion} {insertions : List Insertion}
  {expr other : Expr} {kept : Ty}

/-- Whether an insertion succeeds. -/
def accepts (solution : Solution) (insertion : Insertion) : Bool :=
  (solution.insert insertion.expr insertion.ty).isOk

/-- The solution after an insertion. One that fails changes nothing. -/
def next (solution : Solution) (insertion : Insertion) : Solution :=
  match solution.insert insertion.expr insertion.ty with
  | .ok after => after
  | .error _ => solution

/-- Where nothing is stored, the inserted type is. -/
theorem insert_of_new (new : solution.get? expr = none) (ty : Ty) :
    solution.insert expr ty = .ok ⟨solution.types.insert expr.id ty⟩ := by
  rw [insert, new]

/-- A stored type is compared with the inserted one and stays. -/
theorem insert_of_stored (stored : solution.get? expr = some kept) (ty : Ty) :
    solution.insert expr ty =
      if kept.Agrees ty then .ok solution else .error ⟨kept, ty⟩ := by
  rw [insert, stored]
  by_cases agrees : kept.Agrees ty
  · simp only [Ty.confirm, if_pos agrees]
    rfl
  · simp only [Ty.confirm, if_neg agrees]
    rfl

theorem accepts_iff :
    solution.accepts insertion = true ↔
      ∀ kept, solution.get? insertion.expr = some kept → kept.Agrees insertion.ty := by
  rw [accepts]
  cases stored : solution.get? insertion.expr with
  | none => simp [insert_of_new stored, Except.isOk, Except.toBool]
  | some kept =>
      rw [insert_of_stored stored]
      by_cases agrees : kept.Agrees insertion.ty
      · simp [agrees, Except.isOk, Except.toBool]
      · simp [agrees, Except.isOk, Except.toBool]

theorem next_of_stored (stored : solution.get? insertion.expr = some kept) :
    solution.next insertion = solution := by
  rw [next, insert_of_stored stored]
  by_cases agrees : kept.Agrees insertion.ty
  · rw [if_pos agrees]
  · rw [if_neg agrees]

/-- What is stored for an expression is also stored for itself under another handle. -/
theorem get?_of_same (same : expr.same other = true) : solution.get? expr = solution.get? other := by
  rw [get?, get?, of_decide_eq_true same]

/-- What is stored for an expression stays; what is not stored yet comes from the
insertion, if it is for that expression. -/
theorem get?_next (solution : Solution) (insertion : Insertion) (expr : Expr) :
    (solution.next insertion).get? expr =
      (solution.get? expr).or (if insertion.expr.same expr then some insertion.ty else none) := by
  by_cases same : insertion.expr.same expr = true
  · rw [if_pos same, ← get?_of_same same, ← get?_of_same same]
    cases stored : solution.get? insertion.expr with
    | none => simp [next, insert_of_new stored, get?]
    | some kept => rw [next_of_stored stored, stored, Option.some_or]
  · rw [if_neg same, Option.or_none]
    cases stored : solution.get? insertion.expr with
    | none =>
        have differs : insertion.expr.id ≠ expr.id := by simpa [Expr.same] using same
        simp [next, insert_of_new stored, get?, Std.TreeMap.getElem?_insert, differs]
    | some kept => rw [next_of_stored stored]

/-- The solution after a sequence of insertions. -/
def after (solution : Solution) (insertions : List Insertion) : Solution :=
  insertions.foldl next solution

/-- Those of a sequence of insertions that succeed when their turn comes. -/
def accepted (solution : Solution) : List Insertion → List Insertion
  | [] => []
  | insertion :: rest =>
    if solution.accepts insertion then insertion :: (solution.next insertion).accepted rest
    else (solution.next insertion).accepted rest

/-- The first type that is to be inserted for an expression. -/
def firstTy? (insertions : List Insertion) (expr : Expr) : Option Ty :=
  (insertions.find? (·.expr.same expr)).map (·.ty)

/-- What is stored for an expression is the first type that was inserted for it, unless
something was stored from the start. -/
theorem get?_after (solution : Solution) (insertions : List Insertion) (expr : Expr) :
    (solution.after insertions).get? expr =
      (solution.get? expr).or (firstTy? insertions expr) := by
  induction insertions generalizing solution with
  | nil => simp [after, firstTy?]
  | cons insertion rest ih =>
      have later := ih (solution.next insertion)
      rw [after, List.foldl_cons, ← after, later, get?_next, Option.or_assoc]
      congr 1
      by_cases same : insertion.expr.same expr = true
      · simp [firstTy?, same]
      · simp [firstTy?, same]

/-- An insertion succeeds exactly if what is stored in the end agrees with it: that is what
is stored when its turn comes, or it is the inserted type itself. -/
theorem accepts_iff_after (wellNamed : insertion.ty.WellNamed) (rest : List Insertion) :
    solution.accepts insertion = true ↔
      ∀ kept, ((solution.next insertion).after rest).get? insertion.expr = some kept →
        kept.Agrees insertion.ty := by
  have same : insertion.expr.same insertion.expr = true := by simp [Expr.same]
  rw [accepts_iff, get?_after, get?_next, if_pos same]
  cases solution.get? insertion.expr with
  | none => simp [Ty.agrees_refl wellNamed]
  | some kept => simp

/-- So one type decides about all insertions for an expression. -/
theorem mem_accepted_iff (wellNamed : ∀ insertion ∈ insertions, insertion.ty.WellNamed) :
    insertion ∈ solution.accepted insertions ↔
      insertion ∈ insertions ∧
        ∀ kept, (solution.after insertions).get? insertion.expr = some kept →
          kept.Agrees insertion.ty := by
  induction insertions generalizing solution with
  | nil => simp [accepted]
  | cons first rest ih =>
      obtain ⟨firstNamed, restNamed⟩ := List.forall_mem_cons.mp wellNamed
      have ends : solution.after (first :: rest) = (solution.next first).after rest := rfl
      rw [ends, accepted, List.mem_cons, or_and_right, ← ih restNamed]
      by_cases accepts : solution.accepts first = true
      · rw [if_pos accepts, List.mem_cons]
        refine or_congr_left (iff_self_and.mpr ?_)
        rintro rfl
        exact (accepts_iff_after firstNamed rest).mp accepts
      · rw [if_neg accepts, iff_or_self]
        rintro ⟨rfl, agrees⟩
        exact absurd ((accepts_iff_after firstNamed rest).mpr agrees) accepts

/-- At every moment the solution holds a known type for an expression that agrees with all
known types inserted for it with success until then, if there are any. -/
def Retains (insertions : List Insertion) (expr : Expr) : Prop :=
  ∀ seen, seen <+: insertions → ∀ insertion ∈ accepted {} seen,
    insertion.expr.same expr → insertion.ty ≠ .unknown →
      ∃ kept, (after {} seen).get? expr = some kept ∧ kept ≠ .unknown ∧
        kept.Agrees insertion.ty

theorem get?_after_empty (insertions : List Insertion) (expr : Expr) :
    (after {} insertions).get? expr = firstTy? insertions expr := by
  have empty : ({} : Solution).get? expr = none := by simp [get?]
  rw [get?_after, empty, Option.none_or]

theorem isSome_firstTy? (member : insertion ∈ insertions)
    (same : insertion.expr.same expr = true) : (firstTy? insertions expr).isSome := by
  rw [firstTy?, Option.isSome_map]
  exact List.find?_isSome.mpr ⟨insertion, member, same⟩

/-- The first type for an expression is the same at every later moment. -/
theorem firstTy?_of_prefix {seen : List Insertion} (isPrefix : seen <+: insertions)
    (member : insertion ∈ seen) (same : insertion.expr.same expr = true) :
    firstTy? seen expr = firstTy? insertions expr := by
  obtain ⟨rest, rfl⟩ := isPrefix
  have found := isSome_firstTy? member same
  rw [firstTy?] at found
  rw [firstTy?, firstTy?, List.find?_append, Option.map_or, Option.or_of_isSome found]

/-- A solution retains what was inserted for an expression with success exactly if it did
not begin with an unknown type, or has been told nothing more. -/
theorem retains_iff (wellNamed : ∀ insertion ∈ insertions, insertion.ty.WellNamed)
    (expr : Expr) :
    Retains insertions expr ↔
      (firstTy? insertions expr = some .unknown →
        ∀ insertion ∈ insertions, insertion.expr.same expr → insertion.ty = .unknown) := by
  constructor
  · intro retains isOpen insertion member same
    by_contra known
    have stored : (after {} insertions).get? insertion.expr = some .unknown := by
      rw [get?_of_same same, get?_after_empty, isOpen]
    have succeeds : insertion ∈ accepted {} insertions := by
      rw [mem_accepted_iff wellNamed, stored]
      simp [member]
    obtain ⟨kept, holds, keptKnown, -⟩ :=
      retains insertions (List.prefix_refl insertions) insertion succeeds same known
    rw [← get?_of_same same, stored] at holds
    exact keptKnown (Option.some.inj holds).symm
  · intro notLost seen isPrefix insertion succeeds same known
    have seenNamed : ∀ insertion ∈ seen, insertion.ty.WellNamed :=
      fun insertion member => wellNamed insertion (isPrefix.subset member)
    obtain ⟨member, agrees⟩ := (mem_accepted_iff seenNamed).mp succeeds
    have begins : firstTy? seen expr = firstTy? insertions expr :=
      firstTy?_of_prefix isPrefix member same
    rw [get?_of_same same, get?_after_empty] at agrees
    rw [get?_after_empty]
    obtain ⟨kept, holds⟩ := Option.isSome_iff_exists.mp (isSome_firstTy? member same)
    refine ⟨kept, holds, ?_, agrees kept holds⟩
    rintro rfl
    exact known (notLost (begins.symm.trans holds) insertion (isPrefix.subset member) same)

/-- A type to be inserted for one and the same unknown. -/
private def ofUnknown (ty : Ty) : Insertion :=
  ⟨.placeholder 0, ty⟩

/-- A record known in part is retained: what fills its gap succeeds, and what contradicts it
is refused. -/
theorem retains_half_known :
    let insertions := [ofUnknown (.record [("a", .unknown), ("b", .prim .int)]),
      ofUnknown (.record [("b", .prim .int), ("a", .text)]), ofUnknown .text]
    (∀ insertion ∈ insertions, insertion.ty.WellNamed) ∧
      Retains insertions (.placeholder 0) := by
  intro insertions
  have wellNamed : ∀ insertion ∈ insertions, insertion.ty.WellNamed := by decide
  refine ⟨wellNamed, (retains_iff wellNamed (.placeholder 0)).mpr fun isOpen => ?_⟩
  cases isOpen

/-- Not everything that was inserted with success is retained: once an unknown type was
inserted, `int` is accepted, and the solution still holds the unknown type. -/
theorem not_forall_retains :
    ¬ ∀ insertions : List Insertion,
      (∀ insertion ∈ insertions, insertion.ty.WellNamed) →
        ∀ expr, Retains insertions expr := by
  intro retains
  let insertions := [ofUnknown .unknown, ofUnknown (.prim .int)]
  have succeeds : ofUnknown (.prim .int) ∈ accepted {} insertions := .tail _ (.head _)
  obtain ⟨kept, holds, known, -⟩ := retains insertions (by decide) (.placeholder 0) insertions
    (List.prefix_refl insertions) _ succeeds rfl (by simp [ofUnknown])
  rw [get?_after_empty] at holds
  exact known (Option.some.inj holds).symm

end Polyflow.Solution
