/-
# Building does not depend on how a type is told

The checks of building look at a type only up to equality: at what is known of its parts
and at whether two parts agree. So equal types are built alike, member order and argument
names aside, or they fail alike. What is built need not equal the given type, as argument
names are replaced and the fallback takes the type of the result, which may know more or
less. But it is a fixed point: built again, it stays as it is.
-/

import Polyflow.Proofs.Lookup.Admission
import Polyflow.Proofs.Ty.Interchange

namespace Polyflow.Lookup

/-- Failures of the same kind, at the same argument. The types that they report are equal;
where two types do not agree, only that they do not. -/
def BuildError.Alike : BuildError → BuildError → Prop
  | .notFunc found, .notFunc found' => found.Equiv found'
  | .arity found, .arity found' => found = found'
  | .missingReturn, .missingReturn => True
  | .missingArg arg, .missingArg arg' => arg = arg'
  | .selectorNotText _, .selectorNotText _ => True
  | .fallbackMismatch _, .fallbackMismatch _ => True
  | .invalidSignature _, .invalidSignature _ => True
  | .unspecified, .unspecified => True
  | .notStruct found, .notStruct found' => found.Equiv found'
  | _, _ => False

namespace Signature

/-- Equal signatures, or failures that are alike. -/
def SameOutcome : Except BuildError Signature → Except BuildError Signature → Prop
  | .ok ours, .ok theirs => ours.container.Equiv theirs.container ∧ ours.out.Equiv theirs.out
  | .error error, .error error' => error.Alike error'
  | _, _ => False

variable {ours theirs : Except BuildError Signature} {error error' : BuildError}

theorem SameOutcome.exists_ok {signature : Signature} (same : SameOutcome ours (.ok signature)) :
    ∃ signature', ours = .ok signature' ∧ signature'.container.Equiv signature.container ∧
      signature'.out.Equiv signature.out := by
  cases ours with
  | ok signature' => exact ⟨signature', rfl, same⟩
  | error error => exact same.elim

theorem SameOutcome.exists_error (same : SameOutcome ours (.error error)) :
    ∃ error', ours = .error error' ∧ error'.Alike error := by
  cases ours with
  | ok signature => exact same.elim
  | error error' => exact ⟨error', rfl, same⟩

/-- A check whether something is known, before everything else. -/
theorem SameOutcome.ifKnown {ty ty' : Ty} (equal : ty.Equiv ty') (alike : error.Alike error')
    (otherwise : SameOutcome ours theirs) :
    SameOutcome (if ty.isKnown then ours else .error error)
      (if ty'.isKnown then theirs else .error error') := by
  rw [← equal.isKnown_eq]
  by_cases known : ty.isKnown = true
  · rw [if_pos known, if_pos known]
    exact otherwise
  · rw [if_neg known, if_neg known]
    exact alike

/-- A check whether two types agree, before everything else. -/
theorem SameOutcome.ifAgrees {left right left' right' : Ty} {report : Mismatch → BuildError}
    (same : left.Agrees right ↔ left'.Agrees right')
    (alike : ∀ cause cause', (report cause).Alike (report cause'))
    (otherwise : SameOutcome ours theirs) :
    SameOutcome
      (match left.conflict? right with
        | some cause => .error (report cause)
        | none => ours)
      (match left'.conflict? right' with
        | some cause => .error (report cause)
        | none => theirs) := by
  rw [Ty.Agrees, Ty.Agrees] at same
  cases conflict : left.conflict? right with
  | none =>
      rw [same.mp conflict]
      exact otherwise
  | some cause =>
      cases conflict' : left'.conflict? right' with
      | none =>
          rw [same.mpr conflict'] at conflict
          cases conflict
      | some cause' => exact alike cause cause'

theorem ofTy?_func_congr {first second third first' second' third' : String}
    {container selector fallback out container' selector' fallback' out' : Ty}
    (equal : (Ty.func [(first, container), (second, selector), (third, fallback)] out).Equiv
      (.func [(first', container'), (second', selector'), (third', fallback')] out'))
    (wellNamed : (Ty.func [(first, container), (second, selector), (third, fallback)]
      out).WellNamed)
    (wellNamed' : (Ty.func [(first', container'), (second', selector'), (third', fallback')]
      out').WellNamed) :
    SameOutcome
      (ofTy? (.func [(first, container), (second, selector), (third, fallback)] out))
      (ofTy? (.func [(first', container'), (second', selector'), (third', fallback')] out')) := by
  obtain ⟨aligned, outs⟩ := Ty.func_equiv_func.mp equal
  simp only [aligned_cons] at aligned
  rcases aligned with ⟨containers, selectors, fallbacks, -⟩
  rw [Ty.wellNamed_func] at wellNamed wellNamed'
  simp only [List.forall_mem_cons] at wellNamed wellNamed'
  obtain ⟨-, ⟨-, selectorNamed, fallbackNamed, -⟩, outNamed⟩ := wellNamed
  obtain ⟨-, ⟨-, selectorNamed', fallbackNamed', -⟩, outNamed'⟩ := wellNamed'
  have texts : selector.Agrees .text ↔ selector'.Agrees .text :=
    Ty.agrees_congr selectors (Ty.equiv_refl trivial) selectorNamed selectorNamed' trivial trivial
  have fits : fallback.Agrees out ↔ fallback'.Agrees out' :=
    Ty.agrees_congr fallbacks outs fallbackNamed fallbackNamed' outNamed outNamed'
  rw [ofTy?_func, ofTy?_func]
  -- One step for each check, in the order in which they are made.
  refine SameOutcome.ifKnown outs trivial ?_
  refine SameOutcome.ifKnown containers rfl ?_
  refine SameOutcome.ifKnown selectors rfl ?_
  refine SameOutcome.ifAgrees texts (fun _ _ => trivial) ?_
  refine SameOutcome.ifKnown fallbacks rfl ?_
  refine SameOutcome.ifAgrees fits (fun _ _ => trivial) ?_
  exact ⟨containers, outs⟩

/-- A function of another number of arguments is refused for it. -/
theorem ofTy?_func_of_length {args : List (String × Ty)} (notThree : args.length ≠ 3) (out : Ty) :
    ofTy? (.func args out) = .error (.arity args.length) := by
  match args with
  | [_, _, _] => exact absurd rfl notThree
  | [] => rfl
  | [_] => rfl
  | [_, _] => rfl
  | _ :: _ :: _ :: _ :: _ => rfl

/-- A type that is not a function type is refused for that. -/
theorem ofTy?_of_not_func {ty : Ty} (notFunc : ∀ args out, ty ≠ .func args out) :
    ofTy? ty = .error (.notFunc ty) := by
  cases ty with
  | func args out => exact absurd rfl (notFunc args out)
  | prim kind => rfl
  | record members => rfl
  | unknown => rfl

/-- Equal types fix equal signatures, or fail alike. -/
theorem ofTy?_congr {ty ty' : Ty} (equal : ty.Equiv ty') (wellNamed : ty.WellNamed)
    (wellNamed' : ty'.WellNamed) : SameOutcome (ofTy? ty) (ofTy? ty') := by
  by_cases isFunc : ∃ args' out', ty' = .func args' out'
  · obtain ⟨args', out', rfl⟩ := isFunc
    obtain ⟨args, out, rfl, aligned, outs⟩ := Ty.exists_func_of_equiv equal
    by_cases three : args.length = 3
    · obtain ⟨first, second, third, rfl⟩ := List.length_eq_three.mp three
      obtain ⟨first', second', third', rfl⟩ :=
        List.length_eq_three.mp (aligned.length_eq.symm.trans three)
      exact ofTy?_func_congr equal wellNamed wellNamed'
    · have three' : args'.length ≠ 3 := aligned.length_eq ▸ three
      rw [ofTy?_func_of_length three, ofTy?_func_of_length three']
      exact aligned.length_eq
  · have notFunc' (args' : List (String × Ty)) (out' : Ty) : ty' ≠ .func args' out' :=
      fun same => isFunc ⟨args', out', same⟩
    have notFunc (args : List (String × Ty)) (out : Ty) : ty ≠ .func args out := by
      rintro rfl
      obtain ⟨args', out', same, -⟩ :=
        Ty.exists_func_of_equiv (equal.symm wellNamed wellNamed')
      exact notFunc' args' out' same
    rw [ofTy?_of_not_func notFunc, ofTy?_of_not_func notFunc']
    exact equal

/-- The function type of a fixed signature fixes the same signature. -/
theorem ofTy?_ty {ty : Ty} {signature : Signature} (fixes : ofTy? ty = .ok signature)
    (wellNamed : ty.WellNamed) : ofTy? signature.ty = .ok signature := by
  obtain ⟨first, second, third, selector, fallback, rfl, outKnown, containerKnown, -⟩ :=
    exists_parts_of_ofTy? fixes
  have outNamed : signature.out.WellNamed := (Ty.wellNamed_func.mp wellNamed).2.2
  have isText : Ty.text ≠ .unknown ∧ Ty.text.Agrees .text := ⟨by simp, Ty.agrees_refl trivial⟩
  exact ofTy?_func_eq_ok_iff.mpr
    ⟨⟨outKnown, containerKnown, isText, outKnown, Ty.agrees_refl outNamed⟩, rfl⟩

/-- The types of equal signatures are equal. -/
theorem ty_equiv {ours theirs : Signature} (containers : ours.container.Equiv theirs.container)
    (outs : ours.out.Equiv theirs.out) : ours.ty.Equiv theirs.ty := by
  apply Ty.func_equiv_func.mpr
  simp only [aligned_cons]
  exact ⟨⟨containers, Ty.equiv_refl trivial, outs, aligned_nil⟩, outs⟩

/-- Fixing a signature fails by one of the checks, never because the signature itself could
not be told as a type. -/
theorem ofTy?_ne_invalidSignature (ty : Ty) (cause : DuplicateName) :
    ofTy? ty ≠ .error (.invalidSignature cause) := by
  by_cases isFunc : ∃ args out, ty = .func args out
  · obtain ⟨args, out, rfl⟩ := isFunc
    by_cases three : args.length = 3
    · obtain ⟨first, second, third, rfl⟩ := List.length_eq_three.mp three
      rw [ofTy?_func]
      repeat' split
      all_goals simp
    · rw [ofTy?_func_of_length three]
      simp
  · rw [ofTy?_of_not_func fun args out same => isFunc ⟨args, out, same⟩]
    simp

end Signature

namespace Function

theorem build_eq_map (function : Function) (ty : Ty) :
    function.build ty =
      (Signature.ofTy? ty).map fun signature => (⟨some signature⟩, signature.ty) := by
  rw [build]
  cases Signature.ofTy? ty <;> rfl

/-- Building fails as fixing the signature fails. -/
theorem build_eq_error_iff {function : Function} {ty : Ty} {error : BuildError} :
    function.build ty = .error error ↔ Signature.ofTy? ty = .error error := by
  rw [build_eq_map]
  cases Signature.ofTy? ty <;> simp [Except.map]

/-- Building a type settles how every equal type is built, by any function. -/
structure BuildsCanonically (ty : Ty) : Prop where
  /-- What was built is built again as it is. -/
  again : ∀ (function other : Function) (result : Function × Ty),
    function.build ty = .ok result → other.build result.2 = .ok result
  /-- What is built of an equal type is equal. -/
  builds : ∀ (function other : Function) (result : Function × Ty),
    function.build ty = .ok result → ∀ ty' : Ty.Constructed, ty'.1.Equiv ty →
      ∃ result', other.build ty'.1 = .ok result' ∧ result'.2.Equiv result.2
  /-- An equal type fails alike. -/
  fails : ∀ (function other : Function) (error : BuildError),
    function.build ty = .error error → ∀ ty' : Ty.Constructed, ty'.1.Equiv ty →
      ∃ error', other.build ty'.1 = .error error' ∧ error'.Alike error
  /-- The built type is always well formed. -/
  formed : ∀ (function : Function) (cause : DuplicateName),
    function.build ty ≠ .error (.invalidSignature cause)

theorem builds_canonically (ty : Ty.Constructed) : BuildsCanonically ty.1 := by
  have sameOutcome (ty' : Ty.Constructed) (equal : ty'.1.Equiv ty.1) :
      Signature.SameOutcome (Signature.ofTy? ty'.1) (Signature.ofTy? ty.1) :=
    Signature.ofTy?_congr equal ty'.wellNamed ty.wellNamed
  refine ⟨?_, ?_, ?_, ?_⟩
  · intro function other result built
    obtain ⟨signature, fixes, rfl⟩ := build_eq_ok_iff.mp built
    exact build_eq_ok_iff.mpr ⟨signature, Signature.ofTy?_ty fixes ty.wellNamed, rfl⟩
  · intro function other result built ty' equal
    obtain ⟨signature, fixes, rfl⟩ := build_eq_ok_iff.mp built
    obtain ⟨signature', fixes', containers, outs⟩ := (fixes ▸ sameOutcome ty' equal).exists_ok
    have built' : other.build ty'.1 = .ok (⟨some signature'⟩, signature'.ty) :=
      build_eq_ok_iff.mpr ⟨signature', fixes', rfl⟩
    exact ⟨_, built', Signature.ty_equiv containers outs⟩
  · intro function other error failed ty' equal
    have fails := build_eq_error_iff.mp failed
    obtain ⟨error', fails', alike⟩ := (fails ▸ sameOutcome ty' equal).exists_error
    exact ⟨error', build_eq_error_iff.mpr fails', alike⟩
  · intro function cause failed
    exact Signature.ofTy?_ne_invalidSignature ty.1 cause (build_eq_error_iff.mp failed)

/-- A function whose fallback leaves open what its result knows. -/
private def halfKnown : Ty.Constructed :=
  ⟨.func [("whole", .record [("a", .unknown)]), ("part", .text),
    ("otherwise", .record [("x", .unknown), ("y", .text)])]
      (.record [("x", .prim .int), ("y", .text)]), Ty.constructible_iff.mpr (by decide)⟩

/-- The same, told with other names and in another order. -/
private def halfKnown' : Ty.Constructed :=
  ⟨.func [("s", .record [("a", .unknown)]), ("f", .text),
    ("o", .record [("y", .text), ("x", .unknown)])]
      (.record [("y", .text), ("x", .prim .int)]), Ty.constructible_iff.mpr (by decide)⟩

/-- What is built of the first is not equal to it, but it is built again as it is, and what
is built of the second equals it. -/
theorem builds_half_known :
    ∃ result, ({} : Function).build halfKnown.1 = .ok result ∧ ¬ result.2.Equiv halfKnown.1 ∧
      result.1.build result.2 = .ok result ∧
        ∃ result', ({} : Function).build halfKnown'.1 = .ok result' ∧ result'.2.Equiv result.2 := by
  obtain ⟨again, builds, -, -⟩ := builds_canonically halfKnown
  have equal : halfKnown'.1.Equiv halfKnown.1 := by decide
  exact ⟨_, rfl, by decide, again {} _ _ rfl, builds {} {} _ rfl halfKnown' equal⟩

end Function

end Polyflow.Lookup
