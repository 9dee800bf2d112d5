/-
# What building accepts

Building accepts a type if it is a function type of three arguments, each known as far
as it has to be, and then fixes a signature and answers the function type that the
signature stands for. Nothing else can go wrong: the built type is always well formed.
-/

import Polyflow.Lookup.Function
import Polyflow.Proofs.Lookup.Findings
import Polyflow.Proofs.Ty.Structure

namespace Polyflow.Lookup

namespace Signature

/-- The function type that a signature stands for. -/
def ty (signature : Signature) : Ty :=
  .func [(Arg.container.name, signature.container), (Arg.selector.name, .text),
    (Arg.fallback.name, signature.out)] signature.out

/-- The names of the arguments are distinct, whatever their types. -/
theorem ty?_eq_ok (signature : Signature) : signature.ty? = .ok signature.ty := rfl

/-- The checks of building, in their order. -/
theorem ofTy?_func (first second third : String) (container selector fallback out : Ty) :
    ofTy? (.func [(first, container), (second, selector), (third, fallback)] out) =
      if out.isKnown then
        if container.isKnown then
          if selector.isKnown then
            match selector.conflict? .text with
            | some cause => .error (.selectorNotText cause)
            | none =>
              if fallback.isKnown then
                match fallback.conflict? out with
                | some cause => .error (.fallbackMismatch cause)
                | none => .ok ⟨container, out⟩
              else .error (.missingArg .fallback)
          else .error (.missingArg .selector)
        else .error (.missingArg .container)
      else .error .missingReturn := by
  simp only [ofTy?, specified]
  cases out.isKnown <;> cases container.isKnown <;> cases selector.isKnown <;>
    cases selector.conflict? .text <;> cases fallback.isKnown <;>
      cases fallback.conflict? out <;> rfl

/-- The checks that the parts of a function type have to pass. -/
theorem ofTy?_func_eq_ok_iff {first second third : String} {container selector fallback out : Ty}
    {signature : Signature} :
    ofTy? (.func [(first, container), (second, selector), (third, fallback)] out) =
        .ok signature ↔
      (out ≠ .unknown ∧ container ≠ .unknown ∧ (selector ≠ .unknown ∧ selector.Agrees .text) ∧
        fallback ≠ .unknown ∧ fallback.Agrees out) ∧ ⟨container, out⟩ = signature := by
  rw [ofTy?_func]
  simp only [← Ty.isKnown_iff, Ty.Agrees]
  cases out.isKnown <;> cases container.isKnown <;> cases selector.isKnown <;>
    cases selector.conflict? .text <;> cases fallback.isKnown <;>
      cases fallback.conflict? out <;> simp

/-- Only function types of three arguments fix a signature. -/
theorem exists_func_of_ofTy? {ty : Ty} {signature : Signature} (fixes : ofTy? ty = .ok signature) :
    ∃ first second third container selector fallback out,
      ty = .func [(first, container), (second, selector), (third, fallback)] out := by
  match ty with
  | .func [(first, container), (second, selector), (third, fallback)] out =>
      exact ⟨first, second, third, container, selector, fallback, out, rfl⟩
  | .func [] _ => cases fixes
  | .func [_] _ => cases fixes
  | .func [_, _] _ => cases fixes
  | .func (_ :: _ :: _ :: _ :: _) _ => cases fixes
  | .prim _ => cases fixes
  | .record _ => cases fixes
  | .unknown => cases fixes

/-- What fixes a signature is a function type of its container and of its result, and the
other parts pass their checks. -/
theorem exists_parts_of_ofTy? {ty : Ty} {signature : Signature}
    (fixes : ofTy? ty = .ok signature) :
    ∃ first second third selector fallback,
      ty = .func [(first, signature.container), (second, selector), (third, fallback)]
          signature.out ∧
        signature.out ≠ .unknown ∧ signature.container ≠ .unknown ∧
          (selector ≠ .unknown ∧ selector.Agrees .text) ∧
            fallback ≠ .unknown ∧ fallback.Agrees signature.out := by
  obtain ⟨first, second, third, container, selector, fallback, out, rfl⟩ :=
    exists_func_of_ofTy? fixes
  obtain ⟨checked, rfl⟩ := ofTy?_func_eq_ok_iff.mp fixes
  exact ⟨first, second, third, selector, fallback, rfl, checked⟩

/-- A signature is built of parts of the given type. -/
theorem wellNamed_ty {ty : Ty} {signature : Signature} (wellNamed : ty.WellNamed)
    (fixes : ofTy? ty = .ok signature) : signature.ty.WellNamed := by
  obtain ⟨first, second, third, selector, fallback, rfl, -⟩ := exists_parts_of_ofTy? fixes
  obtain ⟨-, each, outNamed⟩ := Ty.wellNamed_func.mp wellNamed
  have containerNamed : signature.container.WellNamed := each _ (.head _)
  have argNames : (Arg.all.map Arg.name).Nodup := by decide
  refine Ty.wellNamed_func.mpr ⟨argNames, fun entry member => ?_, outNamed⟩
  rcases List.mem_cons.mp member with rfl | member
  · exact containerNamed
  rcases List.mem_cons.mp member with rfl | member
  · exact trivial
  cases List.mem_singleton.mp member
  exact outNamed

theorem validate_eq (signature : Signature) :
    signature.validate =
      if signature.container.members?.isNone then .error (.notStruct signature.container)
      else if signature.out.isKnown then .ok () else .error .missingReturn := by
  rw [validate]
  cases signature.container.members?.isNone <;> cases signature.out.isKnown <;> rfl

/-- A signature can be run if its container is a record and its result is known. -/
theorem validate_eq_ok_iff {signature : Signature} :
    signature.validate = .ok () ↔
      (∃ members, signature.container = .record members) ∧ signature.out ≠ .unknown := by
  rw [← Ty.isKnown_iff, validate_eq]
  cases signature.container <;> simp [Ty.members?]

end Signature

namespace Function

/-- Building fixes the signature of the given type, whatever was built before. -/
theorem build_eq_ok_iff {function : Function} {ty : Ty} {result : Function × Ty} :
    function.build ty = .ok result ↔
      ∃ signature, Signature.ofTy? ty = .ok signature ∧
        (⟨some signature⟩, signature.ty) = result := by
  simp only [build, bind_eq_ok, Signature.ty?_eq_ok, pure_eq_ok, Except.ok.injEq, exists_eq_left']

/-- A node is started with the signature that was built last, if it is valid. -/
theorem init_eq_ok_iff {function : Function} {signature : Signature} :
    function.init = .ok signature ↔
      function.signature = some signature ∧ signature.validate = .ok () := by
  rcases function with ⟨built⟩
  cases built with
  | none => simp [init, throw, throwThe, MonadExceptOf.throw]
  | some built =>
      have checked : (⟨some built⟩ : Function).init = built.validate >>= fun _ => .ok built := rfl
      rw [checked, bind_eq_ok]
      constructor
      · rintro ⟨_, valid, same⟩
        cases same
        exact ⟨rfl, valid⟩
      · rintro ⟨same, valid⟩
        cases same
        exact ⟨(), valid, rfl⟩

/-- A function that was built can be started if its signature is valid. -/
theorem validate_of_signature (signature : Signature) :
    (⟨some signature⟩ : Function).validate = signature.validate := by
  simp only [validate, init]
  cases signature.validate <;> rfl

end Function

end Polyflow.Lookup
