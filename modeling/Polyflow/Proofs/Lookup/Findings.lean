/-
# What a round gathers, as histories of observations

A round learns two types, that of the record and that of the result. Each is a
piece of knowledge with a history: the record is observed in the types known of
the container argument, the result in the members that the selector picks from
those, then in the types known of the fallback and of the call. Gathering
succeeds exactly when every type known of the container is a record or unknown
and both histories are accepted to the end.
-/

import Polyflow.Lookup.Typing
import Polyflow.Proofs.Infer.History

namespace Polyflow.Lookup

/-- A bind succeeds when its first part does and the rest goes on from there. -/
theorem bind_eq_ok {ε α β : Type} {first : Except ε α} {rest : α → Except ε β} {result : β} :
    first >>= rest = .ok result ↔ ∃ middle, first = .ok middle ∧ rest middle = .ok result := by
  cases first <;> simp [bind, Except.bind]

theorem pure_eq_ok {ε α : Type} {value result : α} :
    (pure value : Except ε α) = .ok result ↔ value = result := by
  simp [pure, Except.pure]

/-- The selector that an argument fixes: the text of a constant, unless it is
empty. -/
def fixedSelector? (arg : Expr) : Option String :=
  (arg.value?.bind Value.text?).filter (· ≠ "")

theorem selectorOf_cons (entry : Source × Ty) (rest : List (Source × Ty)) (arg : Expr) :
    selectorOf (entry :: rest) arg =
      if entry.2.Agrees .text then selectorOf rest arg
      else .error (.unexpectedKind Arg.selector.name Prim.text.name entry.2) := by
  rcases entry with ⟨source, ty⟩
  cases ty with
  | unknown => simp [selectorOf]
  | prim kind =>
      cases kind with
      | text => simp [selectorOf, Ty.Agrees, Ty.conflict?]
      | _ => rfl
  | _ => rfl

theorem selectorOf_eq_ok_iff {known : List (Source × Ty)} {arg : Expr}
    {selector : Option String} :
    selectorOf known arg = .ok selector ↔
      (∀ entry ∈ known, entry.2.Agrees .text) ∧ fixedSelector? arg = selector := by
  induction known with
  | nil => simp [selectorOf, fixedSelector?, pure_eq_ok]
  | cons entry rest ih =>
      rw [selectorOf_cons, List.forall_mem_cons]
      split
      case isTrue allowed => rw [ih, and_iff_right allowed]
      case isFalse refused => simp [refused]

namespace Findings

/-- The record, observed in a type known of the container argument. -/
def containerObservation (known : Source × Ty) : Observation :=
  ⟨known.2, known.1.name ++ " struct arg type"⟩

/-- The result, observed in a type of something that has the same type. -/
def resultObservation (what : String) (known : Source × Ty) : Observation :=
  ⟨known.2, known.1.name ++ " " ++ what⟩

/-- The member that the selector picks from a type known of the container. -/
def selected? (selector : Option String) (known : Source × Ty) : Option (Source × Ty) := do
  let name ← selector
  let members ← known.2.members?
  let member ← members.lookup name
  return (known.1, member)

/-- All observations of the result, in the order in which they are made. -/
def resultHistory (selector : Option String) (container fallback ret : List (Source × Ty)) :
    List Observation :=
  (container.filterMap (selected? selector)).map (resultObservation "struct member type") ++
    fallback.map (resultObservation "optional arg type") ++
    ret.map (resultObservation "return type")

theorem selected?_eq_some_iff {selector : Option String} {known picked : Source × Ty} :
    selected? selector known = some picked ↔
      ∃ name members, selector = some name ∧ known.2 = .record members ∧
        members.lookup name = some picked.2 ∧ picked.1 = known.1 := by
  rcases known with ⟨source, ty⟩
  cases ty with
  | record members =>
      simp only [selected?, Ty.members?, Option.bind_eq_bind, Option.bind_eq_some_iff,
        Option.pure_def, Option.some.injEq, exists_eq_left', Ty.record.injEq]
      apply Iff.intro
      · intro selects
        rcases selects with ⟨name, isName, member, found, rfl⟩
        exact ⟨name, members, isName, rfl, found, rfl⟩
      · intro selects
        rcases selects with ⟨name, _, isName, rfl, found, same⟩
        exact ⟨name, isName, picked.2, found, Prod.ext same.symm rfl⟩
  | _ => simp [selected?, Ty.members?]

/-- The picked member is well named if the type that it is picked from is. -/
theorem wellNamed_of_selected? {selector : Option String} {known picked : Source × Ty}
    (wellNamed : known.2.WellNamed) (isPicked : selected? selector known = some picked) :
    picked.2.WellNamed := by
  obtain ⟨name, members, -, isRecord, found, -⟩ := selected?_eq_some_iff.mp isPicked
  rw [isRecord] at wellNamed
  exact wellNamed.member found

theorem selected?_unknown (selector : Option String) (source : Source) :
    selected? selector (source, .unknown) = none := by
  cases selector <;> rfl

theorem selected?_record (selector : Option String) (source : Source)
    (members : List (String × Ty)) :
    selected? selector (source, .record members) =
      (selector.bind fun name => members.lookup name).map fun member => (source, member) := by
  cases selector with
  | none => rfl
  | some name => cases found : members.lookup name <;> simp [selected?, Ty.members?, found]

theorem learnResult_eq_ok_iff {what : String} {findings later : Findings} {known : Source × Ty} :
    findings.learnResult what known = .ok later ↔
      findings.result.accepts (resultObservation what known) = true ∧
        { findings with
          result := findings.result.next (resultObservation what known) } = later := by
  rw [learnResult, Knowledge.accepts, Knowledge.next, resultObservation]
  cases findings.result.observe ⟨known.2, known.1.name ++ " " ++ what⟩ with
  | ok answer => simp [Except.isOk, Except.toBool]
  | error conflict => simp [Except.isOk, Except.toBool]

/-- The types that the container argument may have as far as is known. -/
def IsRecordOrUnknown (ty : Ty) : Prop :=
  ty ≠ .unknown → ty.members?.isSome

theorem IsRecordOrUnknown.exists_record {ty : Ty} (allowed : IsRecordOrUnknown ty)
    (known : ty ≠ .unknown) : ∃ members, ty = .record members := by
  cases ty with
  | record members => exact ⟨members, rfl⟩
  | _ => cases allowed known

/-- A type known of the container is taken in when it is a record or unknown, the
selected member is accepted for the result, and the type for the record. -/
theorem learnContainer_eq_ok_iff {selector : Option String} {findings later : Findings}
    {known : Source × Ty} :
    findings.learnContainer selector known = .ok later ↔
      IsRecordOrUnknown known.2 ∧
        findings.container.accepts (containerObservation known) = true ∧
        findings.result.acceptsAll
          ((selected? selector known).toList.map (resultObservation "struct member type")) = true ∧
        { container := findings.container.next (containerObservation known)
          result := findings.result.after ((selected? selector known).toList.map
            (resultObservation "struct member type")) : Findings } = later := by
  rcases known with ⟨source, ty⟩
  cases ty with
  | unknown =>
      simp [learnContainer, IsRecordOrUnknown, containerObservation, selected?_unknown,
        Knowledge.accepts_unknown, Knowledge.next_unknown, Knowledge.acceptsAll, Knowledge.after]
  | prim kind => simp [learnContainer, IsRecordOrUnknown, Ty.members?]
  | func args ret => simp [learnContainer, IsRecordOrUnknown, Ty.members?]
  | record members =>
      have allowed : IsRecordOrUnknown (.record members) := fun _ => rfl
      rw [learnContainer, selected?_record, Knowledge.accepts, Knowledge.next]
      simp only [containerObservation, allowed, true_and]
      cases selector.bind fun name => members.lookup name with
      | none =>
          cases observed : findings.container.observe
              ⟨.record members, source.name ++ " struct arg type"⟩ with
          | ok answer =>
              simp [observed, Except.isOk, Except.toBool, Knowledge.acceptsAll, Knowledge.after,
                pure_eq_ok]
          | error conflict =>
              simp [observed, Except.isOk, Except.toBool, throw, throwThe, MonadExceptOf.throw]
      | some member =>
          simp only [bind_eq_ok, learnResult_eq_ok_iff]
          cases observed : findings.container.observe
              ⟨.record members, source.name ++ " struct arg type"⟩ with
          | ok answer =>
              simp [observed, Except.isOk, Except.toBool, Knowledge.acceptsAll, Knowledge.after,
                pure_eq_ok]
          | error conflict =>
              simp [observed, Except.isOk, Except.toBool, throw, throwThe, MonadExceptOf.throw]

theorem foldlM_learnResult_eq_ok_iff {what : String} {known : List (Source × Ty)}
    {findings later : Findings} :
    known.foldlM (learnResult what) findings = .ok later ↔
      findings.result.acceptsAll (known.map (resultObservation what)) = true ∧
        { findings with
          result := findings.result.after (known.map (resultObservation what)) } = later := by
  induction known generalizing findings with
  | nil => simp [pure_eq_ok, Knowledge.acceptsAll, Knowledge.after]
  | cons first rest ih =>
      simp only [List.foldlM_cons, bind_eq_ok, learnResult_eq_ok_iff, ih, List.map_cons,
        Knowledge.acceptsAll, Bool.and_eq_true]
      apply Iff.intro
      · intro learns
        rcases learns with ⟨_, ⟨accepts, rfl⟩, acceptsRest, rfl⟩
        exact ⟨⟨accepts, acceptsRest⟩, rfl⟩
      · intro accepted
        rcases accepted with ⟨⟨accepts, acceptsRest⟩, rfl⟩
        exact ⟨_, ⟨accepts, rfl⟩, acceptsRest, rfl⟩

/-- The observations of the result among those of a list of container types. -/
private theorem selected_cons (selector : Option String) (first : Source × Ty)
    (rest : List (Source × Ty)) :
    ((first :: rest).filterMap (selected? selector)).map
        (resultObservation "struct member type") =
      (selected? selector first).toList.map (resultObservation "struct member type") ++
        (rest.filterMap (selected? selector)).map (resultObservation "struct member type") := by
  cases found : selected? selector first <;> simp [found]

theorem foldlM_learnContainer_eq_ok_iff {selector : Option String} {known : List (Source × Ty)}
    {findings later : Findings} :
    known.foldlM (learnContainer selector) findings = .ok later ↔
      (∀ entry ∈ known, IsRecordOrUnknown entry.2) ∧
        findings.container.acceptsAll (known.map containerObservation) = true ∧
        findings.result.acceptsAll ((known.filterMap (selected? selector)).map
          (resultObservation "struct member type")) = true ∧
        { container := findings.container.after (known.map containerObservation)
          result := findings.result.after ((known.filterMap (selected? selector)).map
            (resultObservation "struct member type")) : Findings } = later := by
  induction known generalizing findings with
  | nil => simp [pure_eq_ok, Knowledge.acceptsAll, Knowledge.after]
  | cons first rest ih =>
      rw [selected_cons, Knowledge.acceptsAll_append, Knowledge.after_append]
      simp only [List.foldlM_cons, bind_eq_ok, learnContainer_eq_ok_iff, ih, List.map_cons,
        List.forall_mem_cons, Knowledge.acceptsAll, Bool.and_eq_true]
      apply Iff.intro
      · intro learns
        rcases learns with
          ⟨_, ⟨allowed, accepts, member, rfl⟩, allowedRest, acceptsRest, memberRest, rfl⟩
        exact ⟨⟨allowed, allowedRest⟩, ⟨accepts, acceptsRest⟩, ⟨member, memberRest⟩, rfl⟩
      · intro accepted
        rcases accepted with
          ⟨⟨allowed, allowedRest⟩, ⟨accepts, acceptsRest⟩, ⟨member, memberRest⟩, rfl⟩
        exact ⟨_, ⟨allowed, accepts, member, rfl⟩, allowedRest, acceptsRest, memberRest, rfl⟩

/-- Gathering succeeds exactly when every type known of the container is a record
or unknown and both histories are accepted, and then finds what they leave. -/
theorem gather_eq_ok_iff {selector : Option String} {container fallback ret : List (Source × Ty)}
    {findings : Findings} :
    gather selector container fallback ret = .ok findings ↔
      (∀ entry ∈ container, IsRecordOrUnknown entry.2) ∧
        Knowledge.acceptsAll {} (container.map containerObservation) = true ∧
        Knowledge.acceptsAll {} (resultHistory selector container fallback ret) = true ∧
        { container := Knowledge.after {} (container.map containerObservation)
          result := Knowledge.after {} (resultHistory selector container fallback ret) :
          Findings } = findings := by
  simp only [gather, bind_eq_ok, foldlM_learnContainer_eq_ok_iff, foldlM_learnResult_eq_ok_iff,
    resultHistory, Knowledge.acceptsAll_append, Knowledge.after_append, Bool.and_eq_true]
  apply Iff.intro
  · intro gathers
    rcases gathers with ⟨_, ⟨allowed, accepts, members, rfl⟩, _, ⟨fallbacks, rfl⟩, rets, rfl⟩
    exact ⟨allowed, accepts, ⟨⟨members, fallbacks⟩, rets⟩, rfl⟩
  · intro accepted
    rcases accepted with ⟨allowed, accepts, ⟨⟨members, fallbacks⟩, rets⟩, rfl⟩
    exact ⟨_, ⟨allowed, accepts, members, rfl⟩, _, ⟨fallbacks, rfl⟩, rets, rfl⟩

end Findings

end Polyflow.Lookup
