/-
# Names are distinct everywhere

Members of records, arguments of functions and parts of constraints are lists of named
entries, and all of them are checked in the same way when they are made: what is made holds
the entries as they are, in their order, and a list in which a name repeats is refused with
the first name that does. So a name stands for one entry, and looking it up finds that one.
Types are also made without a check: of values, and of the signatures that functions are
built with. They take their names from what was checked before, and names are distinct at
every level of any type that can be had.
-/

import Polyflow.Infer.Constraint
import Polyflow.Proofs.Construction
import Polyflow.Proofs.Lookup.Lifecycle

namespace Polyflow

variable {α β ε : Type}

/-- Of all names that occur earlier in the list as well, this one stands first. -/
def IsFirstRepeat (names : List String) (name : String) : Prop :=
  ∃ before later, names = before ++ name :: later ∧ name ∈ before ∧ before.Nodup

/-- The names of the first part count as seen when those of the second are checked. -/
theorem firstRepeatAfter?_append (seen before later : List String) :
    firstRepeatAfter? seen (before ++ later) =
      (firstRepeatAfter? seen before).or (firstRepeatAfter? (before.reverse ++ seen) later) := by
  induction before generalizing seen with
  | nil => rfl
  | cons name rest ih =>
      rw [List.cons_append, firstRepeatAfter?, firstRepeatAfter?]
      split
      · rfl
      · rw [ih, List.reverse_cons, List.append_assoc, List.singleton_append]

/-- Nothing repeats before the name that is reported. -/
theorem exists_split_of_firstRepeatAfter? {seen names : List String} {name : String}
    (reports : firstRepeatAfter? seen names = some name) :
    ∃ before later, names = before ++ name :: later ∧ (name ∈ before ∨ name ∈ seen) ∧
      firstRepeatAfter? seen before = none := by
  induction names generalizing seen with
  | nil => cases reports
  | cons first rest ih =>
      rw [firstRepeatAfter?] at reports
      split at reports
      case isTrue known =>
        cases reports
        exact ⟨[], rest, rfl, .inr known, rfl⟩
      case isFalse unseen =>
        obtain ⟨before, later, rfl, repeats, clean⟩ := ih reports
        refine ⟨first :: before, later, rfl, ?_, ?_⟩
        · simpa [or_assoc, or_left_comm] using repeats
        · rw [firstRepeatAfter?, if_neg unseen, clean]

theorem firstRepeat?_eq_some_iff {names : List String} {name : String} :
    firstRepeat? names = some name ↔ IsFirstRepeat names name := by
  constructor
  · intro reports
    obtain ⟨before, later, isSplit, repeats, clean⟩ := exists_split_of_firstRepeatAfter? reports
    exact ⟨before, later, isSplit, by simpa using repeats, firstRepeat?_eq_none_iff.mp clean⟩
  · rintro ⟨before, later, rfl, repeats, distinct⟩
    have clean : firstRepeatAfter? [] before = none := firstRepeat?_eq_none_iff.mpr distinct
    rw [firstRepeat?, firstRepeatAfter?_append, clean, Option.none_or, firstRepeatAfter?, if_pos]
    simpa using repeats

/-- How something is made of a list of named entries: if the names are distinct, it is made
and holds the entries as they are; and otherwise the first name that repeats is reported. -/
structure ChecksNames (entries : List (String × α)) (outcome : Except ε β) (made : β)
    (entriesOf? : β → Option (List (String × α))) (report : DuplicateName → ε) : Prop where
  /-- It succeeds exactly if the names are distinct. -/
  succeeds : ∀ result, outcome = .ok result ↔ (entries.map Prod.fst).Nodup ∧ made = result
  /-- All entries are kept, in their order. -/
  keeps : entriesOf? made = some entries
  /-- Otherwise the first name that repeats is reported, and nothing else goes wrong. -/
  fails : ∀ error, outcome = .error error ↔
    ∃ name, IsFirstRepeat (entries.map Prod.fst) name ∧ report ⟨name⟩ = error

/-- It is enough to know what is done if no name repeats, and what if one does. -/
theorem checks_of_firstRepeat? {entries : List (String × α)} {outcome : Except ε β} {made : β}
    {entriesOf? : β → Option (List (String × α))} {report : DuplicateName → ε}
    (keeps : entriesOf? made = some entries)
    (accepts : firstRepeat? (entries.map Prod.fst) = none → outcome = .ok made)
    (refuses : ∀ name, firstRepeat? (entries.map Prod.fst) = some name →
      outcome = .error (report ⟨name⟩)) :
    ChecksNames entries outcome made entriesOf? report := by
  refine ⟨fun result => ?_, keeps, fun error => ?_⟩
  · rw [← firstRepeat?_eq_none_iff]
    cases repeats : firstRepeat? (entries.map Prod.fst) with
    | none => simp [accepts repeats]
    | some name => simp [refuses name repeats]
  · simp only [← firstRepeat?_eq_some_iff]
    cases repeats : firstRepeat? (entries.map Prod.fst) with
    | none => simp [accepts repeats]
    | some name => simp [refuses name repeats]

variable {ρ : Type}

theorem checks_distinctNames {make : List (String × α) → β}
    {entriesOf? : β → Option (List (String × α))} {entries : List (String × α)}
    (keeps : entriesOf? (make entries) = some entries) :
    ChecksNames entries ((distinctNames entries).map make) (make entries) entriesOf? id :=
  checks_of_firstRepeat? keeps (fun accepts => by rw [distinctNames, accepts]; rfl)
    fun name refuses => by rw [distinctNames, refuses]; rfl

namespace Constraint

theorem distinctParts_of_accepted {parts : List (String × Expr)}
    (accepted : firstRepeat? (parts.map Prod.fst) = none) : distinctParts parts = .ok parts := by
  rw [distinctParts, distinctNames, accepted]
  rfl

theorem distinctParts_of_refused {parts : List (String × Expr)} {name : String}
    (refused : firstRepeat? (parts.map Prod.fst) = some name) :
    distinctParts parts = .error (.duplicateName ⟨name⟩) := by
  rw [distinctParts, distinctNames, refused]
  rfl

theorem checks_distinctParts (parts : List (String × Expr)) :
    ChecksNames parts (distinctParts parts) parts some .duplicateName :=
  checks_of_firstRepeat? rfl distinctParts_of_accepted fun _ => distinctParts_of_refused

theorem checks_record? (expr : Expr) (members : List (String × Expr)) :
    ChecksNames members (record? expr members : Except ShapeError (Constraint ρ))
      (.record ⟨expr, members⟩) parts? .duplicateName :=
  checks_of_firstRepeat? rfl
    (fun accepted => by rw [record?, distinctParts_of_accepted accepted]; rfl)
    fun name refused => by rw [record?, distinctParts_of_refused refused]; rfl

theorem checks_function?_cons (func : Expr) (arg : String × Expr) (rest : List (String × Expr))
    (ret : Expr) :
    ChecksNames (arg :: rest) (function? func (arg :: rest) ret : Except ShapeError (Constraint ρ))
      (.function ⟨func, arg :: rest, ret⟩) parts? .duplicateName := by
  refine checks_of_firstRepeat? rfl (fun accepted => ?_) fun name refused => ?_
  · rw [function?, distinctParts_of_accepted accepted]
    rfl
  · rw [function?, distinctParts_of_refused refused]
    rfl

theorem function?_eq_noArgs_iff {func : Expr} {args : List (String × Expr)} {ret : Expr} :
    (function? func args ret : Except ShapeError (Constraint ρ)) = .error .noArgs ↔ args = [] := by
  cases args with
  | nil => exact iff_of_true rfl rfl
  | cons arg rest =>
      refine iff_of_false (fun fails => ?_) (List.cons_ne_nil arg rest)
      obtain ⟨name, -, same⟩ := ((checks_function?_cons func arg rest ret).fails .noArgs).mp fails
      cases same

end Constraint

/-- Looking up a name and going through the entries tell the same. -/
structure FoundByName (entries : List (String × α)) : Prop where
  /-- What is found stands at some position under the name. -/
  found : ∀ name item, entries.lookup name = some item ↔
    ∃ index : Nat, entries[index]? = some (name, item)
  /-- There is one such position only. -/
  once : ∀ (index other : Nat) name, (entries.map Prod.fst)[index]? = some name →
    (entries.map Prod.fst)[other]? = some name → index = other
  /-- Nothing is found under other names. -/
  absent : ∀ name, entries.lookup name = none ↔ name ∉ entries.map Prod.fst

/-- This is so exactly if the names are distinct. -/
theorem foundByName_iff_distinct {entries : List (String × α)} :
    FoundByName entries ↔ (entries.map Prod.fst).Nodup := by
  constructor
  · intro byName
    refine List.nodup_iff_getElem?_ne_getElem?.mpr fun index other before inside same => ?_
    have holds := List.getElem?_eq_getElem inside
    exact Nat.ne_of_lt before (byName.once index other _ (same.trans holds) holds)
  · intro distinct
    refine ⟨fun name item => ?_, fun index other name holds holds' => ?_, fun name => ?_⟩
    · rw [lookup_eq_some_iff_mem distinct, List.mem_iff_getElem?]
    · obtain ⟨inside, -⟩ := List.getElem?_eq_some_iff.mp holds
      exact (List.getElem?_inj inside distinct).mp (holds.trans holds'.symm)
    · rw [← lookup_isSome_iff_mem, Option.not_isSome_iff_eq_none]

namespace Lookup

/-- The signature of a function, if there is one, is that of a well-named type. -/
def Function.IsWellNamed (function : Function) : Prop :=
  ∀ signature ∈ function.signature, signature.ty.WellNamed

theorem Function.IsWellNamed.shown {function : Function} {ty : Ty}
    (wellNamed : function.IsWellNamed) (shows : function.info.ty = some ty) : ty.WellNamed := by
  obtain ⟨signature, isFixed, answers⟩ := Option.bind_eq_some_iff.mp shows
  cases answers
  exact wellNamed signature isFixed

theorem eq_build_of_buildOf? {use : Use} {reply : Reply} {build : Ty × Ty}
    (isBuild : buildOf? (use, reply) = some build) : use = .build build.1 := by
  cases use with
  | build ty =>
      cases reply with
      | built outcome => cases outcome <;> cases isBuild; rfl
      | _ => cases isBuild
  | _ => cases isBuild

/-- A use keeps a function well named, if it is not built with anything else. -/
theorem Host.isWellNamed_use {host : Host} (wellNamed : host.function.IsWellNamed) {use : Use}
    (given : ∀ ty, use = .build ty → ty.WellNamed) : (host.use use).1.function.IsWellNamed := by
  rcases host.use_cases use with ⟨ty, signature, fixes, isBuild, isFunction⟩ | ⟨-, isFunction⟩
  · rw [isFunction]
    rintro _ ⟨rfl⟩
    exact Signature.wellNamed_ty (given ty (eq_build_of_buildOf? isBuild)) fixes
  · rwa [isFunction]

theorem Host.isWellNamed_after {host : Host} (wellNamed : host.function.IsWellNamed)
    {uses : List Use} (given : ∀ ty, .build ty ∈ uses → ty.WellNamed) :
    (host.after uses).function.IsWellNamed := by
  induction uses generalizing host with
  | nil => exact wellNamed
  | cons use rest ih =>
      have first : ∀ ty, use = .build ty → ty.WellNamed := by
        rintro ty rfl
        exact given ty (.head _)
      exact ih (isWellNamed_use wellNamed first) fun ty member => given ty (.tail _ member)

end Lookup

namespace Ty

open Lookup

/-- The types that can be had: those that are made of others, those of values, and those that
functions answer when they are built, or show when they are described. -/
inductive Obtainable : Ty → Prop
  | prim (kind : Prim) : Obtainable (.prim kind)
  | unknown : Obtainable .unknown
  | record {members : List (String × Ty)} {ty : Ty}
      (each : ∀ entry ∈ members, Obtainable entry.2) (made : record? members = .ok ty) :
      Obtainable ty
  | func {args : List (String × Ty)} {ret ty : Ty}
      (each : ∀ entry ∈ args, Obtainable entry.2) (ofRet : Obtainable ret)
      (made : func? args ret = .ok ty) : Obtainable ty
  | ofValue {value : Value} (constructible : value.Constructible) : Obtainable value.ty
  | built {function built : Function} {given ty : Ty} (ofGiven : Obtainable given)
      (builds : function.build given = .ok (built, ty)) : Obtainable ty
  | described {uses : List Use} {ty : Ty}
      (each : ∀ given, .build given ∈ uses → Obtainable given)
      (shows : (({} : Host).after uses).function.info.ty = some ty) : Obtainable ty

theorem Constructible.obtainable {ty : Ty} (constructible : ty.Constructible) :
    ty.Obtainable := by
  induction constructible with
  | prim kind => exact .prim kind
  | unknown => exact .unknown
  | record _ made each => exact .record each made
  | func _ _ made each ofRet => exact .func each ofRet made

/-- Names are distinct at every level of a type that can be had, and every such type can be
had. -/
theorem obtainable_iff {ty : Ty} : ty.Obtainable ↔ ty.WellNamed := by
  constructor
  · intro obtainable
    induction obtainable with
    | prim kind => trivial
    | unknown => trivial
    | record _ made each =>
        exact constructible_iff.mp
          (.record (fun _ member => constructible_iff.mpr (each _ member)) made)
    | func _ _ made each ofRet =>
        exact constructible_iff.mp (.func (fun _ member => constructible_iff.mpr (each _ member))
          (constructible_iff.mpr ofRet) made)
    | ofValue constructible => exact (Value.constructible_iff.mp constructible).ty
    | built _ builds ofGiven =>
        obtain ⟨signature, fixes, same⟩ := Function.build_eq_ok_iff.mp builds
        cases same
        exact Signature.wellNamed_ty ofGiven fixes
    | described _ shows each =>
        have start : ({} : Host).function.IsWellNamed := nofun
        exact (Host.isWellNamed_after start each).shown shows
  · intro wellNamed
    exact (constructible_iff.mpr wellNamed).obtainable

end Ty

/-- Every list of named entries is checked in the same way, whatever is made of it: the type of
a record or of a function, a record, or a constraint. A constraint on a function is refused
besides if it has no argument, and for that reason only then. Looking up a name finds the one
entry that has it, exactly if the names are distinct. And distinct they are at every level of
the types and values that can be had. -/
theorem names_distinct_throughout (ρ : Type) :
    (∀ members, ChecksNames members (Ty.record? members) (.record members) Ty.entries? id) ∧
      (∀ args ret, ChecksNames args (Ty.func? args ret) (.func args ret) Ty.entries? id) ∧
      (∀ members, ChecksNames members (Value.record? members) (.record members)
        Value.members? id) ∧
      (∀ parts, ChecksNames parts (Constraint.distinctParts parts) parts some .duplicateName) ∧
      (∀ expr members, ChecksNames members
        (Constraint.record? expr members : Except ShapeError (Constraint ρ))
        (.record ⟨expr, members⟩) Constraint.parts? .duplicateName) ∧
      (∀ func arg rest ret, ChecksNames (arg :: rest)
        (Constraint.function? func (arg :: rest) ret : Except ShapeError (Constraint ρ))
        (.function ⟨func, arg :: rest, ret⟩) Constraint.parts? .duplicateName) ∧
      (∀ func args ret,
        (Constraint.function? func args ret : Except ShapeError (Constraint ρ)) =
          .error .noArgs ↔ args = []) ∧
      (∀ (item : Type) (entries : List (String × item)),
        FoundByName entries ↔ (entries.map Prod.fst).Nodup) ∧
      (∀ ty : Ty, ty.Obtainable ↔ ty.WellNamed) ∧
      ∀ value : Value, value.Constructible ↔ value.WellNamed := by
  refine ⟨?_, ?_, ?_, ?_, ?_, ?_, ?_, ?_, ?_, ?_⟩
  · exact fun members => checks_distinctNames rfl
  · exact fun args ret => checks_distinctNames rfl
  · exact fun members => checks_distinctNames rfl
  · exact Constraint.checks_distinctParts
  · exact Constraint.checks_record?
  · exact Constraint.checks_function?_cons
  · exact fun func args ret => Constraint.function?_eq_noArgs_iff
  · exact fun item entries => foundByName_iff_distinct
  · exact fun ty => Ty.obtainable_iff
  · exact fun value => Value.constructible_iff

/-- Of several names that repeat, the one that does so first is reported. -/
example : Ty.record? [("a", .text), ("b", .text), ("b", .unknown), ("a", .text)] =
    .error ⟨"b"⟩ := rfl

end Polyflow
