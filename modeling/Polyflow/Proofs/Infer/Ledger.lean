/-
# What is on record stays

Types of expressions are put on record in several books: as declared types, which the
expressions of a graph carry with them, and in any number of solutions. A recording is for
one expression in one book. This module follows all books at once through any sequence of
recordings and says what each of them holds then. The books differ in what they make of an
unknown type, which is not worth declaring, but is kept in a solution; and a constant has
its type from the start. In all else they are alike: what is on record first stays, and
what comes later is compared with it.
-/

import Polyflow.Infer.Context
import Polyflow.Proofs.Infer.Recording
import Mathlib.Data.List.Dedup
import Mathlib.Data.List.Perm.Basic
import Mathlib.Logic.Function.Basic

namespace Polyflow

namespace Context

variable {context : Context} {expr other : Expr} {ty known : Ty}

/-- An unknown type is passed over. -/
theorem declare_of_unknown (silent : ty.isKnown = false) :
    context.declare expr ty = .ok context := by
  rw [declare, silent]
  rfl

/-- What is declared is compared with the type that is known already, which stays. -/
theorem declare_of_known (tells : ty.isKnown = true) (isKnown : context.typeOf? expr = some known) :
    context.declare expr ty =
      if known.Agrees ty then .ok context else .error ⟨known, ty⟩ := by
  rw [declare, if_pos tells, isKnown]
  by_cases agrees : known.Agrees ty
  · simp only [Ty.confirm, if_pos agrees]
    rfl
  · simp only [Ty.confirm, if_neg agrees]
    rfl

/-- Where no type is known, the declared one is stored. -/
theorem declare_of_new (tells : ty.isKnown = true) (isNew : context.typeOf? expr = none) :
    context.declare expr ty =
      .ok { context with declared := context.declared.insert expr.id ty } := by
  rw [declare, if_pos tells, isNew]

/-- A declaration that succeeds leaves the context as it was, or stores a first type. -/
theorem eq_or_of_declare {after : Context} (declares : context.declare expr ty = .ok after) :
    after = context ∨ context.typeOf? expr = none ∧
      after = { context with declared := context.declared.insert expr.id ty } := by
  cases tells : ty.isKnown with
  | false =>
      cases (declare_of_unknown tells).symm.trans declares
      exact .inl rfl
  | true =>
      cases isKnown : context.typeOf? expr with
      | none =>
          cases (declare_of_new tells isKnown).symm.trans declares
          exact .inr ⟨rfl, rfl⟩
      | some known =>
          rw [declare_of_known tells isKnown] at declares
          split at declares <;> cases declares
          exact .inl rfl

/-- The type of a constant is that of its value, and other types are looked up. -/
theorem typeOf?_eq (context : Context) (expr : Expr) :
    context.typeOf? expr = (expr.value?.map Value.ty).or context.declared[expr.id]? := by
  cases expr <;> rfl

theorem typeOf?_insert_self (isNew : context.typeOf? expr = none) :
    { context with declared := context.declared.insert expr.id ty }.typeOf? expr = some ty := by
  obtain ⟨noValue, -⟩ := Option.or_eq_none_iff.mp ((typeOf?_eq context expr).symm.trans isNew)
  rw [typeOf?_eq, noValue, Option.none_or, Std.TreeMap.getElem?_insert_self]

theorem typeOf?_insert_of_ne (differs : expr.id ≠ other.id) :
    { context with declared := context.declared.insert expr.id ty }.typeOf? other =
      context.typeOf? other := by
  simp [typeOf?_eq, Std.TreeMap.getElem?_insert, differs]

/-- What is known stays known when a first type is stored, be it for an expression that has the
same identity. -/
theorem typeOf?_insert_of_known (isNew : context.typeOf? expr = none)
    (isKnown : context.typeOf? other = some known) :
    { context with declared := context.declared.insert expr.id ty }.typeOf? other =
      some known := by
  by_cases same : expr.id = other.id
  · obtain ⟨-, free⟩ := Option.or_eq_none_iff.mp ((typeOf?_eq context expr).symm.trans isNew)
    rw [typeOf?_eq, ← same, free, Option.or_none] at isKnown
    rw [typeOf?_eq, isKnown, Option.some_or]
  · rw [typeOf?_insert_of_ne same, isKnown]

/-- If nothing was declared, only the types of constants are known. -/
theorem typeOf?_of_nothing_declared (context : Context) (expr : Expr) :
    { context with declared := ∅ }.typeOf? expr = expr.value?.map Value.ty := by
  simp [typeOf?_eq]

end Context

namespace Solution

variable {solution : Solution}

theorem get?_mk_insert (expr other : Expr) (ty : Ty) :
    (⟨solution.types.insert expr.id ty⟩ : Solution).get? other =
      if expr.same other then some ty else solution.get? other := by
  simp [get?, Expr.same, Std.TreeMap.getElem?_insert]

/-- A solution has as many types as there are different identities with a type. -/
theorem size_eq_of_mem {ids : List ExprId}
    (stored : ∀ id, solution.types[id]?.isSome ↔ id ∈ ids) :
    solution.size = ids.dedup.length := by
  have sameIds : solution.types.keys.Perm ids.dedup := by
    rw [List.perm_ext_iff_of_nodup Std.TreeMap.nodup_keys ids.nodup_dedup]
    intro id
    rw [List.mem_dedup, ← stored, Std.TreeMap.mem_keys, Std.TreeMap.isSome_getElem?_eq_contains]
    exact Std.TreeMap.contains_iff_mem.symm
  rw [size, ← Std.TreeMap.length_keys, sameIds.length_eq]

end Solution

/-- The expressions of a graph. An identity stands for one expression, and every handle of
that expression has it. -/
structure Graph where
  expr : ExprId → Expr
  id_expr : ∀ id, (expr id).id = id

theorem Graph.same_iff (graph : Graph) {id other : ExprId} :
    (graph.expr id).same (graph.expr other) = true ↔ id = other := by
  simp [Expr.same, graph.id_expr]

/-- Where types of expressions are put on record. -/
inductive Book
  /-- The types declared for the expressions themselves. -/
  | declared
  /-- One of the solutions. -/
  | solution (index : Nat)
deriving DecidableEq

/-- A type that is to be put on record for an expression. -/
structure Recording where
  book : Book
  id : ExprId
  ty : Ty

namespace Recording

/-- Whether a recording tells anything: to declare an unknown type does not. -/
def tells (recording : Recording) : Bool :=
  match recording.book with
  | .declared => recording.ty.isKnown
  | .solution _ => true

/-- Whether a recording is for an expression in a book. -/
def IsFor (recording : Recording) (book : Book) (id : ExprId) : Prop :=
  recording.book = book ∧ recording.id = id

instance (recording : Recording) (book : Book) (id : ExprId) :
    Decidable (recording.IsFor book id) :=
  inferInstanceAs (Decidable (_ ∧ _))

/-- What a recording tells about an expression in a book. -/
def told? (recording : Recording) (book : Book) (id : ExprId) : Option Ty :=
  if recording.IsFor book id ∧ recording.tells then some recording.ty else none

end Recording

/-- All books of a graph. -/
structure Records where
  context : Context := {}
  solutions : Nat → Solution := fun _ => {}

namespace Records

variable (graph : Graph)

/-- The type on record for an expression in a book. -/
def type? (records : Records) (book : Book) (id : ExprId) : Option Ty :=
  match book with
  | .declared => records.context.typeOf? (graph.expr id)
  | .solution index => (records.solutions index).get? (graph.expr id)

/-- Puts a type on record, unless one that it does not agree with is there. -/
def record (records : Records) (recording : Recording) : Except AlreadyKnown Records :=
  match recording.book with
  | .declared =>
    (records.context.declare (graph.expr recording.id) recording.ty).map
      fun context => { records with context }
  | .solution index =>
    ((records.solutions index).insert (graph.expr recording.id) recording.ty).map
      fun solution => { records with solutions := Function.update records.solutions index solution }

/-- The books after a recording. One that fails changes none of them. -/
def next (records : Records) (recording : Recording) : Records :=
  match records.record graph recording with
  | .ok after => after
  | .error _ => records

/-- The books after a sequence of recordings. -/
def after (records : Records) (recordings : List Recording) : Records :=
  recordings.foldl (next graph) records

/-- Writes a type down, whatever is on record. -/
def write (records : Records) (recording : Recording) : Records :=
  match recording.book with
  | .declared =>
    { records with context :=
      { records.context with declared :=
        records.context.declared.insert (graph.expr recording.id).id recording.ty } }
  | .solution index =>
    let types := (records.solutions index).types.insert (graph.expr recording.id).id recording.ty
    { records with solutions := Function.update records.solutions index { types } }

variable {graph} {records : Records} {recording : Recording} {known : Ty} {book : Book}
  {id : ExprId}

/-- A recording that tells nothing succeeds and changes nothing. -/
theorem record_of_silent (silent : recording.tells = false) :
    records.record graph recording = .ok records := by
  rcases recording with ⟨book, id, ty⟩
  cases book with
  | declared =>
      rw [record, Context.declare_of_unknown silent]
      rfl
  | solution index => cases silent

/-- What is on record is compared with what is to be recorded, and stays. -/
theorem record_of_known (tells : recording.tells = true)
    (onRecord : records.type? graph recording.book recording.id = some known) :
    records.record graph recording =
      if known.Agrees recording.ty then .ok records else .error ⟨known, recording.ty⟩ := by
  rcases recording with ⟨book, id, ty⟩
  cases book with
  | declared =>
      simp only [record, Context.declare_of_known tells onRecord]
      split <;> rfl
  | solution index =>
      simp only [record, Solution.insert_of_stored onRecord]
      split
      · rw [Except.map, Function.update_eq_self]
      · rfl

/-- Where nothing is on record, what is to be recorded is written down. -/
theorem record_of_new (tells : recording.tells = true)
    (isNew : records.type? graph recording.book recording.id = none) :
    records.record graph recording = .ok (records.write graph recording) := by
  rcases recording with ⟨book, id, ty⟩
  cases book with
  | declared =>
      simp only [record, Context.declare_of_new tells isNew]
      rfl
  | solution index =>
      simp only [record, Solution.insert_of_new isNew]
      rfl

/-- What is written down is on record for its own expression, in its own book. -/
theorem type?_write (isNew : records.type? graph recording.book recording.id = none)
    (book : Book) (id : ExprId) :
    (records.write graph recording).type? graph book id =
      if recording.IsFor book id then some recording.ty else records.type? graph book id := by
  rcases recording with ⟨place, own, ty⟩
  cases place with
  | declared =>
      cases book with
      | solution index => simp [Recording.IsFor, type?, write]
      | declared =>
          by_cases same : own = id
          · subst same
            simp [Recording.IsFor, type?, write, Context.typeOf?_insert_self isNew]
          · have differs : (graph.expr own).id ≠ (graph.expr id).id := by simpa [graph.id_expr]
            simp [Recording.IsFor, type?, write, same, Context.typeOf?_insert_of_ne differs]
  | solution place =>
      cases book with
      | declared => simp [Recording.IsFor, type?, write]
      | solution index =>
          by_cases same : place = index
          · subst same
            simp [Recording.IsFor, type?, write, Solution.get?_mk_insert, graph.same_iff]
          · simp [Recording.IsFor, type?, write, same, Function.update_of_ne (Ne.symm same)]

/-- A recording leaves the books as they are, unless it tells something where nothing is on
record. -/
theorem next_cases (graph : Graph) (records : Records) (recording : Recording) :
    (records.next graph recording = records ∧
        (recording.tells = true →
          (records.type? graph recording.book recording.id).isSome)) ∨
      (records.next graph recording = records.write graph recording ∧
        recording.tells = true ∧ records.type? graph recording.book recording.id = none) := by
  cases tells : recording.tells with
  | false => exact .inl ⟨by rw [next, record_of_silent tells], nofun⟩
  | true =>
      cases onRecord : records.type? graph recording.book recording.id with
      | none => exact .inr ⟨by rw [next, record_of_new tells onRecord], rfl, rfl⟩
      | some known =>
          refine .inl ⟨?_, fun _ => rfl⟩
          rw [next, record_of_known tells onRecord]
          by_cases agrees : known.Agrees recording.ty
          · rw [if_pos agrees]
          · rw [if_neg agrees]

/-- What is on record stays; what is not yet comes from the recording, if that is for the
expression and the book, and tells something. -/
theorem type?_next (records : Records) (recording : Recording) (book : Book) (id : ExprId) :
    (records.next graph recording).type? graph book id =
      (records.type? graph book id).or (recording.told? book id) := by
  rw [Recording.told?]
  rcases records.next_cases graph recording with ⟨unchanged, known⟩ |
    ⟨written, tells, isNew⟩
  · rw [unchanged]
    split
    case isTrue holds =>
      obtain ⟨⟨rfl, rfl⟩, tells⟩ := holds
      rw [Option.or_of_isSome (known tells)]
    case isFalse => rw [Option.or_none]
  · rw [written, type?_write isNew]
    by_cases isFor : recording.IsFor book id
    · obtain ⟨rfl, rfl⟩ := isFor
      simp [tells, isNew, Recording.IsFor]
    · simp [isFor]

/-- A recording in another book leaves the declared types alone. -/
theorem context_next (other : recording.book ≠ .declared) :
    (records.next graph recording).context = records.context := by
  rcases records.next_cases graph recording with ⟨unchanged, -⟩ | ⟨written, -⟩
  · rw [unchanged]
  · rw [written, write]
    split
    case h_1 isDeclared => exact absurd isDeclared other
    case h_2 => rfl

/-- A recording in another book leaves a solution alone. -/
theorem solutions_next {index : Nat} (other : recording.book ≠ .solution index) :
    (records.next graph recording).solutions index = records.solutions index := by
  rcases records.next_cases graph recording with ⟨unchanged, -⟩ | ⟨written, -⟩
  · rw [unchanged]
  · rw [written, write]
    split
    case h_1 => rfl
    case h_2 place isSolution =>
      have differs : index ≠ place := fun same => other (same ▸ isSolution)
      exact Function.update_of_ne differs _ _

/-- What the first recording that tells something tells about an expression in a book. -/
def firstTold? (recordings : List Recording) (book : Book) (id : ExprId) : Option Ty :=
  recordings.findSome? (·.told? book id)

/-- The expressions for which types are to be recorded in a solution. -/
def recordedIn (recordings : List Recording) (index : Nat) : List ExprId :=
  (recordings.filter (·.book = .solution index)).map (·.id)

/-- What is on record is what was on record at the start, or else the first that was told. -/
theorem type?_after (records : Records) (recordings : List Recording) (book : Book) (id : ExprId) :
    (records.after graph recordings).type? graph book id =
      (records.type? graph book id).or (firstTold? recordings book id) := by
  induction recordings generalizing records with
  | nil => simp [after, firstTold?]
  | cons recording rest ih =>
      have later := ih (records.next graph recording)
      rw [after, List.foldl_cons, ← after, later, type?_next, Option.or_assoc]
      congr 1
      rw [firstTold?, firstTold?, List.findSome?_cons]
      cases recording.told? book id <;> rfl

/-- Solutions are told something by every recording in them. -/
theorem isSome_firstTold?_solution {recordings : List Recording} {index : Nat} {id : ExprId} :
    (firstTold? recordings (.solution index) id).isSome ↔ id ∈ recordedIn recordings index := by
  rw [firstTold?, List.findSome?_isSome_iff, recordedIn, List.mem_map]
  constructor
  · rintro ⟨recording, member, told⟩
    rw [Recording.told?] at told
    split at told
    case isTrue holds =>
      obtain ⟨⟨inBook, rfl⟩, -⟩ := holds
      exact ⟨recording, List.mem_filter.mpr ⟨member, decide_eq_true inBook⟩, rfl⟩
    case isFalse => cases told
  · rintro ⟨recording, member, rfl⟩
    obtain ⟨member, inBook⟩ := List.mem_filter.mp member
    have isSolution := of_decide_eq_true inBook
    have tells : recording.tells = true := by rw [Recording.tells, isSolution]
    refine ⟨recording, member, ?_⟩
    rw [Recording.told?, if_pos ⟨⟨isSolution, rfl⟩, tells⟩]
    rfl

/-- The books before anything is put on record. -/
def unwritten (context : Context) : Records where
  context := { context with declared := ∅ }

/-- What holds of the books after a sequence of recordings. -/
structure WrittenOnce (graph : Graph) (recordings : List Recording) (records : Records) :
    Prop where
  /-- The declared type of a constant is that of its value, and that of any other expression
  is the first known type that was to be declared. -/
  declared : ∀ id, records.type? graph .declared id =
    ((graph.expr id).value?.map Value.ty).or (firstTold? recordings .declared id)
  /-- A solution holds the first type that was to be recorded in it. -/
  solved : ∀ index id,
    records.type? graph (.solution index) id = firstTold? recordings (.solution index) id
  /-- It holds as many types as there were expressions to record a type for. -/
  size : ∀ index, (records.solutions index).size = (recordedIn recordings index).dedup.length
  /-- What is on record stays, whatever is recorded later. -/
  stays : ∀ later book id ty, records.type? graph book id = some ty →
    (records.after graph later).type? graph book id = some ty
  /-- A further recording succeeds exactly if what is on record agrees with it, and otherwise
  names these two. Either way nothing changes. -/
  checked : ∀ recording known, recording.tells = true →
    records.type? graph recording.book recording.id = some known →
      records.record graph recording =
        if known.Agrees recording.ty then .ok records else .error ⟨known, recording.ty⟩
  /-- A first recording succeeds, and what it tells is on record then. -/
  stored : ∀ recording, recording.tells = true →
    records.type? graph recording.book recording.id = none →
      ∃ after, records.record graph recording = .ok after ∧
        after.type? graph recording.book recording.id = some recording.ty
  /-- To declare an unknown type succeeds and changes nothing. -/
  passedOver : ∀ recording, recording.tells = false →
    records.record graph recording = .ok records
  /-- A recording that fails changes nothing. -/
  refused : ∀ recording conflict, records.record graph recording = .error conflict →
    records.next graph recording = records
  /-- A recording concerns one expression only. -/
  ofOthers : ∀ recording book id, ¬ recording.IsFor book id →
    (records.next graph recording).type? graph book id = records.type? graph book id
  /-- What is recorded in a solution leaves the declared types alone. -/
  ofContext : ∀ recording, recording.book ≠ .declared →
    (records.next graph recording).context = records.context
  /-- What is recorded elsewhere leaves a solution alone. -/
  ofSolutions : ∀ recording index, recording.book ≠ .solution index →
    (records.next graph recording).solutions index = records.solutions index

/-- Types are written once, in every book. -/
theorem writtenOnce_after (graph : Graph) (context : Context) (recordings : List Recording) :
    WrittenOnce graph recordings ((unwritten context).after graph recordings) := by
  have solved (index : Nat) (id : ExprId) :
      ((unwritten context).after graph recordings).type? graph (.solution index) id =
        firstTold? recordings (.solution index) id := by
    have empty : (unwritten context).type? graph (.solution index) id = none := by
      simp [type?, unwritten, Solution.get?]
    rw [type?_after, empty, Option.none_or]
  refine {
    solved := solved
    declared := fun id => ?_
    size := fun index => ?_
    stays := fun later book id ty onRecord => ?_
    checked := fun recording known => record_of_known
    stored := fun recording tells isNew => ⟨_, record_of_new tells isNew, ?_⟩
    passedOver := fun recording => record_of_silent
    refused := fun recording conflict fails => ?_
    ofOthers := fun recording book id other => ?_
    ofContext := fun recording => context_next
    ofSolutions := fun recording index => solutions_next }
  · have start : (unwritten context).type? graph .declared id =
        (graph.expr id).value?.map Value.ty :=
      Context.typeOf?_of_nothing_declared context (graph.expr id)
    rw [type?_after, start]
  · refine Solution.size_eq_of_mem fun id => ?_
    have held := solved index id
    rw [type?, Solution.get?, graph.id_expr] at held
    rw [held, isSome_firstTold?_solution]
  · rw [type?_after, onRecord, Option.some_or]
  · rw [type?_write isNew, if_pos ⟨rfl, rfl⟩]
  · rw [next, fails]
  · rw [type?_next, Recording.told?, if_neg fun both => other both.1, Option.or_none]

/-- A constant keeps the type of its value, and a solution an unknown type. -/
example :
    let graph : Graph := ⟨fun id => if id = 0 then .literal 0 (.text "a") else .symbol id "b",
      fun id => by split <;> simp_all [Expr.id]⟩
    let recordings : List Recording := [⟨.declared, 0, .prim .int⟩, ⟨.declared, 1, .unknown⟩,
      ⟨.solution 2, 1, .unknown⟩, ⟨.declared, 1, .prim .int⟩, ⟨.solution 2, 1, .text⟩]
    let records := ({} : Records).after graph recordings
    records.type? graph .declared 0 = some .text ∧
      records.type? graph .declared 1 = some (.prim .int) ∧
      records.type? graph (.solution 2) 1 = some .unknown ∧
      (records.solutions 2).size = 1 := by
  refine ⟨rfl, rfl, rfl, rfl⟩

end Records

end Polyflow
