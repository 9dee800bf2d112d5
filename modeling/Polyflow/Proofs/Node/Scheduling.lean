/-
# The scheduled run

The run of a schedule is one of the interleavings of a node and its environment, so what holds
of all of them holds of it. Besides, it is long enough. Each action in it takes something off
what is left to do, and it has as many turns as there is to do at the start. When it is over,
the node has stopped, unless all that ended the run was that the input was closed, and the node
offers a result that the output has no room for. A consumer that wants everything receives what
the records call for when they are processed one after the other.
-/

import Polyflow.Node.Schedule
import Polyflow.Proofs.Node.Interleaving
import Mathlib.Data.List.Induction

namespace Polyflow.Node

open Polyflow.Lookup

variable {setup : Setup} {loop next : Loop} {action : Action} {preferred : Loop → List Action}

namespace Loop

theorem step?_of_moves (moves : loop.Moves setup action next) :
    loop.step? setup action = some next := by
  cases moves with
  | quit runs fired =>
      cases isPhase : loop.phase with
      | ended outcome => exact absurd isPhase (runs outcome)
      | _ => simp [step?, isPhase, fired]
  | _ => simp [step?, *]

theorem not_moves_of_idle (idle : loop.step? setup action = none) (next : Loop) :
    ¬ loop.Moves setup action next := by
  intro moves
  rw [step?_of_moves moves] at idle
  cases idle

/-- A node that waits and cannot take a record has taken all of them. -/
theorem noRecord_of_idle (idle : loop.step? setup .take = none) (waits : loop.phase = .waiting) :
    loop.appended[loop.taken]? = none := by
  cases isNext : loop.appended[loop.taken]? with
  | none => rfl
  | some input => exact absurd (.take waits isNext) (not_moves_of_idle idle _)

/-- One of the actions is done, unless none of them is possible. -/
theorem doFirst_cases (setup : Setup) (actions : List Action) (loop : Loop) :
    (∃ action ∈ actions, loop.step? setup action = some (loop.doFirst setup actions)) ∨
      loop.doFirst setup actions = loop ∧ ∀ action ∈ actions, loop.step? setup action = none := by
  rw [doFirst]
  cases found : actions.findSome? (loop.step? setup) with
  | none => exact .inr ⟨rfl, List.findSome?_eq_none_iff.mp found⟩
  | some next =>
      obtain ⟨action, member, possible⟩ := List.exists_of_findSome?_eq_some found
      exact .inl ⟨action, member, possible⟩

/-- What every preferred action preserves, any number of them preserves. -/
theorem doOften_of_step (holds : Loop → Prop)
    (keeps : ∀ loop next action, holds loop → action ∈ preferred loop →
      loop.step? setup action = some next → holds next)
    (start : holds loop) (times : Nat) : holds (loop.doOften setup preferred times) := by
  induction times generalizing loop with
  | zero => exact start
  | succ times ih =>
      apply ih
      rcases loop.doFirst_cases setup (preferred loop) with ⟨action, member, possible⟩ | ⟨same, -⟩
      · exact keeps loop _ action start member possible
      · rwa [same]

/-- Where none of the preferred actions is possible, nothing happens. -/
theorem doOften_of_idle (idle : ∀ action ∈ preferred loop, loop.step? setup action = none)
    (times : Nat) : loop.doOften setup preferred times = loop := by
  induction times with
  | zero => rfl
  | succ times ih =>
      have same : loop.doFirst setup (preferred loop) = loop := by
        rw [doFirst, List.findSome?_eq_none_iff.mpr idle, Option.getD_none]
      rw [doOften, same, ih]

end Loop

/-- The input may hold records before anything else happens. -/
theorem Reachable.of_appended (setup : Setup) (records : List Value) :
    Reachable setup { appended := records } := by
  induction records using List.reverseRecOn with
  | nil => exact .start
  | append_singleton records input before => exact before.act (.append input) rfl

theorem Reachable.doFirst (before : Reachable setup loop) (actions : List Action) :
    Reachable setup (loop.doFirst setup actions) := by
  rcases loop.doFirst_cases setup actions with ⟨action, -, possible⟩ | ⟨same, -⟩
  · exact before.act action possible
  · rwa [same]

theorem Reachable.doAll (before : Reachable setup loop) (actions : List Action) :
    Reachable setup (loop.doAll setup actions) := by
  induction actions generalizing loop with
  | nil => exact before
  | cons action rest ih => exact ih (before.doFirst [action])

theorem Reachable.doOften (before : Reachable setup loop) (times : Nat) :
    Reachable setup (loop.doOften setup preferred times) :=
  Loop.doOften_of_step (Reachable setup)
    (fun _ _ action before _ possible => before.act action possible) before times

/-- The run of a schedule is one of the interleavings. -/
theorem reachable_run (setup : Setup) (records : List Value) (wanted : Option Nat)
    (ending : Ending) : Reachable setup (.run setup records wanted ending) :=
  (((Reachable.of_appended setup records).doOften _).doAll ending.actions).doOften _

/-- Whether an action takes something off what is left to do. Of the actions of the
environment only receiving does. -/
def Action.works : Action → Bool
  | .append _ | .closeInput | .cancel | .dropSource | .abandon => false
  | _ => true

/-- How many actions may still follow before the next record is taken: a result that is on
offer is handed over and received, and then the node may stop. -/
def Phase.work : Phase → Nat
  | .waiting => 1
  | .offering _ => 3
  | .ended _ => 0

@[simp]
theorem Phase.work_waiting : Phase.waiting.work = 1 := rfl

@[simp]
theorem Phase.work_offering (result : Value) : (Phase.offering result).work = 3 := rfl

@[simp]
theorem Phase.work_ended (outcome : Except StreamError Exit) : (Phase.ended outcome).work = 0 := rfl

theorem Phase.work_le_three (phase : Phase) : phase.work ≤ 3 := by
  cases phase <;> simp

/-- What the environment alone decides. -/
abbrev Surroundings : Type :=
  List Value × Bool × Bool × CancelSource

/-- What a consumer leaves behind that ends a run in some way. -/
def Ending.surroundings (records : List Value) : Ending → Surroundings
  | .close => (records, true, true, .armed)
  | .cancel => (records, false, true, .cancelled)
  | .dropSource => (records, false, true, .dropped)
  | .detach => (records, true, false, .armed)

namespace Loop

/-- How many actions of those that work may follow, if the environment does nothing else. A
record that is taken may lead to a result, which is handed over and received. -/
def work (loop : Loop) : Nat :=
  3 * (loop.appended.length - loop.taken) + loop.phase.work + (loop.handed.length - loop.received)

/-- The records in the input, whether it is closed, whether somebody listens, and the source of
the cancel signal. -/
def surroundings (loop : Loop) : Surroundings :=
  (loop.appended, loop.inputClosed, loop.listening, loop.source)

theorem works_of_attended (wanted : Option Nat) (loop : Loop) :
    ∀ action ∈ loop.attended wanted, action.works = true := by
  rw [attended]
  split <;> simp [Action.works]

theorem works_of_unattended (loop : Loop) : ∀ action ∈ loop.unattended, action.works = true := by
  simp [unattended, Action.works]

/-- A record that is processed changes what the node remembers and does, and nothing else. -/
theorem exists_process (setup : Setup) (loop : Loop) (input : Value) :
    ∃ exec phase, loop.process setup input = { loop with exec, phase, taken := loop.taken + 1 } := by
  cases stepped : loop.exec.step setup.out input with
  | error error => exact ⟨_, _, process_of_error stepped⟩
  | ok outcome => exact ⟨_, _, process_of_ok stepped⟩

theorem surroundings_step (works : action.works = true) (moves : loop.Moves setup action next) :
    next.surroundings = loop.surroundings := by
  cases moves with
  | append | closeInput | cancel | dropSource | abandon => cases works
  | @take input =>
      obtain ⟨exec, phase, processed⟩ := loop.exists_process setup input
      rw [processed]
      rfl
  | _ => rfl

theorem work_step (works : action.works = true) (moves : loop.Moves setup action next) :
    next.work < loop.work := by
  cases moves with
  | append | closeInput | cancel | dropSource | abandon => cases works
  | @take input waits isNext =>
      have within : loop.taken < loop.appended.length := (List.getElem?_eq_some_iff.mp isNext).1
      obtain ⟨exec, phase, processed⟩ := loop.exists_process setup input
      have bound := phase.work_le_three
      simp only [processed, work, waits, Phase.work_waiting]
      omega
  | finish waits => simp [work, stop, waits]
  | quit runs =>
      have stillRuns : 0 < loop.phase.work := by
        cases isPhase : loop.phase with
        | ended outcome => exact absurd isPhase (runs outcome)
        | _ => simp
      simp only [work, stop, Phase.work_ended]
      omega
  | hand offers =>
      simp only [work, offers, Phase.work_waiting, Phase.work_offering, List.length_append,
        List.length_singleton]
      omega
  | meet offers => simp [work, offers]
  | detach offers => simp [work, stop, offers]
  | receive listens waits =>
      simp only [work]
      omega

section Working

variable (works : ∀ loop, ∀ action ∈ preferred loop, action.works = true)
include works

theorem surroundings_doOften (setup : Setup) (loop : Loop) (times : Nat) :
    (loop.doOften setup preferred times).surroundings = loop.surroundings := by
  refine doOften_of_step (·.surroundings = loop.surroundings) ?_ rfl times
  intro before next action same member possible
  rw [surroundings_step (works before action member) (moves_of_step? possible), same]

theorem work_doOften_le (setup : Setup) (loop : Loop) (times : Nat) :
    (loop.doOften setup preferred times).work ≤ loop.work := by
  refine doOften_of_step (·.work ≤ loop.work) ?_ (Nat.le_refl _) times
  intro before next action bound member possible
  have less := work_step (works before action member) (moves_of_step? possible)
  omega

/-- As many turns as there is to do are enough: after them no preferred action is possible. -/
theorem idle_doOften (setup : Setup) {times : Nat} (enough : loop.work ≤ times) :
    ∀ action ∈ preferred (loop.doOften setup preferred times),
      (loop.doOften setup preferred times).step? setup action = none := by
  induction times generalizing loop with
  | zero =>
      intro action member
      cases possible : loop.step? setup action with
      | none => exact possible
      | some next =>
          have less := work_step (works loop action member) (moves_of_step? possible)
          omega
  | succ times ih =>
      rcases loop.doFirst_cases setup (preferred loop) with
        ⟨action, member, possible⟩ | ⟨same, idle⟩
      · have less := work_step (works loop action member) (moves_of_step? possible)
        exact ih (by omega)
      · rw [doOften, same, doOften_of_idle idle]
        exact idle

end Working

theorem work_of_appended (records : List Value) :
    ({ appended := records } : Loop).work = 3 * records.length + 1 := rfl

/-- To end a run takes no work off the node and gives it none. -/
theorem work_ending (setup : Setup) (ending : Ending) (loop : Loop) :
    (loop.doAll setup ending.actions).work = loop.work := by
  cases ending <;> rfl

/-- A scheduled run goes on until the node can do nothing more. -/
theorem idle_run (setup : Setup) (records : List Value) (wanted : Option Nat) (ending : Ending) :
    ∀ action ∈ (run setup records wanted ending).unattended,
      (run setup records wanted ending).step? setup action = none := by
  apply idle_doOften works_of_unattended
  rw [work_ending]
  exact work_doOften_le (works_of_attended wanted) setup _ _

theorem surroundings_run (setup : Setup) (records : List Value) (wanted : Option Nat)
    (ending : Ending) :
    (run setup records wanted ending).surroundings = ending.surroundings records := by
  have attendedTo : (({ appended := records } : Loop).doOften setup (attended wanted)
      (3 * records.length + 1)).surroundings = (records, false, true, .armed) :=
    surroundings_doOften (works_of_attended wanted) setup _ _
  rw [run, surroundings_doOften works_of_unattended]
  simp only [surroundings, Prod.mk.injEq] at attendedTo
  obtain ⟨appended, inputClosed, listening, source⟩ := attendedTo
  cases ending <;>
    simp [surroundings, Ending.surroundings, Ending.actions, doAll, doFirst, step?,
      CancelSource.cancel, CancelSource.drop, appended, inputClosed, listening, source]

/-- When a scheduled run is over, the node has stopped, or it offers a result that the output has
no room for. -/
theorem run_ends (setup : Setup) (records : List Value) (wanted : Option Nat) (ending : Ending) :
    (∃ outcome, (run setup records wanted ending).outcome? = some outcome) ∨
      ending = .close ∧ (run setup records wanted ending).hasRoom setup = false ∧
        ∃ result, (run setup records wanted ending).phase = .offering result := by
  have idle := idle_run setup records wanted ending
  have environment := surroundings_run setup records wanted ending
  generalize run setup records wanted ending = loop at idle environment
  have stuck (action : Action) (member : action ∈ loop.unattended) :=
    not_moves_of_idle (idle action member)
  have unfired (runs : ∀ outcome, loop.phase ≠ .ended outcome) : loop.source.fired ≠ true :=
    fun fired => stuck .quit (by simp [unattended]) _ (.quit runs fired)
  cases isPhase : loop.phase with
  | ended outcome => exact .inl ⟨outcome, by rw [outcome?, isPhase]⟩
  | waiting =>
      have drained := noRecord_of_idle (idle .take (by simp [unattended])) isPhase
      have isOpen : loop.inputClosed ≠ true :=
        fun closed => stuck .finish (by simp [unattended]) _ (.finish isPhase drained closed)
      have unfired := unfired (by simp [isPhase])
      cases ending with
      | close | detach => exact absurd (congrArg (·.2.1) environment) isOpen
      | cancel | dropSource =>
          exact absurd (congrArg (·.2.2.2.fired) environment) unfired
  | offering result =>
      have listens : loop.listening ≠ false :=
        fun nobody => stuck .detach (by simp [unattended]) _ (.detach isPhase nobody)
      have full : loop.hasRoom setup ≠ true := fun room =>
        stuck .hand (by simp [unattended]) _ (.hand isPhase (Bool.not_eq_false _ ▸ listens) room)
      have unfired := unfired (by simp [isPhase])
      cases ending with
      | close => exact .inr ⟨rfl, Bool.not_eq_true _ ▸ full, result, rfl⟩
      | detach => exact absurd (congrArg (·.2.2.1) environment) listens
      | cancel | dropSource =>
          exact absurd (congrArg (·.2.2.2.fired) environment) unfired

/-- All records are processed, and all results were received. -/
structure Drained (loop : Loop) : Prop where
  noRecord : loop.phase = .waiting → loop.appended[loop.taken]? = none
  noOffer : ∀ result, loop.phase ≠ .offering result
  noBacklog : loop.handed.length ≤ loop.received

theorem Drained.step (drained : loop.Drained) (works : action.works = true)
    (moves : loop.Moves setup action next) : next.Drained := by
  cases moves with
  | append | closeInput | cancel | dropSource | abandon => cases works
  | take waits isNext =>
      rw [drained.noRecord waits] at isNext
      cases isNext
  | finish | quit => exact ⟨nofun, nofun, drained.noBacklog⟩
  | hand offers | meet offers | detach offers => exact absurd offers (drained.noOffer _)
  | receive listens waits => exact absurd waits (Nat.not_lt_of_le drained.noBacklog)

/-- A consumer that wants everything leaves nothing undone while it listens. -/
theorem drained_of_attended (listens : loop.listening = true)
    (idle : ∀ action ∈ loop.attended none, loop.step? setup action = none) : loop.Drained := by
  have stuck (action : Action) (member : action ∈ loop.attended none) :=
    not_moves_of_idle (idle action member)
  have noBacklog : loop.handed.length ≤ loop.received := Nat.le_of_not_lt fun waits =>
    stuck .receive (by simp [attended]) _ (.receive listens waits)
  refine ⟨noRecord_of_idle (idle .take (by simp [attended])), fun result offers => ?_, noBacklog⟩
  have indirect : setup.capacity ≠ some 0 :=
    fun direct => stuck .meet (by simp [attended]) _ (.meet offers listens direct)
  have room : loop.hasRoom setup = true := by
    rw [hasRoom, Nat.sub_eq_zero_of_le noBacklog]
    cases isCapacity : setup.capacity with
    | none => rfl
    | some limit =>
        have positive : 0 < limit :=
          Nat.pos_of_ne_zero fun isZero => indirect (isZero ▸ isCapacity)
        exact decide_eq_true positive
  exact stuck .hand (by simp [attended]) _ (.hand offers listens room)

/-- A consumer that wants everything and then closes the input leaves nothing undone. -/
theorem drained_run (setup : Setup) (records : List Value) :
    (run setup records none .close).Drained := by
  have attendedTo := surroundings_doOften (works_of_attended none) setup
    { appended := records } (3 * records.length + 1)
  have idle := idle_doOften (works_of_attended none) setup
    (Nat.le_of_eq (work_of_appended records))
  rw [run]
  generalize doOften setup (attended none) (3 * records.length + 1) { appended := records } = loop
    at attendedTo idle ⊢
  have drained := drained_of_attended (congrArg (·.2.2.1) attendedTo) idle
  have closed : (loop.doAll setup Ending.close.actions).Drained :=
    ⟨drained.noRecord, drained.noOffer, drained.noBacklog⟩
  refine doOften_of_step Drained ?_ closed _
  intro before next action drained member possible
  exact drained.step (works_of_unattended before action member) (moves_of_step? possible)

/-- A consumer that wants everything and then closes the input receives what the records call
for when they are processed one after the other, and the node stops as they do. -/
theorem run_of_all (setup : Setup) (records : List Value) :
    (run setup records none .close).receivedResults =
        emissions (Exec.trace setup.out {} records) ∧
      (run setup records none .close).outcome? =
        some (endOf (Exec.trace setup.out {} records)) := by
  have sound := (reachable_run setup records none .close).sound
  have environment := surroundings_run setup records none .close
  have drained := drained_run setup records
  have ends := run_ends setup records none .close
  generalize run setup records none .close = loop at sound environment drained ends ⊢
  have appended : loop.appended = records := congrArg (·.1) environment
  have listens : loop.listening = true := congrArg (·.2.2.1) environment
  have unfired : loop.source.fired = false := congrArg (·.2.2.2.fired) environment
  rw [receivedResults, List.take_of_length_le drained.noBacklog, ← appended]
  rcases ends with ⟨outcome, stopped⟩ | ⟨-, -, result, offers⟩
  · have accounts := sound.accounts
    rw [phase_of_outcome? stopped] at accounts
    cases outcome with
    | error error =>
        obtain ⟨ends, handed⟩ := sound.of_failed stopped
        exact ⟨handed, by rw [stopped, ends]⟩
    | ok exit =>
        cases exit with
        | closed =>
            obtain ⟨-, ends, handed⟩ := sound.of_closed stopped
            exact ⟨handed, by rw [stopped, ends]⟩
        | cancelled => exact absurd (accounts.1.symm.trans unfired) (by simp)
        | detached => exact absurd (accounts.1.symm.trans listens) (by simp)
  · exact absurd offers (drained.noOffer result)

end Loop

end Polyflow.Node
