/-
# A node under every interleaving

Whatever turns a node and its environment take, what the node hands over is a
beginning of what the same records call for when they are processed one after the
other. The only result that can be lost is the one on offer when the node stops: it
counts as emitted for the node as soon as it is offered. And the node stops for no
other reason than it says.
-/

import Polyflow.Node.Loop
import Polyflow.Proofs.Lookup.Beginnings

namespace Polyflow.Node

open Polyflow.Lookup

variable {setup : Setup} {loop next : Loop} {action : Action}

/-- The states that a node and its environment can come to from the start, in any
number of actions and in any order of them. -/
inductive Reachable (setup : Setup) : Loop → Prop
  | start : Reachable setup {}
  | act {loop next : Loop} (action : Action) (before : Reachable setup loop)
      (possible : loop.step? setup action = some next) : Reachable setup next

/-- The state after some actions, if each was possible when its turn came. -/
def Loop.steps? (setup : Setup) (loop : Loop) (actions : List Action) : Option Loop :=
  actions.foldlM (fun loop action => loop.step? setup action) loop

theorem Reachable.steps (before : Reachable setup loop) {actions : List Action}
    (possible : loop.steps? setup actions = some next) : Reachable setup next := by
  induction actions generalizing loop with
  | nil =>
      cases possible
      exact before
  | cons action rest ih =>
      rw [Loop.steps?, List.foldlM_cons] at possible
      obtain ⟨middle, first, possible⟩ := Option.bind_eq_some_iff.mp possible
      exact ih (before.act action first) possible

/-- The actions that are possible in a state, and what each of them leads to. -/
inductive Loop.Moves (setup : Setup) (loop : Loop) : Action → Loop → Prop
  | take {input : Value} (waits : loop.phase = .waiting)
      (isNext : loop.appended[loop.taken]? = some input) :
      Moves setup loop .take (loop.process setup input)
  | finish (waits : loop.phase = .waiting) (drained : loop.appended[loop.taken]? = none)
      (closed : loop.inputClosed = true) : Moves setup loop .finish (loop.stop (.ok .closed))
  | quit (runs : ∀ outcome, loop.phase ≠ .ended outcome) (fired : loop.source.fired = true) :
      Moves setup loop .quit (loop.stop (.ok .cancelled))
  | hand {result : Value} (offers : loop.phase = .offering result) (listens : loop.listening = true)
      (room : loop.hasRoom setup = true) :
      Moves setup loop .hand { loop with handed := loop.handed ++ [result], phase := .waiting }
  | meet {result : Value} (offers : loop.phase = .offering result) (listens : loop.listening = true)
      (direct : setup.capacity = some 0) :
      Moves setup loop .meet { loop with
        handed := loop.handed ++ [result], received := loop.received + 1, phase := .waiting }
  | detach {result : Value} (offers : loop.phase = .offering result)
      (nobody : loop.listening = false) : Moves setup loop .detach (loop.stop (.ok .detached))
  | append (input : Value) (isOpen : loop.inputClosed = false) :
      Moves setup loop (.append input) { loop with appended := loop.appended ++ [input] }
  | closeInput : Moves setup loop .closeInput { loop with inputClosed := true }
  | cancel : Moves setup loop .cancel { loop with source := loop.source.cancel }
  | dropSource : Moves setup loop .dropSource { loop with source := loop.source.drop }
  | receive (listens : loop.listening = true) (waits : loop.received < loop.handed.length) :
      Moves setup loop .receive { loop with received := loop.received + 1 }
  | abandon : Moves setup loop .abandon { loop with listening := false }

theorem moves_of_step? (possible : loop.step? setup action = some next) :
    loop.Moves setup action next := by
  revert possible
  fun_cases Loop.step? loop setup action <;> intro possible <;> cases possible
  case case1 input isNext waits => exact .take waits isNext
  case case3 drained waits closed => exact .finish waits drained closed
  case case7 fired runs => exact .quit (fun outcome isEnded => runs outcome isEnded) fired
  case case9 result offers free =>
    rw [Bool.and_eq_true] at free
    exact .hand offers free.1 free.2
  case case12 result offers free =>
    rw [Bool.and_eq_true, beq_iff_eq] at free
    exact .meet offers free.1 free.2
  case case16 result offers nobody => exact .detach offers (Bool.not_eq_true _ ▸ nobody)
  case case19 input isOpen => exact .append input (Bool.not_eq_true _ ▸ isOpen)
  case case20 => exact .closeInput
  case case21 => exact .cancel
  case case22 => exact .dropSource
  case case23 waits =>
    rw [Bool.and_eq_true, decide_eq_true_iff] at waits
    exact .receive waits.1 waits.2
  case case25 => exact .abandon

namespace Loop

/-- The records that the node has taken. -/
def consumed (loop : Loop) : List Value :=
  loop.appended.take loop.taken

/-- What the records that the node has taken call for. -/
def due (setup : Setup) (loop : Loop) : List Value :=
  emissions (Exec.trace setup.out {} loop.consumed)

/-- The node remembers what it would after the records it has taken. -/
def InStep (setup : Setup) (loop : Loop) : Prop :=
  Exec.after setup.out {} loop.consumed = .ok loop.exec

/-- How what was handed over stands to what is due, and why the node has come to this
phase. -/
def Accounts (setup : Setup) (loop : Loop) : Phase → Prop
  | .waiting => loop.InStep setup ∧ loop.due setup = loop.handed
  | .offering result => loop.InStep setup ∧ loop.due setup = loop.handed ++ [result]
  | .ended (.ok .closed) =>
    (loop.inputClosed = true ∧ loop.taken = loop.appended.length) ∧
      loop.InStep setup ∧ loop.due setup = loop.handed
  | .ended (.ok .cancelled) =>
    loop.source.fired = true ∧
      ∃ pending : Option Value, loop.due setup = loop.handed ++ pending.toList
  | .ended (.ok .detached) =>
    loop.listening = false ∧ ∃ result, loop.due setup = loop.handed ++ [result]
  | .ended (.error error) =>
    Exec.after setup.out {} loop.consumed = .error error ∧ loop.due setup = loop.handed

/-- What every action preserves. -/
structure Sound (setup : Setup) (loop : Loop) : Prop where
  taken : loop.taken ≤ loop.appended.length
  received : loop.received ≤ loop.handed.length
  room : ∀ limit ∈ setup.capacity, loop.handed.length ≤ loop.received + limit
  accounts : loop.Accounts setup loop.phase

/-- An action of the environment: it leaves alone what the node remembers and has taken,
and opens nothing that was closed. -/
structure Surrounds (loop next : Loop) : Prop where
  exec : next.exec = loop.exec
  consumed : next.consumed = loop.consumed
  handed : next.handed = loop.handed
  closed : loop.inputClosed = true →
    next.inputClosed = true ∧ next.taken = loop.taken ∧ next.appended = loop.appended
  fired : loop.source.fired = true → next.source.fired = true
  nobody : loop.listening = false → next.listening = false

theorem Accounts.of_surrounds {phase : Phase} (accounts : loop.Accounts setup phase)
    (surrounds : loop.Surrounds next) : next.Accounts setup phase := by
  have inStep : loop.InStep setup → next.InStep setup := by
    rw [InStep, InStep, surrounds.consumed, surrounds.exec]
    exact id
  have due : next.due setup = loop.due setup := by
    rw [Loop.due, Loop.due, surrounds.consumed]
  fun_cases Accounts setup next phase with
  | case1 => exact ⟨inStep accounts.1, by rw [due, surrounds.handed, accounts.2]⟩
  | case2 result => exact ⟨inStep accounts.1, by rw [due, surrounds.handed, accounts.2]⟩
  | case3 =>
      rcases accounts with ⟨⟨isClosed, all⟩, was, same⟩
      obtain ⟨stays, taken, appended⟩ := surrounds.closed isClosed
      exact ⟨⟨stays, by rw [taken, appended, all]⟩, inStep was, by rw [due, surrounds.handed, same]⟩
  | case4 =>
      rcases accounts with ⟨fired, pending, same⟩
      exact ⟨surrounds.fired fired, pending, by rw [due, surrounds.handed, same]⟩
  | case5 =>
      rcases accounts with ⟨nobody, result, same⟩
      exact ⟨surrounds.nobody nobody, result, by rw [due, surrounds.handed, same]⟩
  | case6 error =>
      exact ⟨surrounds.consumed ▸ accounts.1, by rw [due, surrounds.handed, accounts.2]⟩

/-- At most one result is due and was not handed over: the one on offer, or the one that
was on offer when the node stopped. -/
theorem Accounts.pending {phase : Phase} (accounts : loop.Accounts setup phase) :
    ∃ pending : Option Value, loop.due setup = loop.handed ++ pending.toList := by
  have nothing (same : loop.due setup = loop.handed) :
      ∃ pending : Option Value, loop.due setup = loop.handed ++ pending.toList :=
    ⟨none, same.trans (List.append_nil _).symm⟩
  fun_cases Accounts setup loop phase with
  | case1 => exact nothing accounts.2
  | case2 result => exact ⟨some result, accounts.2⟩
  | case3 => exact nothing accounts.2.2
  | case4 => exact accounts.2
  | case5 =>
      rcases accounts with ⟨-, result, due⟩
      exact ⟨some result, due⟩
  | case6 error => exact nothing accounts.2

/-- The environment makes nothing unsound. -/
theorem Sound.of_surrounds (sound : loop.Sound setup) (surrounds : loop.Surrounds next)
    (phase : next.phase = loop.phase) (taken : next.taken ≤ next.appended.length)
    (received : next.received ≤ next.handed.length) (more : loop.received ≤ next.received) :
    next.Sound setup where
  taken := taken
  received := received
  room limit isLimit := by
    have bound := sound.room limit isLimit
    rw [surrounds.handed]
    omega
  accounts := phase ▸ sound.accounts.of_surrounds surrounds

theorem process_of_ok {input : Value} {exec : Exec} {emitted : Option Value}
    (stepped : loop.exec.step setup.out input = .ok (exec, emitted)) :
    loop.process setup input =
      { loop with exec, taken := loop.taken + 1, phase := emitted.elim loop.phase .offering } := by
  simp only [process, stepped]
  cases emitted <;> rfl

theorem process_of_error {input : Value} {error : StreamError}
    (fails : loop.exec.step setup.out input = .error error) :
    loop.process setup input =
      { loop with taken := loop.taken + 1, phase := .ended (.error error) } := by
  simp only [process, fails]
  rfl

/-- Nor does the node when it takes a record. -/
theorem Sound.process (sound : loop.Sound setup) (waits : loop.phase = .waiting) {input : Value}
    (isNext : loop.appended[loop.taken]? = some input) :
    (loop.process setup input).Sound setup := by
  have within : loop.taken < loop.appended.length := (List.getElem?_eq_some_iff.mp isNext).1
  have oneMore : loop.appended.take (loop.taken + 1) = loop.consumed ++ [input] := by
    rw [List.take_add_one, isNext]
    rfl
  have accounts := sound.accounts
  rw [waits] at accounts
  rcases accounts with ⟨inStep, due⟩
  cases stepped : loop.exec.step setup.out input with
  | error error =>
      obtain ⟨ended, same⟩ := after_concat_of_error inStep stepped
      rw [← oneMore] at ended same
      rw [process_of_error stepped]
      exact ⟨within, sound.received, sound.room, ended, same.trans due⟩
  | ok outcome =>
      obtain ⟨inStep', same⟩ := after_concat_of_ok inStep stepped
      rw [← oneMore] at inStep' same
      rw [process_of_ok stepped]
      refine ⟨within, sound.received, sound.room, ?_⟩
      have due' := same.trans (congrArg (· ++ outcome.2.toList) due)
      cases emitted : outcome.2 with
      | none =>
          rw [emitted] at due'
          rw [waits]
          exact ⟨inStep', due'.trans (List.append_nil _)⟩
      | some result =>
          rw [emitted] at due'
          exact ⟨inStep', due'⟩

/-- The node makes nothing unsound when it passes its result on. -/
theorem Sound.passOn (sound : loop.Sound setup) {result : Value}
    (offers : loop.phase = .offering result) {received : Nat}
    (enough : received ≤ loop.handed.length + 1)
    (room : ∀ limit ∈ setup.capacity, loop.handed.length + 1 ≤ received + limit) :
    ({ loop with handed := loop.handed ++ [result], received, phase := .waiting } : Loop).Sound
      setup := by
  have accounts := sound.accounts
  rw [offers] at accounts
  refine ⟨sound.taken, ?_, ?_, accounts⟩
  · simpa using enough
  · simpa using room

/-- An action preserves soundness. -/
theorem Sound.step (sound : loop.Sound setup) (moves : loop.Moves setup action next) :
    next.Sound setup := by
  have accounts := sound.accounts
  have received := sound.received
  cases moves with
  | take waits isNext => exact sound.process waits isNext
  | finish waits drained closed =>
      rw [waits] at accounts
      have all : loop.taken = loop.appended.length :=
        Nat.le_antisymm sound.taken (List.getElem?_eq_none_iff.mp drained)
      exact ⟨sound.taken, sound.received, sound.room, ⟨closed, all⟩, accounts⟩
  | quit runs fired =>
      exact ⟨sound.taken, sound.received, sound.room, fired, accounts.pending⟩
  | hand offers listens room =>
      apply sound.passOn offers (by omega)
      intro limit isLimit
      rw [hasRoom, Option.mem_def.mp isLimit, Option.all_some, decide_eq_true_iff] at room
      omega
  | meet offers listens direct =>
      apply sound.passOn offers (by omega)
      intro limit isLimit
      have bound := sound.room limit isLimit
      omega
  | detach offers nobody =>
      rw [offers] at accounts
      exact ⟨sound.taken, sound.received, sound.room, nobody, _, accounts.2⟩
  | append input isOpen =>
      have surrounds : loop.Surrounds { loop with appended := loop.appended ++ [input] } := by
        refine ⟨rfl, List.take_append_of_le_length sound.taken, rfl, fun closed => ?_, id, id⟩
        rw [isOpen] at closed
        cases closed
      apply sound.of_surrounds surrounds rfl _ received (Nat.le_refl _)
      have bound := sound.taken
      simp only [List.length_append, List.length_singleton]
      omega
  | closeInput =>
      exact sound.of_surrounds ⟨rfl, rfl, rfl, fun _ => ⟨rfl, rfl, rfl⟩, id, id⟩ rfl sound.taken
        received (Nat.le_refl _)
  | cancel =>
      have fires : loop.source.fired = true → loop.source.cancel.fired = true := by
        cases loop.source <;> simp [CancelSource.fired, CancelSource.cancel]
      exact sound.of_surrounds ⟨rfl, rfl, rfl, fun closed => ⟨closed, rfl, rfl⟩, fires, id⟩ rfl
        sound.taken received (Nat.le_refl _)
  | dropSource =>
      exact sound.of_surrounds ⟨rfl, rfl, rfl, fun closed => ⟨closed, rfl, rfl⟩, fun _ => rfl, id⟩
        rfl sound.taken received (Nat.le_refl _)
  | receive listens waits =>
      exact sound.of_surrounds ⟨rfl, rfl, rfl, fun closed => ⟨closed, rfl, rfl⟩, id, id⟩ rfl
        sound.taken waits (Nat.le_succ _)
  | abandon =>
      exact sound.of_surrounds ⟨rfl, rfl, rfl, fun closed => ⟨closed, rfl, rfl⟩, id, fun _ => rfl⟩
        rfl sound.taken received (Nat.le_refl _)

/-- What is due is a beginning of what all records in the input call for. -/
theorem due_prefix (setup : Setup) (loop : Loop) :
    loop.due setup <+: emissions (Exec.trace setup.out {} loop.appended) := by
  have whole := emissions_trace_prefix setup.out {} loop.consumed (loop.appended.drop loop.taken)
  rw [consumed, List.take_append_drop] at whole
  exact whole

end Loop

theorem Reachable.sound (reachable : Reachable setup loop) : loop.Sound setup := by
  induction reachable with
  | start => exact ⟨Nat.le_refl 0, Nat.le_refl 0, fun limit _ => Nat.zero_le _, rfl, rfl⟩
  | act action before possible ih => exact ih.step (moves_of_step? possible)

/-- What holds of a node and its environment in every state, measured by the records that
were put into the input so far and by what processing them one after the other emits. -/
structure Safe (setup : Setup) (loop : Loop) : Prop where
  /-- The results are handed over in order, none of them twice, and none is left out. -/
  inOrder : loop.handed <+: emissions (Exec.trace setup.out {} loop.appended)
  /-- Of the records that were taken at most one result was not handed over. -/
  pending : ∃ pending : Option Value, emissions (Exec.trace setup.out {}
    (loop.appended.take loop.taken)) = loop.handed ++ pending.toList
  /-- What was received was handed over, and the output never holds more than it can. -/
  received : loop.receivedResults <+: loop.handed ∧ loop.received ≤ loop.handed.length ∧
    ∀ limit ∈ setup.capacity, loop.handed.length ≤ loop.received + limit
  /-- A node that finds the input closed has processed all of it and handed over
  everything. -/
  closed : loop.outcome? = some (.ok .closed) →
    loop.inputClosed = true ∧ loop.taken = loop.appended.length ∧
      endOf (Exec.trace setup.out {} loop.appended) = .ok .closed ∧
      loop.handed = emissions (Exec.trace setup.out {} loop.appended)
  /-- A node stops as cancelled only if the signal was given. -/
  cancelled : loop.outcome? = some (.ok .cancelled) → loop.source.fired = true
  /-- A node detaches only if it has a result and nobody listens. -/
  detached : loop.outcome? = some (.ok .detached) →
    loop.listening = false ∧
      ∃ result, loop.handed ++ [result] <+: emissions (Exec.trace setup.out {} loop.appended)
  /-- A node fails only with the error that its input calls for, after it has handed over
  everything that comes before. -/
  failed : ∀ error, loop.outcome? = some (.error error) →
    endOf (Exec.trace setup.out {} loop.appended) = .error error ∧
      loop.handed = emissions (Exec.trace setup.out {} loop.appended)

theorem phase_of_outcome? {outcome : Except StreamError Exit}
    (stopped : loop.outcome? = some outcome) : loop.phase = .ended outcome := by
  rw [Loop.outcome?] at stopped
  split at stopped
  case h_1 found isPhase => rw [isPhase, Option.some.inj stopped]
  case h_2 => cases stopped

/-- A node that found the input closed has handed over all that the input calls for. -/
theorem Loop.Sound.of_closed (sound : loop.Sound setup)
    (stopped : loop.outcome? = some (.ok .closed)) :
    (loop.inputClosed = true ∧ loop.taken = loop.appended.length) ∧
      endOf (Exec.trace setup.out {} loop.appended) = .ok .closed ∧
        loop.handed = emissions (Exec.trace setup.out {} loop.appended) := by
  have accounts := sound.accounts
  rw [phase_of_outcome? stopped] at accounts
  rcases accounts with ⟨⟨closed, all⟩, inStep, same⟩
  rw [InStep, consumed, all, List.take_length] at inStep
  rw [due, consumed, all, List.take_length] at same
  refine ⟨⟨closed, all⟩, ?_, same.symm⟩
  rw [endOf_trace, inStep]
  rfl

/-- A node that failed has handed over all that the input calls for before the error. -/
theorem Loop.Sound.of_failed (sound : loop.Sound setup) {error : StreamError}
    (stopped : loop.outcome? = some (.error error)) :
    endOf (Exec.trace setup.out {} loop.appended) = .error error ∧
      loop.handed = emissions (Exec.trace setup.out {} loop.appended) := by
  have accounts := sound.accounts
  rw [phase_of_outcome? stopped] at accounts
  rcases accounts with ⟨ended, same⟩
  have noMore : Exec.trace setup.out {} loop.appended = Exec.trace setup.out {} loop.consumed := by
    conv_lhs => rw [← List.take_append_drop loop.taken loop.appended]
    exact trace_append_of_error ended
  rw [noMore, endOf_trace, ended]
  exact ⟨rfl, same.symm⟩

/-- Every state that can be reached is safe, whatever turns were taken. -/
theorem Reachable.safe (reachable : Reachable setup loop) : Safe setup loop := by
  have sound := reachable.sound
  have accounts := sound.accounts
  obtain ⟨pending, due⟩ := accounts.pending
  have whole := loop.due_prefix setup
  refine ⟨?_, ⟨pending, due⟩, ⟨List.take_prefix _ _, sound.received, sound.room⟩, ?_, ?_, ?_, ?_⟩
  · rw [due] at whole
    exact (List.prefix_append _ _).trans whole
  · intro stopped
    obtain ⟨⟨closed, all⟩, ends, handed⟩ := sound.of_closed stopped
    exact ⟨closed, all, ends, handed⟩
  · intro stopped
    rw [phase_of_outcome? stopped] at accounts
    exact accounts.1
  · intro stopped
    rw [phase_of_outcome? stopped] at accounts
    rcases accounts with ⟨nobody, result, same⟩
    exact ⟨nobody, result, same ▸ whole⟩
  · intro error stopped
    exact sound.of_failed stopped

/-- A record that asks for the member `a` of a record that has it. -/
private def memberInput (number : Int64) : Value :=
  .record [("struct", .record [("a", .int number)]), ("field", .text "a"), ("optional", .int 0)]

/-- The output has room for the second result again when the node, which is about to hand it
over, notices that it was cancelled meanwhile. -/
private def cancelledOffer : List Action :=
  [.append (memberInput 1), .append (memberInput 2), .take, .hand, .take,
    .append (memberInput 3), .cancel, .closeInput, .receive, .quit]

theorem safe_after_cancelled_offer :
    let setup : Setup := { out := .prim .int, capacity := some 1 }
    ∃ loop, ({} : Loop).steps? setup cancelledOffer = some loop ∧ Reachable setup loop ∧
      loop.outcome? = some (.ok .cancelled) ∧ loop.handed = [.int 1] ∧
      emissions (Exec.trace setup.out {} loop.appended) = [.int 1, .int 2, .int 3] ∧
      Safe setup loop := by
  intro setup
  have ran : ∃ loop, ({} : Loop).steps? setup cancelledOffer = some loop ∧
      loop.outcome? = some (.ok .cancelled) ∧ loop.handed = [.int 1] ∧
      emissions (Exec.trace setup.out {} loop.appended) = [.int 1, .int 2, .int 3] :=
    ⟨_, rfl, rfl, rfl, rfl⟩
  rcases ran with ⟨loop, possible, stopped, handed, emitted⟩
  have reachable := Reachable.start.steps possible
  exact ⟨loop, possible, reachable, stopped, handed, emitted, reachable.safe⟩

end Polyflow.Node
