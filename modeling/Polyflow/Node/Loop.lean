/-
# The loop of a running node

A node runs beside its environment. It waits for an input record or for the
cancel signal, processes the record, and if there is a result offers it until
the output takes it, nobody listens any more, or the signal is given. Meanwhile
the environment appends records, closes the input, cancels, receives results or
stops listening, in any order.

A loop holds one state of both sides, and an action is what either side may do
next. Several actions may be possible in one state; which of them happens is
not decided here.
-/

import Polyflow.Cancellation
import Polyflow.Lookup.Exec

namespace Polyflow.Node

open Polyflow.Lookup

/-- Why a node stopped without an error. -/
inductive Exit
  /-- The input was closed, and every record of it was processed. -/
  | closed
  /-- The cancel signal was given. -/
  | cancelled
  /-- Nobody listened to the output any more. -/
  | detached
deriving DecidableEq, Repr

/-- What a node is doing. -/
inductive Phase
  /-- It waits for a record. -/
  | waiting
  /-- It waits for a result to be taken. -/
  | offering (result : Value)
  /-- It has stopped. -/
  | ended (outcome : Except StreamError Exit)

/-- What stays fixed while a node runs. -/
structure Setup where
  /-- The return type that the node was built with. -/
  out : Ty
  /-- How many results the output holds until they are received; none if there
  is no limit. An output that holds nothing passes a result on directly. -/
  capacity : Option Nat

/-- The state of a node and of its environment. -/
structure Loop where
  /-- What the node remembers. -/
  exec : Exec := {}
  phase : Phase := .waiting
  /-- All records that were ever put into the input. -/
  appended : List Value := []
  /-- How many records the node has taken. -/
  taken : Nat := 0
  /-- No more records will come. -/
  inputClosed : Bool := false
  /-- All results that were ever put into the output. -/
  handed : List Value := []
  /-- How many results were received. -/
  received : Nat := 0
  /-- Somebody may still receive. -/
  listening : Bool := true
  source : CancelSource := .armed

/-- A step of the node or of its environment. -/
inductive Action
  /-- The node takes a record and processes it. -/
  | take
  /-- The node finds the input closed and drained. -/
  | finish
  /-- The node notices the cancel signal. -/
  | quit
  /-- The node puts its result into the output. -/
  | hand
  /-- The node passes its result on directly. -/
  | meet
  /-- The node finds that nobody listens. -/
  | detach
  /-- A record is put into the input. -/
  | append (input : Value)
  /-- The input is closed. -/
  | closeInput
  /-- The owner of the cancel source cancels. -/
  | cancel
  /-- The owner of the cancel source gives it up. -/
  | dropSource
  /-- A result is received. -/
  | receive
  /-- The last listener leaves. -/
  | abandon

namespace Loop

/-- Whether the output can hold one more result. -/
def hasRoom (loop : Loop) (setup : Setup) : Bool :=
  setup.capacity.all (loop.handed.length - loop.received < ·)

/-- The results that were received. -/
def receivedResults (loop : Loop) : List Value :=
  loop.handed.take loop.received

/-- How the node stopped, if it has. -/
def outcome? (loop : Loop) : Option (Except StreamError Exit) :=
  match loop.phase with
  | .ended outcome => some outcome
  | _ => none

/-- The node stops. -/
def stop (loop : Loop) (outcome : Except StreamError Exit) : Loop :=
  { loop with phase := .ended outcome }

/-- The node processes the record it has just taken. -/
def process (loop : Loop) (setup : Setup) (input : Value) : Loop :=
  let loop := { loop with taken := loop.taken + 1 }
  match loop.exec.step setup.out input with
  | .ok (exec, some result) => { loop with exec, phase := .offering result }
  | .ok (exec, none) => { loop with exec }
  | .error error => loop.stop (.error error)

/-- The state after an action, if the action is possible. -/
def step? (loop : Loop) (setup : Setup) : Action → Option Loop
  | .take =>
    match loop.phase, loop.appended[loop.taken]? with
    | .waiting, some input => some (loop.process setup input)
    | _, _ => none
  | .finish =>
    match loop.phase, loop.appended[loop.taken]? with
    | .waiting, none => if loop.inputClosed then some (loop.stop (.ok .closed)) else none
    | _, _ => none
  | .quit =>
    match loop.phase with
    | .ended _ => none
    | _ => if loop.source.fired then some (loop.stop (.ok .cancelled)) else none
  | .hand =>
    match loop.phase with
    | .offering result =>
      if loop.listening && loop.hasRoom setup then
        some { loop with handed := loop.handed ++ [result], phase := .waiting }
      else none
    | _ => none
  | .meet =>
    match loop.phase with
    | .offering result =>
      if loop.listening && setup.capacity == some 0 then
        some { loop with
          handed := loop.handed ++ [result], received := loop.received + 1, phase := .waiting }
      else none
    | _ => none
  | .detach =>
    match loop.phase with
    | .offering _ => if loop.listening then none else some (loop.stop (.ok .detached))
    | _ => none
  | .append input =>
    if loop.inputClosed then none else some { loop with appended := loop.appended ++ [input] }
  | .closeInput => some { loop with inputClosed := true }
  | .cancel => some { loop with source := loop.source.cancel }
  | .dropSource => some { loop with source := loop.source.drop }
  | .receive =>
    if loop.listening && loop.received < loop.handed.length then
      some { loop with received := loop.received + 1 }
    else none
  | .abandon => some { loop with listening := false }

end Loop

end Polyflow.Node
