/-
# One schedule of a node and its consumer

Of all the ways in which a node and its environment may take turns, this module
fixes one. All records are in the input from the start. The consumer receives
each result as soon as it is there, until it has as many as it wants. When the
node has no more records, or offers a result beyond those, the consumer ends the
run; from then on the node acts alone.
-/

import Polyflow.Node.Loop

namespace Polyflow.Node

/-- How a consumer ends a run. -/
inductive Ending
  /-- The input is closed. -/
  | close
  /-- The input stays open, and the owner cancels. -/
  | cancel
  /-- The input stays open, and the owner gives the cancel source up. -/
  | dropSource
  /-- The input is closed, and the consumer stops listening. -/
  | detach
deriving DecidableEq, Repr

namespace Ending

/-- The actions that end a run. -/
def actions : Ending → List Action
  | .close => [.closeInput]
  | .cancel => [.cancel]
  | .dropSource => [.dropSource]
  | .detach => [.closeInput, .abandon]

end Ending

namespace Loop

/-- Does the first of the given actions that is possible, if one is. -/
def doFirst (setup : Setup) (actions : List Action) (loop : Loop) : Loop :=
  (actions.findSome? (loop.step? setup)).getD loop

/-- Does each of the given actions that is possible when its turn comes. -/
def doAll (setup : Setup) (actions : List Action) (loop : Loop) : Loop :=
  actions.foldl (fun loop action => loop.doFirst setup [action]) loop

/-- Does, a number of times, the first possible one of the actions that are
preferred then. -/
def doOften (setup : Setup) (preferred : Loop → List Action) : Nat → Loop → Loop
  | 0, loop => loop
  | times + 1, loop => (loop.doFirst setup (preferred loop)).doOften setup preferred times

/-- What happens while the consumer wants results: what was handed over is
received before the node goes on. A consumer that has enough leaves the next
result to the node. -/
def attended (wanted : Option Nat) (loop : Loop) : List Action :=
  if wanted.all (loop.received < ·) then [.receive, .meet, .hand, .take] else [.take]

/-- What happens once the consumer has ended the run: the node looks for a
reason to stop before it goes on. -/
def unattended (_ : Loop) : List Action :=
  [.quit, .detach, .hand, .take, .finish]

/-- The run of a node on the given records for a consumer that wants so many
results, or all of them. Each record takes three actions at most. -/
def run (setup : Setup) (records : List Value) (wanted : Option Nat) (ending : Ending) : Loop :=
  let steps := 3 * records.length + 1
  ({ appended := records } : Loop)
    |>.doOften setup (attended wanted) steps
    |>.doAll setup ending.actions
    |>.doOften setup unattended steps

end Loop

end Polyflow.Node
