/-
# Cancellation

A cancel source and the tokens made from it share one signal. Cancelling the
source fires every token at once, and so does giving the source up. Once fired,
a token stays fired.
-/

namespace Polyflow

/-- The state of the source of a cancel signal. -/
inductive CancelSource
  /-- The signal has not been given. -/
  | armed
  /-- The owner has cancelled. -/
  | cancelled
  /-- The owner has given the source up. -/
  | dropped
deriving DecidableEq, Repr

namespace CancelSource

/-- Cancels. A second time, or after the source was given up, nothing happens. -/
def cancel : CancelSource → CancelSource
  | .armed => .cancelled
  | source => source

/-- Gives the source up. -/
def drop (_ : CancelSource) : CancelSource :=
  .dropped

/-- Whether the tokens of the source are fired. -/
def fired (source : CancelSource) : Bool :=
  source ≠ .armed

/-- Whether the source was cancelled, as far as its owner can still ask. -/
def isCancelled? : CancelSource → Option Bool
  | .armed => some false
  | .cancelled => some true
  | .dropped => none

end CancelSource

/-- A source together with the number of its tokens. -/
structure CancelGroup where
  source : CancelSource := .armed
  tokens : Nat := 1

namespace CancelGroup

/-- Makes one more token. -/
def addToken (group : CancelGroup) : CancelGroup :=
  { group with tokens := group.tokens + 1 }

/-- Whether each token is fired. -/
def firedTokens (group : CancelGroup) : List Bool :=
  List.replicate group.tokens group.source.fired

end CancelGroup

end Polyflow
