/-
# A member of a record, or a fallback

The function takes a record, the name of a member and a fallback, and returns
the record's member of that name if there is one, and the fallback otherwise:

    func(struct T, field str, optional R) R

Unlike an ordinary member access, it accepts a record type without the member.
So the name must be known before the record's type can say anything about `R`.
This module holds what the function's typing, building and running have in
common.
-/

import Polyflow.Value.Basic

namespace Polyflow.Lookup

/-- The reserved name of the function. -/
def name : String :=
  "_struct_lookup_optional"

/-- The arguments of the function, in order. -/
inductive Arg
  | container
  | selector
  | fallback
deriving DecidableEq, Repr

namespace Arg

/-- The name of an argument. -/
def name : Arg → String
  | .container => "struct"
  | .selector => "field"
  | .fallback => "optional"

/-- The place of an argument in words. -/
def ordinal : Arg → String
  | .container => "first"
  | .selector => "second"
  | .fallback => "third"

/-- All arguments in order. -/
def all : List Arg :=
  [.container, .selector, .fallback]

end Arg

/-- How many arguments the function takes. -/
def arity : Nat :=
  Arg.all.length

/-- The record that carries one application's arguments to a running node. -/
def input (container : Value) (selector : String) (fallback : Value) :
    Except DuplicateName Value :=
  Value.record? [(Arg.container.name, container), (Arg.selector.name, .text selector),
    (Arg.fallback.name, fallback)]

end Polyflow.Lookup
