/-
# The registry of functions

The registry holds functions under their names, each as it is before it is
built. Looking a name up answers such a function, so what one user builds does
not concern another. Names are listed in the order of their characters.
-/

import Polyflow.Lookup.Function
import Polyflow.Text.Inspect
import Std.Data.TreeMap

namespace Polyflow

/-- A name is registered already. -/
structure AlreadyRegistered where
  name : String
deriving DecidableEq, Repr

/-- The report in words. -/
def AlreadyRegistered.message (error : AlreadyRegistered) : String :=
  "function `" ++ error.name ++ "` is already registered"

/-- Functions by name. -/
structure Registry where
  functions : Std.TreeMap String Lookup.Function := ∅

namespace Registry

/-- The registry that holds nothing. -/
def empty : Registry :=
  {}

/-- The registry of the functions that every program can use. -/
def builtin : Registry :=
  ⟨(∅ : Std.TreeMap String Lookup.Function).insert Lookup.name {}⟩

/-- Registers a function that is not built under a name that is not taken. -/
def register (registry : Registry) (name : String) : Except AlreadyRegistered Registry :=
  if registry.functions.contains name then .error ⟨name⟩
  else .ok ⟨registry.functions.insert name {}⟩

/-- The function registered under a name. -/
def lookup (registry : Registry) (name : String) : Option Lookup.Function :=
  registry.functions[name]?

/-- Whether a name is registered. -/
def contains (registry : Registry) (name : String) : Bool :=
  registry.functions.contains name

/-- The registered names, in ascending order. -/
def names (registry : Registry) : List String :=
  registry.functions.keys

/-- How many names are registered. -/
def size (registry : Registry) : Nat :=
  registry.functions.size

/-- Whether no name is registered. -/
def isEmpty (registry : Registry) : Bool :=
  registry.functions.isEmpty

/-- The diagnostic form of a registry: its names. -/
def inspect (registry : Registry) : String :=
  Text.Inspect.labelled "FuncRegistry"
    [("funcs", Text.Inspect.list (registry.names.map Text.quote))]

/-- Whether a name is reserved for functions that no user can write: it begins
with an underscore. -/
def isReserved (name : String) : Bool :=
  name.toList.head? = some '_'

end Registry

end Polyflow
