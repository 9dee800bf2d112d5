/-
# Types in diagnostics

Unlike the text of a type, its diagnostic form shows how the type was made.
-/

import Polyflow.Serial
import Polyflow.Text.Inspect

namespace Polyflow.Ty

open Text

/-- A list of named entries in a diagnostic. -/
def inspectEntries (parts : List String) : String :=
  Inspect.labelled "Fields" [("entries", Inspect.list parts)]

mutual

/-- The diagnostic form of a type. -/
def inspect : Ty → String
  | .prim kind => Inspect.wrapped "Prim" kind.tag
  | .record members => Inspect.wrapped "Struct" (inspectEntries (inspectEach members))
  | .func args ret =>
    Inspect.wrapped "Func" (Inspect.labelled "Signature"
      [("args", inspectEntries (inspectEach args)), ("ret", ret.inspect)])
  | .unknown => "Unresolved"

/-- The diagnostic form of each entry. -/
def inspectEach : List (String × Ty) → List String
  | [] => []
  | (name, ty) :: rest => Inspect.named name ty.inspect :: inspectEach rest

end

end Polyflow.Ty
