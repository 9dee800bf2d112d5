/-
# Values in diagnostics

Unlike the text of a value, its diagnostic form shows how the value was made.
-/

import Polyflow.Text.Inspect
import Polyflow.Value.Text

namespace Polyflow.Value

open Text

mutual

/-- The diagnostic form of a value. -/
def inspect : Value → String
  | .bool value => Inspect.wrapped Prim.bool.tag (renderBool value)
  | .text value => Inspect.wrapped Prim.text.tag (quote value)
  | .int value => Inspect.wrapped Prim.int.tag (toString value.toInt)
  | .float value => Inspect.wrapped Prim.float.tag value.render
  | .record members =>
    Inspect.wrapped "Struct" (Inspect.labelled "StructValue"
      [("fields", Inspect.list (inspectEach members))])

/-- The diagnostic form of each member. -/
def inspectEach : List (String × Value) → List String
  | [] => []
  | (name, value) :: rest => Inspect.named name value.inspect :: inspectEach rest

end

end Polyflow.Value
