/-
# Values as text, and their serialised form

Texts are quoted, so that a value's text shows where it ends; member names are
written as they are. The serialised form keeps all that a value holds, except
that a floating point number that is not finite becomes `null`.
-/

import Polyflow.Binary64.Text
import Polyflow.Serial
import Polyflow.Text.Quoted
import Polyflow.Value.Basic

namespace Polyflow.Value

/-- The text of a truth value. -/
def renderBool (value : Bool) : String :=
  if value then "true" else "false"

mutual

/-- The text of a value: `true`, `"a"`, `-1`, `0.5`, `struct{a: 1; b: "x"}`. -/
def render : Value → String
  | .bool value => renderBool value
  | .text value => Text.quote value
  | .int value => toString value.toInt
  | .float value => value.render
  | .record members => "struct\x7b" ++ "; ".intercalate (renderEach members) ++ "\x7d"

/-- The text of each member: its name, a colon and its value. -/
def renderEach : List (String × Value) → List String
  | [] => []
  | (name, value) :: rest => (name ++ ": " ++ value.render) :: renderEach rest

end

mutual

/-- The serialised form of a value. -/
def serialize : Value → Serial
  | .bool value => .tagged Prim.bool.tag (.bool value)
  | .text value => .tagged Prim.text.tag (.text value)
  | .int value => .tagged Prim.int.tag (.text (toString value.toInt))
  | .float value =>
    .tagged Prim.float.tag
      (if value.isNaN || value.isInfinite then .null else .text value.render)
  | .record members => .tagged "Struct" (.tagged "fields" (.list (serializeEach members)))

/-- The serialised form of each member, in order. -/
def serializeEach : List (String × Value) → List Serial
  | [] => []
  | (name, value) :: rest => .named name value.serialize :: serializeEach rest

end

end Polyflow.Value
