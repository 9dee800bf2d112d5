/-
# Serialised form of types

A type is exported as a tree of texts, lists and tagged objects that carries
everything the type holds, the order of its entries included. `Value.Serial`
does the same for values.
-/

import Polyflow.Ty.Basic

namespace Polyflow

/-- A serialised tree. Numbers are carried as texts, so that no reader can lose
digits of them. -/
inductive Serial
  | null
  | bool (value : Bool)
  | text (value : String)
  | list (items : List Serial)
  | object (entries : List (String × Serial))

/-- A tree under a tag that says what it is. -/
def Serial.tagged (tag : String) (content : Serial) : Serial :=
  .object [(tag, content)]

/-- A name together with what it names. -/
def Serial.named (name : String) (content : Serial) : Serial :=
  .list [.text name, content]

/-- The tag of a primitive type. -/
def Prim.tag : Prim → String
  | .bool => "Bool"
  | .text => "Str"
  | .int => "Int"
  | .float => "Float"

namespace Ty

mutual

/-- The serialised form of a type. -/
def serialize : Ty → Serial
  | .prim kind => .tagged "Prim" (.text kind.tag)
  | .record members => .tagged "Struct" (.tagged "entries" (.list (serializeEach members)))
  | .func args ret =>
    .tagged "Func" (.object [
      ("args", .tagged "entries" (.list (serializeEach args))),
      ("ret", ret.serialize)])
  | .unknown => .text "Unresolved"

/-- The serialised form of each entry, in order. -/
def serializeEach : List (String × Ty) → List Serial
  | [] => []
  | (name, ty) :: rest => .named name ty.serialize :: serializeEach rest

end

end Ty

end Polyflow
