/-
# Types as text

The text of a type names its members and arguments in order; names are written
as they are. A function's return type follows its closing parenthesis.
-/

import Polyflow.Ty.Basic

namespace Polyflow.Ty

mutual

/-- The text of a type: `int`, `struct{a int; b str}`, `func(a int) str`, `?`. -/
def render : Ty → String
  | .prim kind => kind.name
  | .record members => "struct\x7b" ++ "; ".intercalate (renderEach members) ++ "\x7d"
  | .func args ret => "func(" ++ ", ".intercalate (renderEach args) ++ ") " ++ ret.render
  | .unknown => "?"

/-- The text of each entry: its name, a blank and its type. -/
def renderEach : List (String × Ty) → List String
  | [] => []
  | (name, ty) :: rest => (name ++ " " ++ ty.render) :: renderEach rest

end

end Polyflow.Ty
