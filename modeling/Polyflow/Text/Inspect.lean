/-
# Diagnostic text

Diagnostics show data as the constructor it was made with, followed by its
parts. These are the few forms such a text is put together from.
-/

import Polyflow.Text.Quoted

namespace Polyflow.Text.Inspect

/-- A constructor with one part: `Name(part)`. -/
def wrapped (name part : String) : String :=
  name ++ "(" ++ part ++ ")"

/-- Parts in brackets: `[a, b]`. -/
def list (parts : List String) : String :=
  "[" ++ ", ".intercalate parts ++ "]"

/-- A name, quoted, with what it names: `("a", part)`. -/
def named (name part : String) : String :=
  "(" ++ quote name ++ ", " ++ part ++ ")"

/-- A constructor with labelled parts: `Name { a: x, b: y }`. -/
def labelled (name : String) (parts : List (String × String)) : String :=
  name ++ " \x7b " ++ ", ".intercalate (parts.map fun (label, part) => label ++ ": " ++ part) ++
    " \x7d"

/-- A constructor of which not all parts are shown. -/
def abridged (name label part : String) : String :=
  name ++ " \x7b " ++ label ++ ": " ++ part ++ ", .. \x7d"

end Polyflow.Text.Inspect
