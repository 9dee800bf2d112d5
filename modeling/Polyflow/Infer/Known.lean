/-
# Types that are written once

What has been recorded about an expression's type is never overwritten. A type
recorded later is only checked against the earlier one.
-/

import Polyflow.Ty.Agreement

namespace Polyflow

/-- A type was to be recorded that does not agree with the one on record. -/
structure AlreadyKnown where
  previous : Ty
  next : Ty
deriving Repr

/-- The report in words. -/
def AlreadyKnown.message (conflict : AlreadyKnown) : String :=
  "type was already set to `" ++ conflict.previous.render ++ "`, cannot change it to `" ++
    conflict.next.render ++ "`"

/-- Checks a further type against the one on record. -/
def Ty.confirm (previous next : Ty) : Except AlreadyKnown Unit :=
  if previous.Agrees next then .ok () else .error ⟨previous, next⟩

end Polyflow
