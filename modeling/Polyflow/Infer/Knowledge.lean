/-
# Learning one type from several sources

The type of one unknown may be observed in several places, each time perhaps
only in part. Knowledge keeps one observation, the first among those with the
fewest holes, and refuses an observation that does not agree with it, naming
the origins of both.
-/

import Polyflow.Ty.Agreement

namespace Polyflow

/-- A type that was observed, and where. -/
structure Observation where
  ty : Ty
  origin : String

/-- An observation that does not agree with the one kept. -/
structure Inconsistency where
  /-- Where the observation that was refused comes from. -/
  origin : String
  /-- Where the one that is kept comes from. -/
  previous : String
  /-- How the kept type and the refused one differ. -/
  cause : Mismatch

/-- The report in words. -/
def Inconsistency.message (conflict : Inconsistency) : String :=
  conflict.origin ++ " is inconsistent with " ++ conflict.previous ++ ": " ++
    conflict.cause.message

/-- What is known of the type of one unknown. -/
structure Knowledge where
  kept : Option Observation := none

namespace Knowledge

/-- The type that is known. -/
def ty? (knowledge : Knowledge) : Option Ty :=
  knowledge.kept.map (·.ty)

/-- Where the known type comes from. -/
def origin? (knowledge : Knowledge) : Option String :=
  knowledge.kept.map (·.origin)

/-- Takes in an observation and tells whether it taught something. An unknown
type teaches nothing. A type that agrees with the one kept takes its place if it
has fewer holes. -/
def observe (knowledge : Knowledge) (observation : Observation) :
    Except Inconsistency (Knowledge × Bool) :=
  if observation.ty.isKnown then
    match knowledge.kept with
    | none => .ok (⟨some observation⟩, true)
    | some kept =>
      match kept.ty.conflict? observation.ty with
      | some cause => .error ⟨observation.origin, kept.origin, cause⟩
      | none =>
        if observation.ty.holes < kept.ty.holes then .ok (⟨some observation⟩, true)
        else .ok (knowledge, false)
  else .ok (knowledge, false)

end Knowledge

end Polyflow
