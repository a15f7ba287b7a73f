import ScreenScript.Value

/-! # Issues that a check finds

Checking a value against a schema finds every issue it has. An issue is a cause at a place,
where the place leads from the value down to the part that is at fault.
-/

namespace ScreenScript

/-- One step down into a value. -/
inductive Place where
  | key (name : String)
  | index (position : Nat)
deriving DecidableEq, Inhabited, Repr

inductive Cause where
  | missing
  | notText
  | notList
  | notMapping
  | notModel
  | notTagged
  | noTag
  | unknownTag
  | extraEntry
  | invalidJson
  | frozen
deriving DecidableEq, Inhabited, Repr

def Cause.name : Cause → String
  | .missing => "missing"
  | .notText => "string_type"
  | .notList => "list_type"
  | .notMapping => "dict_type"
  | .notModel => "model_type"
  | .notTagged => "model_attributes_type"
  | .noTag => "union_tag_not_found"
  | .unknownTag => "union_tag_invalid"
  | .extraEntry => "extra_forbidden"
  | .invalidJson => "json_invalid"
  | .frozen => "frozen_instance"

structure Issue where
  place : List Place
  cause : Cause
deriving DecidableEq, Inhabited, Repr

/-- An issue of a part as an issue of the whole, where `step` leads to the part. -/
def Issue.under (step : Place) (issue : Issue) : Issue :=
  { issue with place := step :: issue.place }

end ScreenScript
