import CommandRelay.Envelope.Basic

/-!
# Checking query parameters

The parameters of a read command must have visible names and texts for values, and the two reserved
ones must be `true` or `false`.  The parameters of a write command are not looked at.
-/

namespace CommandRelay.Params

/-- The parameters that decide what happens with the event of a reading. -/
def reserved : List String := ["ds-pushevent", "ds-returnevent"]

/-- Checks one parameter. -/
def checkField (name : String) (value : Json) : Except Fault Unit :=
  if Text.allBlank name then .error .blankParameter
  else match value.asText? with
    | none => .error (.parameterNotText name value)
    | some s =>
      if name ∈ reserved ∧ s ≠ "true" ∧ s ≠ "false" then .error (.reservedParameter name s)
      else .ok ()

/-- Checks parameters in the order of their names; the first that is refused decides. -/
def check (p : Params) : Method → Except Fault Unit
  | .set => .ok ()
  | .get => p.fields.forM fun (name, value) => checkField name value

end CommandRelay.Params
