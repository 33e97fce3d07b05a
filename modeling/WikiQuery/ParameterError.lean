import WikiQuery.Number.Digits
import WikiQuery.Text.Quoted

/-!
The reasons for which a single parameter, or the table of all parameters, is refused.
-/

set_option autoImplicit false

namespace WikiQuery

/-- What is malformed about parameters or their table. -/
inductive Malformation
  /-- A parameter without a name. -/
  | emptyName
  /-- The pair at a position has no name. -/
  | emptyPairName (position : Nat)
  /-- The pattern of a parameter is not well formed. -/
  | brokenPattern (name : String)
  /-- Two parameters have one name. -/
  | repeatedName (name : String)
  deriving DecidableEq, Repr

/-- The wording of a malformation. -/
def Malformation.message : Malformation → String
  | emptyName => "parameter name is empty"
  | emptyPairName position => "pair " ++ Number.natText position ++ " has an empty parameter name"
  | brokenPattern name => "pattern for `" ++ name ++ "` does not compile"
  | repeatedName name => "parameter `" ++ name ++ "` is registered twice"

/-- The reason for which a parameter is refused. -/
inductive ParameterError
  | unknownParameter (name : String)
  | notAvailable (name : String) (required configured : Nat)
  | validation (name value : String)
  | authorization (name capability : String)
  | structural (cause : Malformation)
  deriving DecidableEq, Repr

namespace ParameterError

/-- The wording of a refusal. -/
def message : ParameterError → String
  | unknownParameter name => "unknown parameter `" ++ name ++ "`"
  | notAvailable name required configured =>
    "parameter `" ++ name ++ "` requires functional richness " ++ Number.natText required ++
      " (configured: " ++ Number.natText configured ++ ")"
  | validation name value => "invalid value for `" ++ name ++ "`: " ++ Text.quoted value
  | authorization name capability =>
    "parameter `" ++ name ++ "` requires the `" ++ capability ++ "` capability"
  | structural cause => "malformed parameter input: " ++ cause.message

/-- Whether a refusal ends the whole directive, and not the parameter alone. -/
def isFatal : ParameterError → Bool
  | authorization _ _ | structural _ => true
  | unknownParameter _ | notAvailable _ _ _ | validation _ _ => false

/-- The name of the parameter that is refused. -/
def parameterName? : ParameterError → Option String
  | unknownParameter name | notAvailable name _ _ | validation name _ | authorization name _ =>
    some name
  | structural _ => none

end ParameterError

end WikiQuery
