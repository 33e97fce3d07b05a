import WikiQuery.Number.Word
import WikiQuery.Settings

/-!
Settings from the environment. A variable that is set, and not to white space alone, takes the place
of the setting that it names.
-/

set_option autoImplicit false

namespace WikiQuery

/-- The reason for which settings are refused. -/
inductive SettingsError
  /-- The file at a path cannot be read. -/
  | unreadable (path : String)
  /-- The file at a path does not hold settings. -/
  | malformed (path : String)
  /-- The file at a path asks for a richness that there is not. -/
  | richnessOutOfRange (path : String)
  /-- A namespace has no name. -/
  | unnamedNamespace
  /-- A variable does not hold a number of the kind it should. -/
  | notNumber (name value : String)
  /-- A variable asks for a richness that there is not. -/
  | richnessTooGreat (name : String) (level : Nat)
  /-- A variable does not name a policy. -/
  | notPolicy (name value : String)
  deriving DecidableEq, Repr

/-- The wording of a refusal. -/
def SettingsError.message : SettingsError → String
  | unreadable path => "failed to read " ++ path
  | malformed path => "failed to parse " ++ path
  | richnessOutOfRange path => "functional_richness must be between 0 and 4 in " ++ path
  | unnamedNamespace => "custom namespace name cannot be empty"
  | notNumber name value => "invalid " ++ name ++ " `" ++ value ++ "`"
  | richnessTooGreat name level =>
    name ++ " must be between 0 and 4, got " ++ Number.natText level
  | notPolicy name value => name ++ " must be `warn` or `abort`, got `" ++ value ++ "`"

namespace Settings

/-- The variables that settings are taken from. -/
def richnessVariable : String := "PAGELIST_FUNCTIONAL_RICHNESS"

@[inherit_doc richnessVariable]
def maxResultsVariable : String := "PAGELIST_MAX_RESULT_COUNT"

@[inherit_doc richnessVariable]
def unknownVariable : String := "PAGELIST_UNKNOWN_PARAMETERS"

/-- The value of a variable, trimmed, if there is more to it than white space. -/
def variableValue? (environment : String → Option String) (name : String) : Option String :=
  ((environment name).map Text.trim).filter fun value => !value.isEmpty

/-- The settings with the richness that a variable gives. -/
def withRichness (value : String) (s : Settings) : Except SettingsError Settings :=
  match Number.byte? value with
  | none => .error (.notNumber richnessVariable value)
  | some level =>
    if maxRichness < level then .error (.richnessTooGreat richnessVariable level)
    else .ok { s with richness := level }

/-- The settings with the greatest number of results that a variable gives. -/
def withMaxResults (value : String) (s : Settings) : Except SettingsError Settings :=
  match Number.int64? value with
  | none => .error (.notNumber maxResultsVariable value)
  | some n => .ok { s with maxResults := n }

/-- The settings with the policy that a variable gives. -/
def withPolicy (value : String) (s : Settings) : Except SettingsError Settings :=
  match UnknownPolicy.ofName? value with
  | none => .error (.notPolicy unknownVariable value)
  | some policy => .ok { s with unknownParameters := policy }

/-- The variables, each with what it does, in the order in which they are looked at. -/
def overrides : List (String × (String → Settings → Except SettingsError Settings)) :=
  [(richnessVariable, withRichness), (maxResultsVariable, withMaxResults),
    (unknownVariable, withPolicy)]

/-- The settings after the variables of a list, up to the first that is refused. -/
def overrideBy (environment : String → Option String) (s : Settings) :
    List (String × (String → Settings → Except SettingsError Settings)) →
      Settings × Option SettingsError
  | [] => (s, none)
  | (name, apply) :: rest =>
    match variableValue? environment name with
    | none => overrideBy environment s rest
    | some value =>
      match apply value s with
      | .error error => (s, some error)
      | .ok s => overrideBy environment s rest

/-- The settings that the environment leaves, and what is wrong with a variable, if something is. -/
def withEnvironment (environment : String → Option String) (s : Settings) :
    Settings × Option SettingsError :=
  overrideBy environment s overrides

end Settings

end WikiQuery
