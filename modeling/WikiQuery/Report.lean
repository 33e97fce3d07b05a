import WikiQuery.Directive
import WikiQuery.Json

/-!
What is shown of queries and of the table of parameters.
-/

set_option autoImplicit false

namespace WikiQuery

/-- A title as a structured value. -/
def Title.toJson (t : Title) : Json :=
  .object [("namespace", .int t.namespaceId), ("text", .text t.text)]

/-- A named page as a structured value. -/
def PageReference.toJson : PageReference → Json
  | title t => t.toJson
  | name s => .text s

/-- Groups of texts as a structured value. -/
def Json.textGroups (groups : List (List String)) : Json :=
  .list (groups.map Json.texts)

/-- Members of which empty ones are left out. -/
def Json.nonEmpty {α : Type} (key : String) (items : List α) (value : List α → Json) :
    List (String × Json) :=
  if items.isEmpty then [] else [(key, value items)]

/-- A selector of categories as a structured value. -/
def CategorySelector.toJson (s : CategorySelector) : Json :=
  .object (Json.nonEmpty "AND" s.allOf Json.textGroups ++
    Json.nonEmpty "OR" s.anyOf Json.textGroups ++ Json.nonEmpty "regexp" s.regexp Json.texts ++
    Json.nonEmpty "like" s.like Json.texts)

/-- A selector of titles as a structured value. -/
def TitleSelector.toJson (s : TitleSelector) : Json :=
  .object (Json.nonEmpty "=" s.exact Json.texts ++ Json.nonEmpty "regexp" s.regexp Json.texts ++
    Json.nonEmpty "like" s.like Json.texts)

/-- The word for a choice of listing pages once only. -/
def Distinctness.word : Distinctness → String
  | off => "off"
  | on => "on"
  | strict => "strict"

/-- The word for a choice of open references. -/
def OpenReferences.word : OpenReferences → String
  | no => "no"
  | yes => "yes"
  | missing => "missing"

/-- A value as a structured value. -/
def Value.toJson : Value → Json
  | bool b => .bool b
  | int n => .int n
  | text s => .text s
  | list items => .texts items
  | pageGroups groups => .list (groups.map fun pages => .list (pages.map PageReference.toJson))
  | namespaces ids => .list (ids.toList.map Json.int)
  | categories selector => selector.toJson
  | titles selector => selector.toJson
  | flags entries => .object (entries.toList.map fun entry => (entry.1, .bool entry.2))
  | distinct mode => .text mode.word
  | openReferences mode => .text mode.word

/-- Values under the names of their parameters as a structured value. -/
def Json.values (values : List (String × Value)) : Json :=
  .object (values.map fun entry => (entry.1, entry.2.toJson))

/-- A query as a structured value. -/
def Specification.toJson (s : Specification) : Json :=
  .object [
    ("values", .values s.values.toList),
    ("selection_criteria_found", .bool s.selectionCriteriaFound),
    ("open_references_conflict", .bool s.openReferencesConflict),
    ("processed_parameters", .texts s.processed.toList)]

/-- What a directive comes to, laid out as JSON with the members in order. -/
def Outcome.toJsonText (o : Outcome) : String :=
  Json.pretty (Json.sorted (.object [
    ("fingerprint", .text o.fingerprint),
    ("warnings", .texts (o.warnings.map ParameterError.message)),
    ("specification", o.spec.toJson)])) ++ "\n"

/-- A value in a line: text in quotes that show every character, and all else as JSON. -/
def Value.inLine : Value → String
  | text s => Text.quoted s
  | value => value.toJson.compact

/-- The word for a truth value. -/
def yesOrNo (b : Bool) : String :=
  if b then "yes" else "no"

/-- What a directive comes to, in lines. A star marks the parameters that were given. -/
def Outcome.lines (o : Outcome) : List String :=
  ["fingerprint: " ++ o.fingerprint,
    "selection_criteria_found: " ++ yesOrNo o.spec.selectionCriteriaFound,
    "open_references_conflict: " ++ yesOrNo o.spec.openReferencesConflict] ++
  (o.spec.values.toList.map fun entry =>
    (if o.spec.wasSpecified entry.1 then "*" else " ") ++ " " ++ entry.1 ++ ": " ++
      entry.2.inLine) ++
  o.warnings.map fun warning => "warning: " ++ warning.message

/-- A text filled up with spaces to a width. -/
def padRight (width : Nat) (s : String) : String :=
  s ++ String.ofList (List.replicate (width - s.length) ' ')

/-- How a parameter is read, in words. -/
def Parameter.description (p : Parameter) : String :=
  let way := match p.handler with
    | some handler => "handler=" ++ handler.label
    | none => "pipeline"
  let values := p.values.map fun values => "values=" ++ "|".intercalate values
  let permission := p.permission.map fun capability => "requires=" ++ capability
  " ".intercalate (way :: values.toList ++ permission.toList)

/-- A parameter in a line. -/
def Parameter.line (p : Parameter) : String :=
  padRight 24 p.name ++ " level=" ++ Number.natText p.richness ++ " " ++ p.description

/-- The parameters that are to be had at a richness, in lines, in the order of their names. -/
def Registry.lines (r : Registry) (richness : Nat) : List String :=
  let available := (r.parameters.filter fun p => decide (p.richness ≤ richness)).mergeSort
    fun p q => decide (p.name ≤ q.name)
  ("parameters available at richness " ++ Number.natText richness ++ ": " ++
    Number.natText available.length) :: available.map Parameter.line

/-- Lines as a text, each with a break at its end. -/
def unlines (lines : List String) : String :=
  String.join (lines.map (· ++ "\n"))

end WikiQuery
