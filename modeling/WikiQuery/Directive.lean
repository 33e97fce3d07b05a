import WikiQuery.Digest
import WikiQuery.Engine
import WikiQuery.Pair

/-!
Whole directives. The pairs of a directive are read one after the other into a fresh query; a refused
pair is left out with a warning, unless the refusal ends the directive. What the pairs ask for
together has to make sense in the end.
-/

set_option autoImplicit false

namespace WikiQuery

/-- The reason for which a directive is refused. -/
inductive DirectiveError
  | parameter (error : ParameterError)
  /-- A parameter that is not known, where the settings have none of them. -/
  | unknownParameter (name : String)
  | noSelectionCriteria
  | openReferencesConflict
  | tooManyCategories (count limit : Nat)
  | tooFewCategories (count limit : Nat)
  deriving DecidableEq, Repr

/-- The wording of a refusal. -/
def DirectiveError.message : DirectiveError → String
  | parameter error => error.message
  | unknownParameter name =>
    "unknown parameter `" ++ name ++ "` (unknown parameters are configured to abort)"
  | noSelectionCriteria =>
    "no selection criteria found: give at least a category, namespace, title or link filter"
  | openReferencesConflict =>
    "`openreferences` cannot be combined with category, title or ordering parameters"
  | tooManyCategories count limit =>
    "too many categories: " ++ Number.natText count ++ " given, at most " ++
      Number.natText limit ++ " allowed"
  | tooFewCategories count limit =>
    "too few categories: " ++ Number.natText count ++ " given, at least " ++
      Number.natText limit ++ " required"

/-- What a directive comes to: the query, the refused pairs, and a key for what was read. -/
structure Outcome where
  spec : Specification
  warnings : List ParameterError
  fingerprint : String
  deriving DecidableEq

namespace Engine

/-- The refusal of a directive that follows from that of a pair, if one does. -/
def fatal? (e : Engine) (refusal : ParameterError) : Option DirectiveError :=
  match refusal with
  | .authorization _ _ | .structural _ => some (.parameter refusal)
  | .unknownParameter name =>
    match e.settings.unknownParameters with
    | .abort => some (.unknownParameter name)
    | .warn => none
  | .notAvailable _ _ _ | .validation _ _ => none

/-- Reads pairs one after the other, and gathers the refusals that end nothing. -/
def processAll (e : Engine) (s : Session) :
    List Pair → Except DirectiveError (Session × List ParameterError)
  | [] => .ok (s, [])
  | pair :: pairs =>
    match e.process s pair.1 pair.2 with
    | (s, none) => e.processAll s pairs
    | (s, some refusal) =>
      match e.fatal? refusal with
      | some error => .error error
      | none => (e.processAll s pairs).map fun r => (r.1, refusal :: r.2)

/-- What is wrong with a query as a whole. -/
def inconsistency? (settings : Settings) (spec : Specification) : Option DirectiveError :=
  let count := spec.totalCategoryCount
  if spec.openReferences.isEnabled && spec.openReferencesConflict then some .openReferencesConflict
  else if !spec.openReferences.isEnabled && !spec.selectionCriteriaFound then
    some .noSelectionCriteria
  else if !settings.unlimitedCategories && decide (settings.maxCategories < count) then
    some (.tooManyCategories count settings.maxCategories)
  else if count < settings.minCategories then
    some (.tooFewCategories count settings.minCategories)
  else none

/-- The number of bytes of a digest that make up a fingerprint. -/
def fingerprintBytes : Nat := 8

/-- The key of pairs in the order in which they are read. -/
def fingerprint (pairs : List Pair) (digest : List UInt8 → List UInt8 := Digest.sha256) : String :=
  Digest.ofText digest fingerprintBytes (Pair.text pairs)

/-- What pairs come to that are in the order in which they are read. -/
def runSorted (e : Engine) (pairs : List Pair) : Except DirectiveError Outcome :=
  match e.processAll e.start pairs with
  | .error error => .error error
  | .ok (s, warnings) =>
    match inconsistency? e.settings s.spec with
    | some error => .error error
    | none => .ok ⟨s.spec, warnings, fingerprint pairs e.host.digest⟩

/-- What the pairs of a directive come to. -/
def runPairs (e : Engine) (pairs : List Pair) : Except DirectiveError Outcome :=
  match Pair.sorted pairs with
  | .error error => .error (.parameter error)
  | .ok pairs => e.runSorted pairs

/-- What the text of a directive comes to. -/
def runText (e : Engine) (text : String) : Except DirectiveError Outcome :=
  e.runPairs (Pair.ofText text)

end Engine

end WikiQuery
