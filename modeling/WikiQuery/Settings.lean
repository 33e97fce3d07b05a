import WikiQuery.Text.Blank
import WikiQuery.Text.Case

/-!
How much a directive may do: the settings that the keeper of a wiki chooses.
-/

set_option autoImplicit false

namespace WikiQuery

/-- What becomes of a directive with a parameter that is not known. -/
inductive UnknownPolicy
  /-- The parameter is left out with a warning. -/
  | warn
  /-- The directive is refused. -/
  | abort
  deriving DecidableEq, Repr

/-- The policy with a name; the case of its letters and the white space around it do not count. -/
def UnknownPolicy.ofName? (name : String) : Option UnknownPolicy :=
  let name := Text.lowerAscii (Text.trim name)
  if name = "warn" then some .warn
  else if name = "abort" then some .abort
  else none

/-- The settings of the keeper of a wiki. -/
structure Settings where
  /-- How many of the parameters are to be had. -/
  richness : Nat := 3
  maxCategories : Nat := 4
  minCategories : Nat := 0
  unlimitedCategories : Bool := false
  maxResults : Int := 500
  unlimitedResults : Bool := false
  /-- The names of the only namespaces that may be asked for, if not all may. -/
  allowedNamespaces : Option (List String) := none
  unknownParameters : UnknownPolicy := .warn
  deriving DecidableEq, Repr

namespace Settings

/-- The greatest richness. -/
def maxRichness : Nat := 4

/-- A number of results, held down to the greatest that is allowed. -/
def clampResults (s : Settings) (count : Int) : Int :=
  if s.unlimitedResults then count else min count s.maxResults

/-- Whether a namespace may be asked for by a name. -/
def allowsNamespace (s : Settings) (name : String) : Bool :=
  match s.allowedNamespaces with
  | none => true
  | some allowed =>
    allowed.any fun candidate => Text.eqIgnoringCase (Text.trim candidate) (Text.trim name)

end Settings

end WikiQuery
