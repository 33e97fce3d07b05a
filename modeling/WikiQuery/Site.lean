import Std.Data.ExtTreeMap
import WikiQuery.Host
import WikiQuery.Timestamp

/-!
A wiki described by a few tables: its own namespaces, the categories below each category, the values
of the request and the capabilities of the caller. The description answers all that a directive may
ask.
-/

set_option autoImplicit false

namespace WikiQuery

/-- A namespace that a wiki has of its own. -/
structure CustomNamespace where
  name : String
  id : Int
  deriving DecidableEq, Repr

/-- The tables that describe a wiki. -/
structure Site where
  /-- The namespaces of its own; of two with one name the later counts. -/
  customNamespaces : List CustomNamespace := []
  /-- The names of categories, each with the names of those directly below it. -/
  categories : Std.ExtTreeMap String (List String) := ∅
  /-- The values of the request. -/
  request : Std.ExtTreeMap String String := ∅
  /-- The capabilities of the caller. -/
  capabilities : List String := []
  deriving DecidableEq

namespace Site

/-- The form of a namespace's name in which case and spacing do not count. -/
def namespaceKey (name : String) : String :=
  Text.lower (Text.normalizeSpaces (Text.fromKey name))

/-- The form of a category's name in which it is stored. -/
def categoryKey (name : String) : String :=
  Text.toKey (Text.capitalizeFirst (Text.normalizeSpaces (Text.fromKey name)))

/-- The keys of the names of a wiki's own namespaces, each with the number; the latest stands first. -/
def ownNamespaces (site : Site) : List (String × Int) :=
  (site.customNamespaces.map fun c => (namespaceKey c.name, c.id)).reverse

/-- The number of the namespace with a name: one that every wiki has, or else one of its own. -/
def indexAmong (own : List (String × Int)) (name : String) : Option Int :=
  match Namespace.ofName? name with
  | some ns => some ns.id
  | none => List.lookup (namespaceKey name) own

/-- The number of the namespace with a name. -/
def namespaceIndex (site : Site) (name : String) : Option Int :=
  indexAmong site.ownNamespaces name

/-- The title that a text names. -/
def resolveTitle (site : Site) (text : String) : Option Title :=
  Title.read? (indexAmong site.ownNamespaces) text

/-- The categories as they are stored, each with those directly below it. One that is listed under
several spellings stands there as often. -/
def storedCategories (site : Site) : List (String × List String) :=
  site.categories.toList.map fun entry =>
    (categoryKey entry.1, (entry.2.map categoryKey).filter (· != ""))

/-- The categories directly below one, each at its first place. -/
def childrenAmong (stored : List (String × List String)) (parent : String) : List String :=
  ((stored.filter fun entry => entry.1 == parent).flatMap (·.2)).eraseDups

/-- The categories directly below one. -/
def children (site : Site) (parent : String) : List String :=
  childrenAmong site.storedCategories parent

/-- How far below a category others are looked for. -/
def maxDepth : Nat := 2

/-- The members of `found`, then those that up to `depth` steps more reach from the `frontier`. -/
def reach (step : String → List String) : Nat → List String → List String → List String
  | 0, _, found => found
  | depth + 1, frontier, found =>
    let next := (frontier.flatMap step).eraseDups.filter fun name => !found.contains name
    reach step depth next (found ++ next)

/-- The categories below one, level by level, down to a depth. -/
def belowAmong (stored : List (String × List String)) (category : String) (depth : Nat) :
    List String :=
  reach (childrenAmong stored) (min depth maxDepth) [categoryKey category] []

/-- The categories below one, level by level, down to a depth. -/
def subcategories (site : Site) (category : String) (depth : Nat) : List String :=
  belowAmong site.storedCategories category depth

/-- The value of a key of the request, or else the default. -/
def requestValue (site : Site) (key default : String) : String :=
  site.request.getD key default

/-- Whether the caller has a capability. -/
def hasCapability (site : Site) (name : String) : Bool :=
  site.capabilities.any fun capability => Text.trim capability == name

/-- The wiki that a description stands for. -/
def host (site : Site) : Host :=
  let own := site.ownNamespaces
  let stored := site.storedCategories
  { resolveTitle := Title.read? (indexAmong own)
    namespaceIndex := indexAmong own
    subcategories := belowAmong stored
    normalizeTimestamp := Timestamp.normalize
    requestValue := site.requestValue
    hasCapability := site.hasCapability }

theorem resolveTitle_host (site : Site) (text : String) :
    site.host.resolveTitle text = site.resolveTitle text := by
  simp only [host, resolveTitle]

theorem namespaceIndex_host (site : Site) (name : String) :
    site.host.namespaceIndex name = site.namespaceIndex name := by
  simp only [host, namespaceIndex]

theorem subcategories_host (site : Site) (category : String) (depth : Nat) :
    site.host.subcategories category depth = site.subcategories category depth := by
  simp only [host, subcategories]

end Site

end WikiQuery
