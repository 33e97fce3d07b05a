import WikiQuery.Settings.Environment
import WikiQuery.Site
import WikiQuery.Toml.Document

/-!
Settings, and the description of a wiki, from a document. What the document leaves out has its
default, and what it has beyond is passed over. A section may also be given as an array of its
members in their order.
-/

set_option autoImplicit false

namespace WikiQuery

/-- What a document configures. -/
structure Configuration where
  settings : Settings := {}
  site : Site := {}
  deriving DecidableEq

namespace Configuration

/-- The members of a section, by their place and name. -/
abbrev Section := Nat → String → Option Toml.Value

/-- The section that a value holds. -/
def section? : Toml.Value → Option Section
  | .array items => some fun place _ => items[place]?
  | v => v.members?.map fun members _ key => List.lookup key members

/-- The member of a section, read, or else its default. -/
def member {α : Type} (s : Section) (place : Nat) (key : String) (read : Toml.Value → Option α)
    (default : α) : Option α :=
  match s place key with
  | some v => read v
  | none => some default

/-- A text. -/
def text? : Toml.Value → Option String
  | .text s => some s
  | _ => none

/-- A truth value. -/
def truth? : Toml.Value → Option Bool
  | .bool b => some b
  | _ => none

/-- An integer. -/
def integer? : Toml.Value → Option Int
  | .integer n => some n
  | _ => none

/-- An integer that is not negative. -/
def natural? (v : Toml.Value) : Option Nat :=
  (integer? v).bind Int.toNat?

/-- A number of at most eight bits. -/
def byte? (v : Toml.Value) : Option Nat :=
  (natural? v).filter fun n => decide (n ≤ 255)

/-- An integer of 32 bits with a sign. -/
def int32? (v : Toml.Value) : Option Int :=
  (integer? v).filter fun n => decide (-2147483648 ≤ n ∧ n ≤ 2147483647)

/-- A list of items that are read alike. -/
def list? {α : Type} (read : Toml.Value → Option α) : Toml.Value → Option (List α)
  | .array items => items.mapM read
  | _ => none

/-- A table of members that are read alike. -/
def map? {α : Type} (read : Toml.Value → Option α) (v : Toml.Value) :
    Option (Std.ExtTreeMap String α) := do
  let members ← v.members?
  let entries ← members.mapM fun m => (read m.2).map fun a => (m.1, a)
  some (Std.ExtTreeMap.ofList entries compare)

/-- The policy with a name, letter by letter. -/
def policyNamed? : String → Option UnknownPolicy
  | "warn" => some .warn
  | "abort" => some .abort
  | _ => none

/-- A policy: its name, or a table in which nothing stands under its name. -/
def policy? : Toml.Value → Option UnknownPolicy
  | .text name => policyNamed? name
  | .table [(name, .table [])] => policyNamed? name
  | .table [(name, .array [])] => policyNamed? name
  | _ => none

/-- The settings of a section. -/
def settings? (v : Toml.Value) : Option Settings := do
  let s ← section? v
  let d : Settings := {}
  let richness ← member s 0 "functional_richness" byte? d.richness
  let maxCategories ← member s 1 "max_category_count" natural? d.maxCategories
  let minCategories ← member s 2 "min_category_count" natural? d.minCategories
  let unlimitedCategories ← member s 3 "allow_unlimited_categories" truth? d.unlimitedCategories
  let maxResults ← member s 4 "max_result_count" integer? d.maxResults
  let unlimitedResults ← member s 5 "allow_unlimited_results" truth? d.unlimitedResults
  let allowedNamespaces ←
    member s 6 "allowed_namespaces" (fun v => (list? text? v).map some) d.allowedNamespaces
  let unknownParameters ← member s 7 "unknown_parameters" policy? d.unknownParameters
  some ⟨richness, maxCategories, minCategories, unlimitedCategories, maxResults, unlimitedResults,
    allowedNamespaces, unknownParameters⟩

/-- A namespace with its name and number, of which none may be left out. -/
def customNamespace? (v : Toml.Value) : Option CustomNamespace := do
  let s ← section? v
  let name ← (s 0 "name").bind text?
  let id ← (s 1 "id").bind int32?
  some ⟨name, id⟩

/-- The description of a wiki in a section. -/
def site? (v : Toml.Value) : Option Site := do
  let s ← section? v
  let d : Site := {}
  let customNamespaces ← member s 0 "custom_namespaces" (list? customNamespace?) d.customNamespaces
  let categories ← member s 1 "categories" (map? (list? text?)) d.categories
  let request ← member s 2 "request" (map? text?) d.request
  let capabilities ← member s 3 "capabilities" (list? text?) d.capabilities
  some ⟨customNamespaces, categories, request, capabilities⟩

/-- What the text of a document configures. -/
def ofText? (text : String) : Option Configuration := do
  let members ← Toml.document? text
  let s : Section := fun _ key => List.lookup key members
  let settings ← member s 0 "engine" settings? {}
  let site ← member s 1 "site" site? {}
  some ⟨settings, site⟩

/-- What the text of the document at a path configures, unless it asks for what there is not. -/
def read (path text : String) : Except SettingsError Configuration :=
  match ofText? text with
  | none => .error (.malformed path)
  | some c =>
    if Settings.maxRichness < c.settings.richness then .error (.richnessOutOfRange path)
    else if c.site.customNamespaces.any fun ns => Text.isBlankText ns.name then
      .error .unnamedNamespace
    else .ok c

end Configuration

/-- What there is at the path of a file. -/
inductive FileContent
  | missing
  | unreadable
  | text (s : String)
  deriving DecidableEq, Repr

/-- What the document at a path configures; where there is none, all has its default. -/
def Configuration.load (path : String) : FileContent → Except SettingsError Configuration
  | .missing => .ok {}
  | .unreadable => .error (.unreadable path)
  | .text s => Configuration.read path s

end WikiQuery
