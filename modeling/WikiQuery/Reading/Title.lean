import WikiQuery.Handler
import WikiQuery.Host
import WikiQuery.Settings
import WikiQuery.Specification

/-!
Parameters that choose pages by title or namespace.
-/

set_option autoImplicit false

namespace WikiQuery.Reading

open Text (pieces trimmed)

/-- The titles that a query has under a name, none if it has no such value. -/
def titlesOf (spec : Specification) (name : String) : TitleSelector :=
  (spec.titles? name).getD {}

/-- A selector with one exact title more. -/
def withExact (selector : TitleSelector) (key : String) : TitleSelector :=
  { selector with exact := selector.exact ++ [key] }

/-- An exact title. It fixes the namespace, the form of the list and that there is no order. -/
def title (host : Host) (spec : Specification) (text : String) : Option Change :=
  (host.resolveTitle text).map fun title =>
    { writes := [
        ("title", .titles (withExact (titlesOf spec "title") title.key)),
        ("namespace", .namespaces (Std.ExtTreeSet.ofList [title.namespaceId] compare)),
        ("mode", .text "userformat"),
        ("ordermethod", .list [])] }

/-- An exact title that is not wanted. -/
def notTitle (host : Host) (spec : Specification) (text : String) : Option Change :=
  (host.resolveTitle text).map fun title =>
    { writes := [("nottitle", .titles (withExact (titlesOf spec "nottitle") title.key))] }

/-- The parameter that gathers the titles of a side. -/
def titleKeyOf : Side → String
  | .wanted => "title"
  | .unwanted => "nottitle"

/-- A pattern with its spaces written as escaped underscores, which is how titles are stored. -/
def escapedSpaces (cs : List Char) : List Char :=
  cs.flatMap fun c => if c = ' ' then ['\\', '_'] else [c]

/-- The patterns of a line, divided by bars; empty ones are left out. -/
def titlePatterns (text : String) : List String :=
  let parts := ((pieces '|' text.toList).map trimmed).filter fun cs => !cs.isEmpty
  parts.map fun cs => String.ofList (escapedSpaces cs)

/-- A selector with more patterns. -/
def withTitlePatterns (selector : TitleSelector) (kind : PatternKind) (patterns : List String) :
    TitleSelector :=
  match kind with
  | .regexp => { selector with regexp := selector.regexp ++ patterns }
  | .like => { selector with like := selector.like ++ patterns }

/-- Patterns for titles. -/
def titlePattern (side : Side) (kind : PatternKind) (spec : Specification) (text : String) :
    Option Change :=
  let patterns := titlePatterns text
  if patterns.isEmpty then none
  else
    some { writes := [(titleKeyOf side, .titles
      (withTitlePatterns (titlesOf spec (titleKeyOf side)) kind patterns))] }

/-- The parameter that gathers the namespaces of a side. -/
def namespaceKeyOf : Side → String
  | .wanted => "namespace"
  | .unwanted => "notnamespace"

/-- The number of a namespace that may be asked for. -/
def allowedNamespace? (settings : Settings) (host : Host) (name : String) : Option Int :=
  if settings.allowsNamespace name then host.namespaceIndex name else none

/-- Namespaces, divided by bars; each of them has to be one that may be asked for. -/
def inNamespace (side : Side) (settings : Settings) (host : Host) (spec : Specification)
    (text : String) : Option Change :=
  (((Text.split '|' text).map Text.trim).mapM (allowedNamespace? settings host)).map fun ids =>
    let old := (spec.namespaces? (namespaceKeyOf side)).getD ∅
    { writes := [(namespaceKeyOf side, .namespaces (old.insertMany ids))] }

end WikiQuery.Reading
