import Std.Data.ExtTreeMap
import Std.Data.ExtTreeSet
import WikiQuery.Title

/-!
The values of parameters: what a query asks for, once the text of its parameters has been read.
-/

set_option autoImplicit false

namespace WikiQuery

/-- A page that a parameter names: an existing title, or a name taken as it is. -/
inductive PageReference
  | title (title : Title)
  | name (name : String)
  deriving DecidableEq

/-- The text by which a page is named. -/
def PageReference.text : PageReference → String
  | title t => t.text
  | name s => s

/-- The categories that a query selects by: groups of which all members are asked for, groups of
which one is, and patterns of two kinds. -/
structure CategorySelector where
  allOf : List (List String) := []
  anyOf : List (List String) := []
  regexp : List String := []
  like : List String := []
  deriving DecidableEq

namespace CategorySelector

/-- The members of the groups of which all are asked for, each once. -/
def andTerms (s : CategorySelector) : List String :=
  s.allOf.flatten.eraseDups

/-- The members of the groups of which one is asked for, each once. -/
def orTerms (s : CategorySelector) : List String :=
  s.anyOf.flatten.eraseDups

/-- The number of terms, counted as often as they are given. -/
def termCount (s : CategorySelector) : Nat :=
  (s.allOf ++ s.anyOf).flatten.length + s.regexp.length + s.like.length

/-- Whether there is no term. -/
def isEmpty (s : CategorySelector) : Bool :=
  s.termCount == 0

end CategorySelector

/-- The titles that a query selects by: exact ones, and patterns of two kinds. -/
structure TitleSelector where
  exact : List String := []
  regexp : List String := []
  like : List String := []
  deriving DecidableEq

/-- Whether pages are listed once only. -/
inductive Distinctness
  | off | on | strict
  deriving DecidableEq

/-- Whether links to pages are listed, and to which. -/
inductive OpenReferences
  | no | yes | missing
  deriving DecidableEq

/-- Whether links are listed at all. -/
def OpenReferences.isEnabled (r : OpenReferences) : Bool :=
  r != .no

/-- The value of a parameter. -/
inductive Value
  | bool (b : Bool)
  | int (n : Int)
  | text (s : String)
  | list (items : List String)
  | pageGroups (groups : List (List PageReference))
  | namespaces (ids : Std.ExtTreeSet Int)
  | categories (selector : CategorySelector)
  | titles (selector : TitleSelector)
  | flags (flags : Std.ExtTreeMap String Bool)
  | distinct (mode : Distinctness)
  | openReferences (mode : OpenReferences)
  deriving DecidableEq

end WikiQuery
