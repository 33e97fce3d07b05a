import WikiQuery.Handler
import WikiQuery.Host
import WikiQuery.Specification
import WikiQuery.Text.Entity

/-!
Parameters that choose pages by category.

A line of categories is one group. Its terms are divided by bare ampersands if there are any, and
then all of them are asked for, and else by bars. A term may call for the categories below it with
one star or two in front, and the empty term calls for pages without a category.
-/

set_option autoImplicit false

namespace WikiQuery.Reading

open Text (bareAmpersandPieces decoded pieces toKey trimmed)

/-- The items of a list that are new are put behind it, each once. -/
def withNew (old items : List String) : List String :=
  old ++ (items.filter fun item => !old.contains item).eraseDups

/-- The list that a mark in front of a line adds its categories to, and the line without it. -/
def headingOf : List Char → Option String × List Char
  | '+' :: cs => (some "catheadings", cs)
  | '-' :: cs => (some "catnotheadings", cs)
  | cs => (none, cs)

/-- The terms of a line, and whether all of them are asked for. -/
def termsOf (cs : List Char) : Bool × List (List Char) :=
  let parts := bareAmpersandPieces cs
  let isAnd := decide (1 < parts.length)
  (isAnd, (if isAnd then parts else pieces '|' cs).map fun part => trimmed (decoded part))

/-- Whether a term calls for pages without a category. -/
def isUncategorized (term : List Char) : Bool :=
  term.isEmpty || term == "_none_".toList

/-- How far below the named category others are called for, and the name. -/
def depthOf : List Char → Nat × List Char
  | '*' :: '*' :: cs => (2, cs)
  | '*' :: cs => (1, cs)
  | cs => (0, cs)

/-- The categories that a term stands for: those below the one it names, then that one. A name that
is no title stands for none. -/
def membersOf (host : Host) (term : List Char) : List String :=
  let parts := depthOf term
  match host.resolveTitle (String.ofList (trimmed parts.2)) with
  | none => []
  | some title =>
    (if 0 < parts.1 then (host.subcategories title.key parts.1).map toKey else []) ++ [title.key]

/-- The categories that the terms of a line stand for, each once. -/
def groupOf (host : Host) (terms : List (List Char)) : List String :=
  ((terms.filter fun term => !isUncategorized term).flatMap (membersOf host)).eraseDups

/-- A selector with one group more. -/
def withGroup (selector : CategorySelector) (isAnd : Bool) (group : List String) :
    CategorySelector :=
  if isAnd then { selector with allOf := selector.allOf ++ [group] }
  else { selector with anyOf := selector.anyOf ++ [group] }

/-- The categories that a query has under a name, none if it has no such value. -/
def categoriesOf (spec : Specification) (name : String) : CategorySelector :=
  (spec.categories? name).getD {}

/-- What a group of categories adds to a query. -/
def groupWrites (spec : Specification) (heading : Option String) (isAnd : Bool)
    (group : List String) : List (String × Value) :=
  if group.isEmpty then []
  else
    ("category", .categories (withGroup (categoriesOf spec "category") isAnd group)) ::
      match heading with
      | some key => [(key, .list (withNew ((spec.list? key).getD []) group))]
      | none => []

/-- A line of categories. -/
def category (host : Host) (spec : Specification) (text : String) : Option Change :=
  let cs := trimmed text.toList
  if cs.isEmpty then none
  else
    let headed := headingOf cs
    let terms := termsOf headed.2
    let group := groupOf host terms.2
    let uncategorized := terms.2.any isUncategorized
    if group.isEmpty && !uncategorized then none
    else
      some { writes := groupWrites spec headed.1 terms.1 group ++
        if uncategorized then [("includeuncat", .bool true)] else [] }

/-- A category of which no page is wanted. -/
def notCategory (host : Host) (spec : Specification) (text : String) : Option Change :=
  (host.resolveTitle (String.ofList (decoded (trimmed text.toList)))).map fun title =>
    { writes := [("notcategory",
        .categories (withGroup (categoriesOf spec "notcategory") false [title.key]))] }

/-- The parameter that gathers the categories of a side. -/
def categoryKeyOf : Side → String
  | .wanted => "category"
  | .unwanted => "notcategory"

/-- A selector with one pattern more. -/
def withCategoryPattern (selector : CategorySelector) (kind : PatternKind) (pattern : String) :
    CategorySelector :=
  match kind with
  | .regexp => { selector with regexp := selector.regexp ++ [pattern] }
  | .like => { selector with like := selector.like ++ [pattern] }

/-- A pattern for the names of categories; an empty one adds nothing. -/
def categoryPattern (side : Side) (kind : PatternKind) (spec : Specification) (text : String) :
    Option Change :=
  let pattern := Text.trim text
  let selector := categoriesOf spec (categoryKeyOf side)
  some { writes := [(categoryKeyOf side, .categories
    (if pattern.isEmpty then selector else withCategoryPattern selector kind pattern))] }

end WikiQuery.Reading
