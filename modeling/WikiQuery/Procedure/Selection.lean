import WikiQuery.Procedure
import WikiQuery.Reading.Category
import WikiQuery.Reading.Title

/-!
The steps by which parameters are read that choose pages by category, title or namespace.
-/

set_option autoImplicit false

namespace WikiQuery.Procedure

open Reading (allowedNamespace? categoriesOf categoryKeyOf headingOf isUncategorized membersOf
  namespaceKeyOf termsOf titleKeyOf titlePatterns titlesOf withCategoryPattern withExact withGroup
  withTitlePatterns)
open Text (decoded trimmed)

/-- A list with an item behind it, unless the item is there. -/
def pushNew (items : List String) (item : String) : List String :=
  if items.contains item then items else items ++ [item]

/-- Writes the list of a parameter with more items behind it, each unless it is there by then. -/
def appendNew (key : String) (items : List String) : Procedure Unit := do
  let old := ((← query).list? key).getD []
  write key (.list (items.foldl pushNew old))

/-- What the terms of a line have called for so far. -/
structure Gathered where
  categories : List String := []
  uncategorized : Bool := false

/-- One more term of a line. -/
def Gathered.add (host : Host) (gathered : Gathered) (term : List Char) : Gathered :=
  if isUncategorized term then { gathered with uncategorized := true }
  else { gathered with categories := (membersOf host term).foldl pushNew gathered.categories }

/-- Adds a group of categories to the query, and to a list of headings if one is named. -/
def addGroup (heading : Option String) (isAnd : Bool) (group : List String) : Procedure Unit := do
  if group.isEmpty then return
  let selector := categoriesOf (← query) "category"
  write "category" (.categories (withGroup selector isAnd group))
  if let some key := heading then
    appendNew key group

/-- Reads a line of categories. -/
def category (host : Host) (text : String) : Procedure Bool := do
  let line := trimmed text.toList
  if line.isEmpty then return false
  let headed := headingOf line
  let terms := termsOf headed.2
  let gathered := terms.2.foldl (Gathered.add host) {}
  if gathered.categories.isEmpty && !gathered.uncategorized then return false
  addGroup headed.1 terms.1 gathered.categories
  if gathered.uncategorized then
    write "includeuncat" (.bool true)
  return true

/-- Reads a category of which no page is wanted. -/
def notCategory (host : Host) (text : String) : Procedure Bool := do
  let some title := host.resolveTitle (String.ofList (decoded (trimmed text.toList)))
    | return false
  let selector := categoriesOf (← query) "notcategory"
  write "notcategory" (.categories (withGroup selector false [title.key]))
  return true

/-- Reads a pattern for the names of categories. -/
def categoryPattern (side : Side) (kind : PatternKind) (text : String) : Procedure Bool := do
  let pattern := Text.trim text
  let selector := categoriesOf (← query) (categoryKeyOf side)
  write (categoryKeyOf side) (.categories
    (if pattern.isEmpty then selector else withCategoryPattern selector kind pattern))
  return true

/-- Reads an exact title. -/
def title (host : Host) (text : String) : Procedure Bool := do
  let some title := host.resolveTitle text | return false
  let selector := titlesOf (← query) "title"
  write "title" (.titles (withExact selector title.key))
  write "namespace" (.namespaces (Std.ExtTreeSet.ofList [title.namespaceId] compare))
  write "mode" (.text "userformat")
  write "ordermethod" (.list [])
  return true

/-- Reads an exact title that is not wanted. -/
def notTitle (host : Host) (text : String) : Procedure Bool := do
  let some title := host.resolveTitle text | return false
  let selector := titlesOf (← query) "nottitle"
  write "nottitle" (.titles (withExact selector title.key))
  return true

/-- Reads patterns for titles. -/
def titlePattern (side : Side) (kind : PatternKind) (text : String) : Procedure Bool := do
  let patterns := titlePatterns text
  if patterns.isEmpty then return false
  let selector := titlesOf (← query) (titleKeyOf side)
  write (titleKeyOf side) (.titles (withTitlePatterns selector kind patterns))
  return true

/-- Reads namespaces. All of them have to be found before any is written. -/
def inNamespace (side : Side) (settings : Settings) (host : Host) (text : String) :
    Procedure Bool := do
  let some ids := ((Text.split '|' text).map Text.trim).mapM (allowedNamespace? settings host)
    | return false
  let old := ((← query).namespaces? (namespaceKeyOf side)).getD ∅
  write (namespaceKeyOf side) (.namespaces (old.insertMany ids))
  return true

end WikiQuery.Procedure
