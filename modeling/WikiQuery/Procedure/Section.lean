import WikiQuery.Procedure
import WikiQuery.Reading.Section

/-!
The steps by which parameters are read for the parts of pages that are shown, and for the table that
shows them. A table is laid out place by place: its cells one after the other, and then the separators
of each part that is shown.
-/

set_option autoImplicit false

namespace WikiQuery.Procedure

open Reading (items)

/-- Reads the parts of pages that are shown. -/
def sections (text : String) : Procedure Bool := do
  if Text.isBlankText text then return false
  write "seclabels" (.list (items ',' text))
  write "incpage" (.bool true)
  return true

/-- Reads patterns that the shown parts have to match, or must not match. -/
def sectionMatch (parsed negated : Bool) (text : String) : Procedure Bool := do
  let key := if negated then "seclabelsnotmatch" else "seclabelsmatch"
  write key (.list (if Text.isBlankText text then [] else items ',' text))
  if parsed then
    write "incparsed" (.bool true)
  return true

/-- Reads what stands between the parts of one page, or between several parts of one name. -/
def separators (key : String) (text : String) : Procedure Bool := do
  write key (.list (Text.split ',' (Text.expandLineBreaks text)))
  return true

/-- Reads the forms of the cells of a row. -/
def tableRow (text : String) : Procedure Bool := do
  let expanded := Text.expandLineBreaks text
  write "tablerow" (.list (if Text.isBlankText expanded then [] else Text.split ',' expanded))
  return true

namespace Table

open Reading.Table (between cellOpening defaultClass linkCell rowOpening)

/-- Puts a text in a place of a list. A list that is too short is made longer by empty texts. -/
def setAt (items : List String) (place : Nat) (text : String) : List String :=
  let items :=
    if items.length ≤ place then items ++ List.replicate (place + 1 - items.length) "" else items
  items.set place text

/-- What the cells of a table have made so far: its opening, and the cell that links to the page. -/
structure Head where
  opening : String := ""
  link : String := linkCell

/-- One more cell of a table. The one in place 0 is the class; a dash in place 1 does away with the cell
that links to the page. -/
def Head.add (head : Head) (place : Nat) (cell : String) : Head :=
  if place = 0 then
    { head with opening := "\x7b|" ++ if cell.isEmpty then defaultClass else cell }
  else if place = 1 ∧ cell = "-" then { head with link := "" }
  else
    let header := if place = 1 ∧ cell.isEmpty then "Article" else cell
    { head with opening := head.opening ++ "\n!" ++ header }

/-- The opening of a table and the cell that links to the page, for the cells that a text gives. -/
def Head.ofCells (cells : List String) : Head :=
  cells.zipIdx.foldl (fun head cell => head.add cell.2 cell.1) {}

/-- The separators of the parts that are shown: before and behind each of them, and between several of
one name. -/
structure Separators where
  parts : List String
  several : List String

/-- The separators of one more part. The first part opens the row. -/
def Separators.add (row : String) (s : Separators) (place : Nat) (label : String) : Separators :=
  if place = 0 then
    { parts := setAt (setAt s.parts 0 row) 1 "", several := setAt s.several 0 row }
  else
    { parts := setAt (setAt s.parts (2 * place) cellOpening) (2 * place + 1) ""
      several := setAt s.several place (between label) }

/-- The separators with those of all parts that are shown. -/
def Separators.lay (row : String) (labels : List String) (s : Separators) : Separators :=
  labels.zipIdx.foldl (fun s label => s.add row label.2 label.1) s

end Table

open Table (Head Separators)

/-- Reads a table of the shown parts. -/
def table (text : String) : Procedure Bool := do
  let head := Head.ofCells (Text.split ',' text)
  let spec ← query
  let labels := (spec.list? "seclabels").getD []
  let old : Separators :=
    { parts := (spec.list? "secseparators").getD []
      several := (spec.list? "multisecseparators").getD [] }
  let laid := old.lay (Reading.Table.rowOpening ++ head.link) labels
  write "defaulttemplatesuffix" (.text "")
  write "mode" (.text "userformat")
  write "inlinetext" (.text "")
  write "listseparators" (.list [head.opening, "", "", "\n|\x7d"])
  if !labels.isEmpty then
    write "secseparators" (.list laid.parts)
    write "multisecseparators" (.list laid.several)
  write "table" (.text (String.ofList (Text.replacePair '%' '%' '%' text.toList)))
  return true

end WikiQuery.Procedure
