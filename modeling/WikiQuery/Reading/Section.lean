import WikiQuery.Specification
import WikiQuery.Reading.Listing

/-!
Parameters for the parts of pages that are shown, and for the table that shows them.
-/

set_option autoImplicit false

namespace WikiQuery.Reading

/-- The parts of pages that are shown. -/
def sections (text : String) : Option Change :=
  if Text.isBlankText text then none
  else some { writes := [("seclabels", .list (items ',' text)), ("incpage", .bool true)] }

/-- Patterns that the shown parts have to match, or must not match. -/
def sectionMatch (parsed negated : Bool) (text : String) : Option Change :=
  let key := if negated then "seclabelsnotmatch" else "seclabelsmatch"
  let patterns := if Text.isBlankText text then [] else items ',' text
  some { writes := (key, .list patterns) :: if parsed then [("incparsed", .bool true)] else [] }

/-- What stands between the parts of one page, or between several parts of one name. -/
def separators (key : String) (text : String) : Option Change :=
  some { writes := [(key, .list (Text.split ',' (Text.expandLineBreaks text)))] }

/-- The forms of the cells of a row. -/
def tableRow (text : String) : Option Change :=
  let expanded := Text.expandLineBreaks text
  let cells := if Text.isBlankText expanded then [] else Text.split ',' expanded
  some { writes := [("tablerow", .list cells)] }

namespace Table

/-- The class of a table that names none. -/
def defaultClass : String := "class=wikitable"

/-- The cell that links to the page. -/
def linkCell : String := "[[%PAGE%|%TITLE%]]\n|"

/-- The start of a row. -/
def rowOpening : String := "\n|-\n|"

/-- The start of a cell within a row. -/
def cellOpening : String := "\n|"

/-- What stands between several parts of one name: a rule where the name is a number, and else a
break. -/
def between (label : String) : String :=
  if label.toList.head? = some '#' then "\n----\n" else "<br/>\n"

/-- The first header; a lone dash calls for no cell that links to the page. -/
def firstHeader (cell : String) : List String :=
  if cell = "-" then [] else [if cell.isEmpty then "Article" else cell]

/-- The headers of a table, for the cells behind its class. -/
def headers : List String → List String
  | [] => []
  | cell :: cells => firstHeader cell ++ cells

/-- The opening of a table: its class, and its headers in lines of their own. -/
def opening (tableClass : String) (cells : List String) : String :=
  "\x7b|" ++ (if tableClass.isEmpty then defaultClass else tableClass) ++
    String.join ((headers cells).map ("\n!" ++ ·))

/-- The opening of a row with the cell that links to the page, unless the first header is a dash. -/
def row (cells : List String) : String :=
  rowOpening ++ if cells.head? = some "-" then "" else linkCell

/-- What stands before and behind each part: the row opens before the first one. -/
def partSeparators (row : String) : List String → List String
  | [] => []
  | _ :: labels => row :: "" :: labels.flatMap fun _ => [cellOpening, ""]

/-- What stands between several parts of one name: the row before the first one. -/
def multiSeparators (row : String) : List String → List String
  | [] => []
  | _ :: labels => row :: labels.map between

/-- A list with its first members replaced. -/
def overwrite (new old : List String) : List String :=
  new ++ old.drop new.length

end Table

/-- A table of the shown parts: its class, then the headers of its cells. The separators of the parts
that are shown so far are laid out to fit it. -/
def table (spec : Specification) (text : String) : Option Change :=
  let cells := Text.split ',' text
  let row := Table.row cells.tail
  let labels := (spec.list? "seclabels").getD []
  let old := fun key => (spec.list? key).getD []
  let layout : List (String × Value) := [
    ("defaulttemplatesuffix", .text ""),
    ("mode", .text "userformat"),
    ("inlinetext", .text ""),
    ("listseparators", .list [Table.opening (cells.headD "") cells.tail, "", "", "\n|\x7d"])]
  let parts : List (String × Value) :=
    if labels.isEmpty then []
    else [
      ("secseparators", .list
        (Table.overwrite (Table.partSeparators row labels) (old "secseparators"))),
      ("multisecseparators", .list
        (Table.overwrite (Table.multiSeparators row labels) (old "multisecseparators")))]
  let source := String.ofList (Text.replacePair '%' '%' '%' text.toList)
  some { writes := layout ++ parts ++ [("table", .text source)] }

end WikiQuery.Reading
