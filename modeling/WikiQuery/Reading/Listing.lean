import WikiQuery.Parameter
import WikiQuery.Specification
import WikiQuery.Text.Tag
import WikiQuery.Text.Truth

/-!
Parameters for the form and the order of a list of pages.
-/

set_option autoImplicit false

namespace WikiQuery.Reading

/-- The items of a list, trimmed. -/
def items (sep : Char) (text : String) : List String :=
  (Text.split sep text).map Text.trim

/-- What pages are ordered by. Any order but none conflicts with a listing of open references. -/
def orderMethod (p : Parameter) (text : String) : Option Change :=
  let methods := items ',' (Text.lower text)
  if methods.all p.namedValues.contains then
    some
      { writes := [("ordermethod", .list methods)]
        conflicts := methods.head? != some "none" }
  else none

/-- The break that stands between the items of a list in one line. -/
def inlineBreak : String := "<br />"

/-- The form of the list. -/
def mode (p : Parameter) (text : String) : Option Change :=
  let mode := Text.lower (Text.trim text)
  if !p.namedValues.contains mode then none
  else
    some { writes :=
      if mode = "none" then [("mode", .text "inline"), ("inlinetext", .text inlineBreak)]
      else if mode = "userformat" then [("mode", .text "userformat"), ("inlinetext", .text "")]
      else [("mode", .text mode)] }

/-- Whether pages are listed once only. -/
def distinct (text : String) : Option Change :=
  let word := Text.lower (Text.trim text)
  let value : Option Distinctness :=
    if word = "strict" then some .strict
    else (Text.truth? word).map fun b => if b then .on else .off
  value.map fun value => { writes := [("distinct", .distinct value)] }

/-- Whether links to pages are listed, and to which. -/
def openReferences (text : String) : Option Change :=
  let word := Text.lower (Text.trim text)
  let value : Option OpenReferences :=
    if word = "missing" then some .missing
    else (Text.truth? word).map fun b => if b then .yes else .no
  value.map fun value => { writes := [("openreferences", .openReferences value)] }

/-- The collation that titles are ordered by, or the order of suits at cards. -/
def orderCollation (text : String) : Option Change :=
  let name := Text.trim text
  if name.isEmpty then none
  else
    some { writes :=
      [if Text.eqIgnoringCase name "bridge" then ("ordersuitsymbols", .bool true)
      else ("ordercollation", .text name)] }

/-- What stands before the list, before an item, behind an item and behind the list. -/
def format (text : String) : Option Change :=
  let expanded := Text.expandLineBreaks (Text.stripHtmlTags text)
  some { writes := [
    ("listseparators", .list (Text.splitAtMost ',' 3 expanded)),
    ("mode", .text "userformat"),
    ("inlinetext", .text "")] }

/-- The words that stand for all flags of a set or for none of them. -/
def isFlagGroup (word : String) : Bool :=
  word == "all" || word == "none"

/-- The flags after one more word of a line, where `known` are the flags that there are. -/
def setFlag (known : List String) (flags : Std.ExtTreeMap String Bool) (word : String) :
    Std.ExtTreeMap String Bool :=
  if isFlagGroup word then flags.insertMany (known.map fun flag => (flag, word == "all"))
  else flags.insert word true

/-- A line of flags that are set; the words for all and none of them count at their place. -/
def flagSet (p : Parameter) (spec : Specification) (text : String) : Option Change :=
  let words := (items ',' (Text.lower text)).filter fun word => !word.isEmpty
  if words.isEmpty || !words.all p.namedValues.contains then none
  else
    let known := p.namedValues.filter fun flag => !isFlagGroup flag
    let flags := words.foldl (setFlag known) ((spec.flags? p.name).getD ∅)
    some { writes := [(p.name, .flags flags)] }

/-- A pattern and what replaces its matches in titles, without tags. -/
def replaceInTitle (text : String) : Option Change :=
  match Text.splitAtMost ',' 1 text with
  | [] => none
  | pattern :: replacement =>
    if Text.isBlankText pattern then none
    else some { writes :=
      [("replaceintitle", .list (pattern :: replacement.map Text.stripHtmlTags))] }

end WikiQuery.Reading
