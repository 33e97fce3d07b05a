import WikiQuery.Text.Blank
import WikiQuery.Text.Case

/-!
Truth values as text.
-/

set_option autoImplicit false

namespace WikiQuery.Text

/-- The words for true. -/
def trueWords : List String :=
  ["1", "true", "yes", "on"]

/-- The words for false; no word at all is one of them. -/
def falseWords : List String :=
  ["0", "false", "no", "off", ""]

/-- The truth value that a text stands for. The white space around it and the case of ASCII letters
do not count. -/
def truth? (s : String) : Option Bool :=
  let word := lowerAscii (trim s)
  if trueWords.contains word then some true
  else if falseWords.contains word then some false
  else none

end WikiQuery.Text
