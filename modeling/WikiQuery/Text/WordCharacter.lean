import WikiQuery.Text.Alphabetic
import WikiQuery.Text.DecimalDigit
import WikiQuery.Text.OtherNumber
import WikiQuery.Text.WordMark

/-!
The characters of words, and the letters and numbers of all scripts.
-/

set_option autoImplicit false

namespace WikiQuery.Text

/-- Whether a character is one of words, as the class `\w` of a pattern reads them. -/
def isWordChar (c : Char) : Bool :=
  decimalDigits.contains c || alphabetic.contains c || wordMarks.contains c

/-- Whether a character is a letter or a number. -/
def isAlphanumeric (c : Char) : Bool :=
  decimalDigits.contains c || alphabetic.contains c || otherNumbers.contains c

end WikiQuery.Text
