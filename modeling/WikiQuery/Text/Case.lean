import WikiQuery.Text.CaseIgnorable
import WikiQuery.Text.CaseRun
import WikiQuery.Text.Cased

/-!
Lower and upper case. The lower case of a text depends on more than its single characters in one
place only: a capital sigma that ends a word becomes the final sigma.
-/

set_option autoImplicit false

namespace WikiQuery.Text

/-- The small sigma, and the form of it that ends words. -/
def smallSigma : Char := '\u03c3'

@[inherit_doc smallSigma]
def finalSigma : Char := '\u03c2'

/-- The capital sigma. -/
def capitalSigma : Char := '\u03a3'

/-- The lower case of one character out of context; the dotted capital i has two characters. -/
def lowerChar (c : Char) : List Char :=
  if c = '\u0130' then ['i', '\u0307'] else [Char.ofNat (CaseRun.map lowerRuns c.toNat)]

/-- The upper case of one character. -/
def upperChar (c : Char) : List Char :=
  match upperExpansions.find? (·.1 == c.toNat) with
  | some entry => entry.2.map Char.ofNat
  | none => [Char.ofNat (CaseRun.map upperRuns c.toNat)]

/-- Whether the first character that is not skipped is a letter with case. -/
def meetsCased (cs : List Char) : Bool :=
  match cs.dropWhile caseIgnorable.contains with
  | [] => false
  | c :: _ => cased.contains c

/-- The lower case of the text that follows `before`, which is given backwards. -/
def lowerAfter (before : List Char) : List Char → List Char
  | [] => []
  | c :: cs =>
    (if c = capitalSigma then
      [if meetsCased before && !meetsCased cs then finalSigma else smallSigma]
    else lowerChar c) ++ lowerAfter (c :: before) cs

/-- The lower case of a text. -/
def lowered (cs : List Char) : List Char :=
  lowerAfter [] cs

/-- The lower case of a text. -/
def lower (s : String) : String :=
  String.ofList (lowered s.toList)

/-- The lower case of a text as far as it is ASCII. -/
def lowerAscii (s : String) : String :=
  String.ofList (s.toList.map Char.toLower)

/-- The upper case of a text as far as it is ASCII. -/
def upperAscii (s : String) : String :=
  String.ofList (s.toList.map Char.toUpper)

/-- Whether two texts agree when the case of ASCII letters does not count. -/
def eqIgnoringCase (s t : String) : Bool :=
  lowerAscii s == lowerAscii t

/-- The text with its first character in upper case. -/
def capitalized : List Char → List Char
  | [] => []
  | c :: cs => upperChar c ++ cs

/-- The text with its first character in upper case. -/
def capitalizeFirst (s : String) : String :=
  String.ofList (capitalized s.toList)

end WikiQuery.Text
