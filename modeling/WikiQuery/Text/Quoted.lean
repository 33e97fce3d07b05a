import WikiQuery.Text.GraphemeExtend
import WikiQuery.Text.Unprintable

/-!
Text between double quotes, in a form that shows every character: quotes, backslashes, breaks and
what would not be seen on its own are escaped.
-/

set_option autoImplicit false

namespace WikiQuery.Text

/-- The fillers of the Korean script: letters that hold a place and show nothing. -/
def fillers : List Char :=
  ['\u115f', '\u1160', '\u3164', '\uffa0']

/-- The halfwidth marks of voicing: they extend the character before them, but stand in a place of
their own and are seen there. -/
def halfwidthMarks : List Char :=
  ['\uff9e', '\uff9f']

/-- Whether a character would not be seen on its own. -/
def isInvisible (c : Char) : Bool :=
  unprintable.contains c || fillers.contains c ||
    graphemeExtend.contains c && !halfwidthMarks.contains c

/-- The digits of a number in base sixteen. -/
def hexDigits (n : Nat) : List Char :=
  Nat.toDigits 16 n

/-- A character between double quotes. -/
def quotedChar (c : Char) : List Char :=
  if c = '\x00' then ['\\', '0']
  else if c = '\t' then ['\\', 't']
  else if c = '\r' then ['\\', 'r']
  else if c = '\n' then ['\\', 'n']
  else if c = '"' then ['\\', '"']
  else if c = '\\' then ['\\', '\\']
  else if isInvisible c then ['\\', 'u', '\x7b'] ++ hexDigits c.toNat ++ ['\x7d']
  else [c]

/-- A text between double quotes. -/
def quoted (s : String) : String :=
  String.ofList ('"' :: s.toList.flatMap quotedChar ++ ['"'])

end WikiQuery.Text
