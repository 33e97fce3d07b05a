/-!
Structured values, and their text in JSON: in one line, or laid out with one member a line.
-/

set_option autoImplicit false

namespace WikiQuery

/-- A structured value. The members of an object stand in an order. -/
inductive Json
  | null
  | bool (b : Bool)
  | int (n : Int)
  | text (s : String)
  | list (items : List Json)
  | object (members : List (String × Json))

namespace Json

/-- The escape of a character within quotes, or the character. -/
def escapedChar (c : Char) : List Char :=
  if c = '"' then ['\\', '"']
  else if c = '\\' then ['\\', '\\']
  else if c = '\x08' then ['\\', 'b']
  else if c = '\t' then ['\\', 't']
  else if c = '\n' then ['\\', 'n']
  else if c = '\x0c' then ['\\', 'f']
  else if c = '\r' then ['\\', 'r']
  else if c.toNat < 0x20 then
    ['\\', 'u', '0', '0', Nat.digitChar (c.toNat / 16), Nat.digitChar (c.toNat % 16)]
  else [c]

/-- A text between quotes. -/
def quote (s : String) : String :=
  String.ofList ('"' :: s.toList.flatMap escapedChar ++ ['"'])

/-- The text of a value that has no parts. -/
def atom? : Json → Option String
  | null => some "null"
  | bool b => some (if b then "true" else "false")
  | int n =>
    some (String.ofList ((if n < 0 then ['-'] else []) ++ Nat.toDigits 10 n.natAbs))
  | text s => some (quote s)
  | list [] => some "[]"
  | object [] => some "\x7b\x7d"
  | list (_ :: _) | object (_ :: _) => none

mutual

/-- A value in one line. -/
def compact : Json → String
  | list items => "[" ++ ",".intercalate (compactItems items) ++ "]"
  | object members => "\x7b" ++ ",".intercalate (compactMembers members) ++ "\x7d"
  | value => (atom? value).getD ""

/-- Items in one line each. -/
def compactItems : List Json → List String
  | [] => []
  | item :: items => compact item :: compactItems items

/-- Members in one line each. -/
def compactMembers : List (String × Json) → List String
  | [] => []
  | (key, value) :: members => (quote key ++ ":" ++ compact value) :: compactMembers members

end

/-- Two spaces a level. -/
def indent (level : Nat) : String :=
  String.ofList (List.replicate (2 * level) ' ')

/-- Parts laid out with one part a line, between an opening and a closing. -/
def block (level : Nat) (opening closing : String) (parts : List String) : String :=
  let lines := parts.map fun part => indent (level + 1) ++ part
  opening ++ "\n" ++ ",\n".intercalate lines ++ "\n" ++ indent level ++ closing

mutual

/-- A value laid out with one member a line, at a level. -/
def prettyAt (level : Nat) : Json → String
  | list (item :: items) => block level "[" "]" (prettyItems (level + 1) (item :: items))
  | object (member :: members) =>
    block level "\x7b" "\x7d" (prettyMembers (level + 1) (member :: members))
  | value => (atom? value).getD ""

/-- Items laid out at a level. -/
def prettyItems (level : Nat) : List Json → List String
  | [] => []
  | item :: items => prettyAt level item :: prettyItems level items

/-- Members laid out at a level. -/
def prettyMembers (level : Nat) : List (String × Json) → List String
  | [] => []
  | (key, value) :: members =>
    (quote key ++ ": " ++ prettyAt level value) :: prettyMembers level members

end

/-- A value laid out with one member a line. -/
def pretty (value : Json) : String :=
  prettyAt 0 value

/-- A list of texts. -/
def texts (items : List String) : Json :=
  .list (items.map .text)

mutual

/-- The value with the members of all objects in the order of their names. -/
def sorted : Json → Json
  | list items => .list (sortedItems items)
  | object members => .object ((sortedMembers members).mergeSort fun a b => decide (a.1 ≤ b.1))
  | value => value

/-- Items with their members in order. -/
def sortedItems : List Json → List Json
  | [] => []
  | item :: items => sorted item :: sortedItems items

/-- Members whose values have their own members in order. -/
def sortedMembers : List (String × Json) → List (String × Json)
  | [] => []
  | (key, value) :: members => (key, sorted value) :: sortedMembers members

end

end Json

end WikiQuery
