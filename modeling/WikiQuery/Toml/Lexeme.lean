import WikiQuery.Number.Digits
import WikiQuery.Text.Entity

/-!
The smallest pieces of a document in TOML: blanks, comments, breaks, quoted texts and runs of digits.
Each reader takes a text and gives what it read with the text behind it.
-/

set_option autoImplicit false

namespace WikiQuery.Toml

/-- Reads something at the start of a text. -/
abbrev Reader (α : Type) := List Char → Option (α × List Char)

/-- How many levels deep values may be nested, and how many keys a path may have. -/
def maxDepth : Nat := 80

/-- A space or a tab. -/
def isGap (c : Char) : Bool :=
  c == ' ' || c == '\t'

/-- Whether a character may stand in a comment. -/
def isPlain (c : Char) : Bool :=
  c == '\t' || decide ((0x20 ≤ c.toNat ∧ c.toNat ≤ 0x7E) ∨ 0x80 ≤ c.toNat)

/-- The text behind the gap at its start. -/
def skipGap (cs : List Char) : List Char :=
  cs.dropWhile isGap

/-- The text behind the break at its start. -/
def break? : List Char → Option (List Char)
  | '\n' :: cs => some cs
  | '\r' :: '\n' :: cs => some cs
  | _ => none

/-- The text behind the comment at its start, if one is there. -/
def skipComment : List Char → List Char
  | '#' :: cs => cs.dropWhile isPlain
  | cs => cs

/-- The text behind the end of a line, which may have a comment in front. -/
def lineEnd? (cs : List Char) : Option (List Char) :=
  match skipComment (skipGap cs) with
  | [] => some []
  | cs => break? cs

/-- The text behind gaps, breaks, and comments that end with a break; `inComment` says that one is
under way. -/
def skipLines (inComment : Bool) : List Char → List Char
  | [] => []
  | '\r' :: '\n' :: cs => skipLines false cs
  | c :: cs =>
    if c = '\n' then skipLines false cs
    else if inComment then if isPlain c then skipLines true cs else c :: cs
    else if isGap c then skipLines false cs
    else if c = '#' then skipLines true cs
    else c :: cs

/-- The character that an escape of one letter stands for. -/
def simpleEscape? : Char → Option Char
  | 'b' => some '\x08'
  | 't' => some '\t'
  | 'n' => some '\n'
  | 'f' => some '\x0c'
  | 'r' => some '\r'
  | '"' => some '"'
  | '\\' => some '\\'
  | _ => none

/-- Reads an escape behind its backslash: one letter, or the number of a character in four or eight
digits. -/
def escape? : Reader Char
  | 'u' :: cs => numbered 4 cs
  | 'U' :: cs => numbered 8 cs
  | c :: cs => (simpleEscape? c).map (·, cs)
  | [] => none
where
  /-- The character whose number is written in so many digits. -/
  numbered (width : Nat) (cs : List Char) : Option (Char × List Char) :=
    if cs.length < width then none
    else ((Number.digits? 16 (cs.take width)).bind Text.charOfCode?).map (·, cs.drop width)

/-- What a reader gives, with a character in front. -/
def withFirst (c : Char) (r : Option (List Char × List Char)) : Option (List Char × List Char) :=
  r.map fun p => (c :: p.1, p.2)

/-- Reads a text in one line behind its opening double quote. -/
def basic? (cs : List Char) : Option (List Char × List Char) :=
  match cs with
  | [] => none
  | '"' :: rest => some ([], rest)
  | '\\' :: rest =>
    match escape? rest with
    | some (c, behind) => if behind.length ≤ rest.length then withFirst c (basic? behind) else none
    | none => none
  | c :: rest => if isPlain c then withFirst c (basic? rest) else none
termination_by cs.length

/-- The text behind a backslash at the end of a line: the breaks and gaps that follow are left out. -/
def continued? (cs : List Char) : Option (List Char) :=
  (break? (skipGap cs)).map skipBreaks
where
  /-- The text behind gaps and breaks. -/
  skipBreaks : List Char → List Char
    | '\r' :: '\n' :: cs => skipBreaks cs
    | c :: cs => if isGap c || c == '\n' then skipBreaks cs else c :: cs
    | [] => []

/-- Reads a text of several lines behind its opening quotes. One or two quotes may stand in front of
the closing ones. -/
def multiBasic? (cs : List Char) : Option (List Char × List Char) :=
  match cs with
  | [] => none
  | '"' :: '"' :: '"' :: '"' :: '"' :: rest => some (['"', '"'], rest)
  | '"' :: '"' :: '"' :: '"' :: rest => some (['"'], rest)
  | '"' :: '"' :: '"' :: rest => some ([], rest)
  | '\r' :: '\n' :: rest => withFirst '\n' (multiBasic? rest)
  | '\\' :: rest =>
    match continued? rest with
    | some behind => if behind.length ≤ rest.length then multiBasic? behind else none
    | none =>
      match escape? rest with
      | some (c, behind) =>
        if behind.length ≤ rest.length then withFirst c (multiBasic? behind) else none
      | none => none
  | c :: rest => if isPlain c || c == '\n' then withFirst c (multiBasic? rest) else none
termination_by cs.length

/-- Reads a text in one line behind its opening single quote. -/
def literal? (cs : List Char) : Option (List Char × List Char) :=
  match cs.dropWhile fun c => isPlain c && c != '\'' with
  | '\'' :: rest => some (cs.takeWhile fun c => isPlain c && c != '\'', rest)
  | _ => none

/-- Reads a text of several lines behind its opening single quotes. -/
def multiLiteral? : Reader (List Char)
  | [] => none
  | '\'' :: '\'' :: '\'' :: '\'' :: '\'' :: rest => some (['\'', '\''], rest)
  | '\'' :: '\'' :: '\'' :: '\'' :: rest => some (['\''], rest)
  | '\'' :: '\'' :: '\'' :: rest => some ([], rest)
  | '\r' :: '\n' :: rest => withFirst '\n' (multiLiteral? rest)
  | c :: rest => if isPlain c || c == '\n' then withFirst c (multiLiteral? rest) else none

/-- The text without the break at its start, if one is there. -/
def withoutBreak (cs : List Char) : List Char :=
  (break? cs).getD cs

/-- Reads a quoted text of any kind. -/
def quotedText? : Reader String
  | '"' :: '"' :: '"' :: cs => asString (multiBasic? (withoutBreak cs))
  | '"' :: cs => asString (basic? cs)
  | '\'' :: '\'' :: '\'' :: cs => asString (multiLiteral? (withoutBreak cs))
  | '\'' :: cs => asString (literal? cs)
  | _ => none
where
  /-- The characters that were read as a text. -/
  asString (r : Option (List Char × List Char)) : Option (String × List Char) :=
    r.map fun p => (String.ofList p.1, p.2)

/-- Reads more digits of a run, with single underscores between them. -/
def moreDigits (isDigit : Char → Bool) : List Char → List Char × List Char
  | [] => ([], [])
  | '_' :: c :: cs =>
    if isDigit c then
      let r := moreDigits isDigit cs
      (c :: r.1, r.2)
    else ([], '_' :: c :: cs)
  | c :: cs =>
    if isDigit c then
      let r := moreDigits isDigit cs
      (c :: r.1, r.2)
    else ([], c :: cs)

/-- Reads a run of digits, with single underscores between them. -/
def digitRun? (isDigit : Char → Bool) : Reader (List Char)
  | c :: cs =>
    if isDigit c then
      let r := moreDigits isDigit cs
      some (c :: r.1, r.2)
    else none
  | [] => none

end WikiQuery.Toml
