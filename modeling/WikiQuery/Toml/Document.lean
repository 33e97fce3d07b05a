import WikiQuery.Toml.Number
import WikiQuery.Toml.Table

/-!
Documents in TOML. A document is read line by line: headers say which table the keys that follow
belong to.
-/

set_option autoImplicit false

namespace WikiQuery.Toml

/-- Whether a character may stand in a key without quotes. -/
def isKeyChar (c : Char) : Bool :=
  c.isAlphanum || c == '-' || c == '_'

/-- Reads one key. -/
def simpleKey? : Reader String
  | '"' :: cs => (basic? cs).map fun r => (String.ofList r.1, r.2)
  | '\'' :: cs => (literal? cs).map fun r => (String.ofList r.1, r.2)
  | cs =>
    let key := cs.takeWhile isKeyChar
    if key.isEmpty then none else some (String.ofList key, cs.dropWhile isKeyChar)

/-- Reads keys with dots between them, and gaps where they please. -/
def dottedKeys? (cs : List Char) : Option (List String × List Char) :=
  match simpleKey? (skipGap cs) with
  | none => none
  | some (key, behind) =>
    match skipGap behind with
    | '.' :: rest =>
      if rest.length < cs.length then (dottedKeys? rest).map fun r => (key :: r.1, r.2) else none
    | rest => some ([key], rest)
termination_by cs.length

/-- Reads a path of keys. -/
def path? (cs : List Char) : Option (List String × List Char) :=
  (dottedKeys? cs).filter fun r => decide (r.1.length < maxDepth)

/-- Reads the items of an array behind its opening bracket. A comma may stand behind the last one. -/
def items? (value? : Reader Value) (cs : List Char) : Option (List Value × List Char) :=
  match skipLines false cs with
  | ']' :: rest => some ([], rest)
  | start =>
    match value? start with
    | none => none
    | some (v, behind) =>
      match skipLines false behind with
      | ']' :: rest => some ([v], rest)
      | ',' :: rest =>
        if rest.length < cs.length then (items? value? rest).map fun r => (v :: r.1, r.2) else none
      | _ => none
termination_by cs.length

/-- Reads a path of keys and the value that is put under it. -/
def pair? (value? : Reader Value) (cs : List Char) :
    Option ((List String × Value) × List Char) := do
  let (path, cs) ← path? cs
  let cs ← behind? '=' cs
  let (v, cs) ← value? (skipGap cs)
  some ((path, v), cs)

/-- Reads the members of a table in one line, behind its opening brace and one member at least. -/
def inlineMembers? (value? : Reader Value) (ms : Members) (cs : List Char) :
    Option (Members × List Char) :=
  match pair? value? cs with
  | none => none
  | some ((path, v), behind) =>
    match ms.place v true path, skipGap behind with
    | some ms, '\x7d' :: rest => some (ms, rest)
    | some ms, ',' :: rest => if rest.length < cs.length then inlineMembers? value? ms rest else none
    | _, _ => none
termination_by cs.length

/-- Reads a table in one line behind its opening brace. -/
def inlineTable? (value? : Reader Value) (cs : List Char) : Option (Value × List Char) :=
  match skipGap cs with
  | '\x7d' :: rest => some (.table [], rest)
  | start => (inlineMembers? value? [] start).map fun r => (.table (memberValues r.1), r.2)

/-- Reads a value that has no parts. -/
def scalar? (cs : List Char) : Option (Value × List Char) :=
  match cs with
  | 't' :: 'r' :: 'u' :: 'e' :: rest => some (.bool true, rest)
  | 'f' :: 'a' :: 'l' :: 's' :: 'e' :: rest => some (.bool false, rest)
  | '"' :: _ | '\'' :: _ => (quotedText? cs).map fun r => (.text r.1, r.2)
  | cs => ((time? cs).or (fraction? cs)).or (integer? cs)

/-- Reads a value in which others are nested at most so many levels deep. -/
def value? (depth : Nat) (cs : List Char) : Option (Value × List Char) :=
  match depth, cs with
  | depth + 1, '[' :: rest => (items? (value? depth) rest).map fun r => (.array r.1, r.2)
  | depth + 1, '\x7b' :: rest => inlineTable? (value? depth) rest
  | _, cs => scalar? cs

/-- A document under way: its tables, and the path of the one that keys belong to. -/
structure Draft where
  root : Members
  path : List String

/-- The draft after a header, which opens the table under the last key of a path. -/
def Draft.header (d : Draft) (openAt : String → Members → Option Members) (path : List String) :
    Option Draft :=
  match path.getLast? with
  | none => none
  | some key => (d.root.within (openAt key) path.dropLast).map (⟨·, path⟩)

/-- Reads one line that is no comment and not empty. -/
def Draft.line? (d : Draft) (cs : List Char) : Option (Draft × List Char) :=
  match cs with
  | '[' :: '[' :: rest => do
    let (path, rest) ← path? rest
    let rest ← (behind? ']' rest).bind (behind? ']')
    let d ← d.header Members.openElement path
    some (d, rest)
  | '[' :: rest => do
    let (path, rest) ← path? rest
    let rest ← behind? ']' rest
    let d ← d.header Members.openTable path
    some (d, rest)
  | cs => do
    let ((path, v), rest) ← pair? (value? (maxDepth - 1)) cs
    let root ← d.root.within (fun ms => ms.place v true path) d.path
    some ({ d with root := root }, rest)

/-- Reads all lines. -/
def Draft.lines? (d : Draft) (cs : List Char) : Option Draft :=
  match cs with
  | [] => some d
  | c :: cs' =>
    if isGap c then d.lines? cs'
    else
      let read :=
        if c = '#' ∨ c = '\n' ∨ c = '\r' then some (d, c :: cs') else d.line? (c :: cs')
      match read with
      | none => none
      | some (d, behind) =>
        match lineEnd? behind with
        | none => none
        | some rest => if rest.length ≤ cs'.length then d.lines? rest else none
termination_by cs.length
decreasing_by all_goals simp_all; try omega

/-- The members of the outermost table of a document. A mark of the order of bytes in front is left
out. -/
def document? (s : String) : Option (List (String × Value)) :=
  let cs := match s.toList with
    | '\ufeff' :: cs => cs
    | cs => cs
  (Draft.lines? ⟨[], []⟩ cs).map fun d => memberValues d.root

end WikiQuery.Toml
