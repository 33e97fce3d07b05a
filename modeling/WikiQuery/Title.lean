import WikiQuery.Namespace

/-!
Page titles. A title is read from text as a wiki does it: underscores are spaces, runs of white
space are one space, a leading colon is dropped and a fragment behind `#` cut off, a namespace in
front of a colon is split off, and the first letter is a capital.
-/

set_option autoImplicit false

namespace WikiQuery

/-- The title of a page: the number of its namespace, and its name in spaces. -/
structure Title where
  namespaceId : Int
  text : String
  deriving DecidableEq, Repr

namespace Title

/-- The longest name of a page, in bytes of UTF-8. -/
def maxBytes : Nat := 255

/-- Whether a character can stand in no title. -/
def isIllegal (c : Char) : Bool :=
  let code := c.toNat
  c == '<' || c == '>' || c == '[' || c == ']' || c == '\x7b' || c == '\x7d' || c == '|' ||
    decide (code < 0x20 ∨ (0x7F ≤ code ∧ code ≤ 0x9F))

/-- The name with underscores for spaces, as it is stored. -/
def key (title : Title) : String :=
  Text.toKey title.text

/-- The number of bytes of a text in UTF-8. -/
def byteCount (cs : List Char) : Nat :=
  cs.foldr (fun c n => c.utf8Size + n) 0

/-- The text of a title in spaces, without a leading colon and without a fragment. -/
def plainText (text : String) : List Char :=
  let spaced := Text.spaced (Text.fromKey text).toList
  let unmarked :=
    match spaced with
    | ':' :: cs => Text.trimStart cs
    | cs => cs
  match Text.cut? '#' unmarked with
  | some (before, _) => Text.trimEnd before
  | none => unmarked

/-- The namespace and the name that a plain text is made of. The text in front of the first colon
counts as a namespace only if `lookup` knows it as one other than the main one. -/
def divide (lookup : String → Option Int) (cs : List Char) : Int × List Char :=
  match Text.cut? ':' cs with
  | none => (Namespace.mainId, cs)
  | some (before, behind) =>
    match lookup (String.ofList (Text.trimmed before)) with
    | none => (Namespace.mainId, cs)
    | some id =>
      if id = Namespace.mainId then (Namespace.mainId, cs) else (id, Text.trimmed behind)

/-- The title that a text names, where `lookup` gives the numbers of namespaces. -/
def read? (lookup : String → Option Int) (text : String) : Option Title :=
  let cs := plainText text
  if cs.isEmpty || cs.any isIllegal then none
  else
    let parts := divide lookup cs
    if parts.2.isEmpty || decide (maxBytes < byteCount parts.2) then none
    else some ⟨parts.1, String.ofList (Text.capitalized parts.2)⟩

end Title

end WikiQuery
