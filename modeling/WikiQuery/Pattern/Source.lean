import WikiQuery.Number.Digits
import WikiQuery.Pattern

/-!
The text form of plain patterns. Characters stand for themselves but for these: `.`, `\d` and `\w` are
classes, `^` and `$` the ends of the text, `(` and `)` enclose a group, `|` divides branches, and
`*`, `+`, `?` and a count in braces repeat what stands in front of them. A plain pattern is short, repeats
only what takes in something, and has no two signs of repetition in a row, which would mean something else.
-/

set_option autoImplicit false

namespace WikiQuery.Pattern

/-- The pieces that the text form is made of. -/
inductive Token
  | one (c : CharClass)
  | start | finish | openGroup | closeGroup | bar | star | plus | maybe
  | times (n : Nat)
  deriving DecidableEq, Repr

/-- Whether a piece repeats what stands in front of it. -/
def Token.repeats : Token → Bool
  | star | plus | maybe | times _ => true
  | _ => false

/-- The pieces of a text form. With `digits`, the text stands within a count in braces. -/
def tokens? (digits : Option (List Char)) : List Char → Option (List Token)
  | [] => if digits.isSome then none else some []
  | '\\' :: 'd' :: cs => if digits.isSome then none else (tokens? none cs).map (.one .digit :: ·)
  | '\\' :: 'w' :: cs => if digits.isSome then none else (tokens? none cs).map (.one .word :: ·)
  | c :: cs =>
    match digits with
    | some ds =>
      if c = '\x7d' then
        (Number.digits? 10 ds.reverse).bind fun n => (tokens? none cs).map (.times n :: ·)
      else tokens? (some (c :: ds)) cs
    | none =>
      if c = '\x7b' then tokens? (some []) cs
      else if c = '\\' ∨ c = '[' then none
      else (tokens? none cs).map (single c :: ·)
where
  /-- The piece that a character is on its own. -/
  single (c : Char) : Token :=
    if c = '.' then .one .any
    else if c = '^' then .start
    else if c = '$' then .finish
    else if c = '(' then .openGroup
    else if c = ')' then .closeGroup
    else if c = '|' then .bar
    else if c = '*' then .star
    else if c = '+' then .plus
    else if c = '?' then .maybe
    else .one (.exactly c)

/-- A group under way: its number, the branches that are complete, and the parts of the branch that
is not, all the latest first. -/
structure Frame where
  index : Nat
  branches : List Pattern
  parts : List Pattern
  deriving DecidableEq, Repr

/-- The parts of a branch, the latest first, as one pattern. -/
def ofParts : List Pattern → Pattern
  | [] => .empty
  | [p] => p
  | p :: ps => .seq (ofParts ps) p

/-- The branches of a group, the latest first, as one pattern. -/
def ofBranches : List Pattern → Pattern
  | [] => .empty
  | [p] => p
  | p :: ps => .alt (ofBranches ps) p

/-- The pattern of a group that ends. -/
def Frame.close (f : Frame) : Pattern :=
  ofBranches (ofParts f.parts :: f.branches)

/-- A pattern a number of times in a row. -/
def repeated (p : Pattern) : Nat → Pattern
  | 0 => .empty
  | 1 => p
  | n + 1 => .seq (repeated p n) p

/-- Whether a pattern takes in a character in whatever way it matches. -/
def takesIn : Pattern → Bool
  | empty | start | finish | star _ | maybe _ => false
  | one _ => true
  | seq p q => p.takesIn || q.takesIn
  | alt p q => p.takesIn && q.takesIn
  | group _ p => p.takesIn

/-- The frame with its last part repeated; there has to be one, and it has to take in something. -/
def Frame.repeat? (f : Frame) (change : Pattern → Option Pattern) : Option Frame :=
  match f.parts with
  | [] => none
  | p :: ps =>
    if p.takesIn then (change p).map fun p => { f with parts := p :: ps }
    else none

/-- A character a number of times, which is one digit. -/
def counted? (n : Nat) : Pattern → Option Pattern
  | one c => if 1 ≤ n ∧ n ≤ 9 then some (repeated (one c) n) else none
  | _ => none

/-- The pattern that tokens stand for behind those of the frames, innermost frame first; `groups`
is the number of groups so far. -/
def ofTokens? (groups : Nat) (frame : Frame) (outer : List Frame) : List Token → Option Pattern
  | [] => if outer.isEmpty then some frame.close else none
  | .one c :: ts => ofTokens? groups { frame with parts := .one c :: frame.parts } outer ts
  | .start :: ts => ofTokens? groups { frame with parts := .start :: frame.parts } outer ts
  | .finish :: ts => ofTokens? groups { frame with parts := .finish :: frame.parts } outer ts
  | .openGroup :: ts => ofTokens? (groups + 1) ⟨groups + 1, [], []⟩ (frame :: outer) ts
  | .closeGroup :: ts =>
    match outer with
    | [] => none
    | parent :: outer =>
      ofTokens? groups { parent with parts := .group frame.index frame.close :: parent.parts }
        outer ts
  | .bar :: ts => ofTokens? groups { frame with branches := ofParts frame.parts :: frame.branches, parts := [] } outer ts
  | .star :: ts =>
    (frame.repeat? fun p => some (.star p)).bind fun frame => ofTokens? groups frame outer ts
  | .plus :: ts =>
    (frame.repeat? fun p => some (.seq p (.star p))).bind fun frame =>
      ofTokens? groups frame outer ts
  | .maybe :: ts =>
    (frame.repeat? fun p => some (.maybe p)).bind fun frame => ofTokens? groups frame outer ts
  | .times n :: ts =>
    (frame.repeat? (counted? n)).bind fun frame => ofTokens? groups frame outer ts

/-- Whether no two pieces in a row repeat what stands in front of them. -/
def repeatsOnce : List Token → Bool
  | t :: u :: ts => !(t.repeats && u.repeats) && repeatsOnce (u :: ts)
  | _ => true

/-- The most characters that a plain pattern has. A longer one may come to more than there is room for. -/
def plainLength : Nat := 32

/-- The plain pattern that a text form stands for, if it is that of one. -/
def ofSource? (source : String) : Option Pattern :=
  if source.length ≤ plainLength then
    ((tokens? none source.toList).filter repeatsOnce).bind (ofTokens? 0 ⟨0, [], []⟩ [])
  else none

end WikiQuery.Pattern
