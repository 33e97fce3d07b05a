import WikiQuery.ParameterError
import WikiQuery.Text.Blank
import WikiQuery.Text.Case
import WikiQuery.Text.Split

/-!
The pairs of a name and a value that a directive is made of, and the order in which they are read.
Parameters on which others depend are read first.
-/

set_option autoImplicit false

namespace WikiQuery

/-- A name and a value. -/
abbrev Pair := String × String

namespace Pair

open Text (cut? lowered pieces trimmed)

/-- The pair that a line holds: the name stands before the first equals sign. -/
def ofLine? (line : List Char) : Option Pair :=
  match cut? '=' line with
  | none => none
  | some (name, value) =>
    let name := lowered (trimmed name)
    if name.isEmpty then none else some (String.ofList name, String.ofList (trimmed value))

/-- The pairs of a directive, one a line; other lines are passed over. -/
def ofText (text : String) : List Pair :=
  (pieces '\n' text.toList).filterMap ofLine?

/-- A pair as a line. -/
def line (p : Pair) : String :=
  p.1 ++ "=" ++ p.2

/-- Pairs as lines. -/
def text (pairs : List Pair) : String :=
  "\n".intercalate (pairs.map line)

/-- The parameters that others depend on, in the order in which they are read. -/
def priorityNames : List String :=
  ["distinct", "openreferences", "ignorecase", "category", "goal", "ordercollation", "ordermethod",
    "includepage", "include"]

/-- The rank of a name, if it is that of a priority parameter. -/
def rank? (name : String) : Option Nat :=
  priorityNames.idxOf? name

/-- The pairs so far: those of the priority parameters, with their ranks, and all others. -/
structure Parted where
  ranked : List (Nat × Pair) := []
  others : List Pair := []

/-- One more pair, with its position. A pair without a name is refused. -/
def Parted.add (parted : Parted) (entry : Pair × Nat) : Except ParameterError Parted :=
  if entry.1.1.isEmpty then .error (.structural (.emptyPairName entry.2))
  else
    match rank? entry.1.1 with
    | some rank => .ok { parted with ranked := parted.ranked ++ [(rank, entry.1)] }
    | none => .ok { parted with others := parted.others ++ [entry.1] }

/-- Whether a rank comes no later than another. -/
def ranksBefore (a b : Nat × Pair) : Bool :=
  a.1 ≤ b.1

/-- The pairs with those of the priority parameters in front, which are sorted by rank. -/
def Parted.inOrder (parted : Parted) : List Pair :=
  (parted.ranked.mergeSort ranksBefore).map (·.2) ++ parted.others

/-- The pairs in the order in which they are read, unless one has no name. -/
def sorted (pairs : List Pair) : Except ParameterError (List Pair) :=
  (pairs.zipIdx.foldlM Parted.add {}).map Parted.inOrder

end Pair

end WikiQuery
