import WikiQuery.Handler
import WikiQuery.Value

/-!
What is laid down about a parameter: how its text is read, what it starts from, and what it means
for the directive as a whole.
-/

set_option autoImplicit false

namespace WikiQuery

/-- What is asked of the names of a list of pages. -/
inductive PageNames
  /-- Each has to be a title. -/
  | titles
  /-- Each is taken as it is. -/
  | anyNames
  deriving DecidableEq, Repr

/-- What is laid down about a parameter. -/
structure Parameter where
  name : String
  /-- The level of richness from which on it is to be had. -/
  richness : Nat := 0
  /-- The rules of its own that it is read by, if it does not follow the common ones. -/
  handler : Option Handler := none
  /-- The only values that it takes, if not all are taken. -/
  values : Option (List String) := none
  preservesCase : Bool := false
  stripsHtml : Bool := false
  isInteger : Bool := false
  isBoolean : Bool := false
  isTimestamp : Bool := false
  pageNames : Option PageNames := none
  /-- Whether spaces are stored as underscores. -/
  isKey : Bool := false
  /-- The source of a pattern whose groups make up the value. -/
  pattern : Option String := none
  /-- The value that a query starts from. -/
  default : Option Value := none
  /-- Whether it selects pages. -/
  selects : Bool := false
  /-- Whether it cannot stand beside a listing of open references. -/
  conflicts : Bool := false
  /-- The capability that the caller needs for it. -/
  permission : Option String := none
  deriving DecidableEq

namespace Parameter

/-- The value that a fresh query holds. A truth value that is false is left out. -/
def seed? (p : Parameter) : Option Value :=
  if p.isBoolean && decide (p.default = some (.bool false)) then none else p.default

/-- The integer that stands for a text that is none. -/
def defaultInteger? (p : Parameter) : Option Int :=
  match p.default with
  | some (.int n) => some n
  | _ => none

/-- Whether a value is among those that the parameter takes. -/
def allows (p : Parameter) (value : String) : Bool :=
  match p.values with
  | none => true
  | some values => values.contains value

/-- The values that the parameter takes by name; none if it does not name them. -/
def namedValues (p : Parameter) : List String :=
  p.values.getD []

end Parameter

end WikiQuery
