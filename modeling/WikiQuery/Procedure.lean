import WikiQuery.Session

/-!
Procedures: the steps by which a parameter is read. A procedure may look at the query, write to it and
go on, and it answers in the end whether it takes the text. What it has written by then stays, also if it
does not.
-/

set_option autoImplicit false

namespace WikiQuery

/-- Steps that are carried out on a query under way. -/
abbrev Procedure := StateM Session

namespace Procedure

/-- What the query asks for by now. -/
def query : Procedure Specification := do
  return (← get).spec

/-- Writes a value. -/
def write (key : String) (value : Value) : Procedure Unit :=
  modify fun s => s.write [(key, value)]

/-- Writes a value, if there is one. -/
def offer (key : String) : Option Value → Procedure Unit
  | some value => write key value
  | none => pure ()

/-- Notes that the query cannot be a listing of open references. -/
def noteConflict : Procedure Unit :=
  modify fun s => { s with spec := { s.spec with openReferencesConflict := true } }

/-- Calls for a level of reports. -/
def report (level : Nat) : Procedure Unit :=
  modify fun s => { s with verbosity := some level }

end Procedure

end WikiQuery
