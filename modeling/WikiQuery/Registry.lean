import WikiQuery.Pattern.Library
import WikiQuery.Registry.Index

/-!
Tables of parameters, in the order in which they are laid down. In a table every name stands once.
-/

set_option autoImplicit false

namespace WikiQuery

/-- A table of parameters. -/
structure Registry where
  parameters : List Parameter
  names_nodup : (parameters.map (·.name)).Nodup

namespace Registry

/-- The table of the parameters of an index. -/
def ofIndex {α : Type} {compile : String → Option α} (index : Index compile) : Registry where
  parameters := index.entries.toList.map (·.parameter)
  names_nodup := by
    rw [List.map_map]
    exact index.names_nodup

/-- The table of some parameters, unless one of them has a defect. Whether a pattern is broken is for the
library of patterns to tell. -/
def ofList (ps : List Parameter) (library : PatternLibrary := .plain) :
    Except ParameterError Registry :=
  match Index.ofList library.compile (ps.map .ofParameter) with
  | .error defect => .error (.structural defect)
  | .ok index => .ok (ofIndex index)

/-- The parameter with a name. -/
def find? (r : Registry) (name : String) : Option Parameter :=
  r.parameters.find? (·.name == name)

/-- The number of parameters. -/
def size (r : Registry) : Nat :=
  r.parameters.length

/-- Whether there is no parameter. -/
def isEmpty (r : Registry) : Bool :=
  r.parameters.isEmpty

end Registry

end WikiQuery
