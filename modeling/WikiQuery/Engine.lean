import WikiQuery.Procedure.Parameter

/-!
The reading of single parameters into a query. A parameter that is to be had is noted as given, and then the
steps by which it is read are carried out on the query.
-/

set_option autoImplicit false

namespace WikiQuery

/-- What parameters are read by: their table, the settings of the keeper, and the wiki. -/
structure Engine where
  registry : Registry
  settings : Settings
  host : Host

namespace Engine

/-- The level of reports that a fresh query calls for: its value for `debug`, if it is one of eight
bits. -/
def initialVerbosity? (spec : Specification) : Option Nat :=
  match spec.integer? "debug" with
  | some n => if 0 ≤ n ∧ n ≤ 255 then some n.toNat else none
  | none => none

/-- A fresh query. -/
def start (e : Engine) : Session :=
  let spec := Specification.ofRegistry e.registry
  ⟨spec, initialVerbosity? spec⟩

/-- The parameter with a name, if it is to be had and the caller may use it. -/
def lookup (e : Engine) (name : String) : Except ParameterError Parameter :=
  if name.isEmpty then .error (.structural .emptyName)
  else
    match e.registry.find? name with
    | none => .error (.unknownParameter name)
    | some p =>
      if e.settings.richness < p.richness then
        .error (.notAvailable p.name p.richness e.settings.richness)
      else
        match p.permission with
        | some capability =>
          if e.host.hasCapability capability then .ok p
          else .error (.authorization p.name capability)
        | none => .ok p

/-- Reads a parameter into a query that notes it as given. A refusal comes with the query as the steps have
left it by then; nothing of what they wrote is taken back. -/
def accept (e : Engine) (s : Session) (p : Parameter) (text : String) :
    Session × Option ParameterError :=
  match (Procedure.parameter e.settings e.host p text).run s with
  | (true, s) => (s.settle p, none)
  | (false, s) => (s, some (.validation p.name text))

/-- Reads a name and a value into a query; a refusal comes with the query as it stays. -/
def process (e : Engine) (s : Session) (name text : String) : Session × Option ParameterError :=
  match e.lookup name with
  | .error refusal => (s, some refusal)
  | .ok p => e.accept { s with spec := s.spec.mark p.name } p text

end Engine

end WikiQuery
