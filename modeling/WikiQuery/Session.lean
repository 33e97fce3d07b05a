import WikiQuery.Specification

/-!
A query under way. What is written to it stays, whatever comes of the parameter that was being read.
-/

set_option autoImplicit false

namespace WikiQuery

/-- A query under way, and the level of reports that was last called for. -/
structure Session where
  spec : Specification
  verbosity : Option Nat := none
  deriving DecidableEq

namespace Session

/-- The query with another level of reports, if one is called for. -/
def withVerbosity (s : Session) (level : Option Nat) : Session :=
  { s with verbosity := level.or s.verbosity }

/-- The query with the values that are written, one after the other. -/
def write (s : Session) (writes : List (String × Value)) : Session :=
  { s with spec := s.spec.write writes }

/-- The query with a change made to it. -/
def apply (s : Session) (change : Change) : Session where
  spec :=
    { s.spec.write change.writes with
      openReferencesConflict := change.conflicts || s.spec.openReferencesConflict }
  verbosity := change.verbosity.or s.verbosity

/-- The query with the notes that are laid down about a parameter whose text was taken. -/
def settle (s : Session) (p : Parameter) : Session :=
  { s with
    spec :=
      { s.spec with
        selectionCriteriaFound := s.spec.selectionCriteriaFound || p.selects
        openReferencesConflict := s.spec.openReferencesConflict || p.conflicts } }

theorem ext {s t : Session} (spec : s.spec = t.spec) (verbosity : s.verbosity = t.verbosity) :
    s = t := by
  cases s
  cases t
  simp_all

@[simp] theorem spec_withVerbosity (s : Session) (level : Option Nat) :
    (s.withVerbosity level).spec = s.spec :=
  rfl

@[simp] theorem verbosity_withVerbosity (s : Session) (level : Option Nat) :
    (s.withVerbosity level).verbosity = level.or s.verbosity :=
  rfl

@[simp] theorem spec_write (s : Session) (writes : List (String × Value)) :
    (s.write writes).spec = s.spec.write writes :=
  rfl

theorem write_write (s : Session) (writes more : List (String × Value)) :
    (s.write writes).write more = s.write (writes ++ more) := by
  simp only [write, Specification.write, List.foldl_append]

/-- A change that only writes is made by writing. -/
theorem apply_of_writes (s : Session) (writes : List (String × Value)) :
    s.apply { writes := writes } = s.write writes :=
  rfl

/-- A change that is made and settled is one that is committed. -/
theorem settle_apply (s : Session) (p : Parameter) (change : Change) :
    (s.apply change).settle p =
      { s with spec := s.spec.commit p change }.withVerbosity change.verbosity := by
  simp only [settle, apply, withVerbosity, Specification.commit, Bool.or_comm change.conflicts]
  rfl

end Session

end WikiQuery
