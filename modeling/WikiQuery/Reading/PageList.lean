import WikiQuery.Host
import WikiQuery.Parameter

/-!
Lists of pages: names divided by bars.
-/

set_option autoImplicit false

namespace WikiQuery.Reading

open Text (pieces trimmed)

/-- A text without the backslash at its end, if one is there. -/
def withoutBackslash (cs : List Char) : List Char :=
  if cs.getLast? = some '\\' then cs.dropLast else cs

/-- The names of a list: trimmed, freed of one backslash at the end, and never empty. -/
def pageNames (s : String) : List String :=
  let entries := (pieces '|' (trimmed s.toList)).map fun cs => withoutBackslash (trimmed cs)
  (entries.filter fun cs => !cs.isEmpty).map String.ofList

/-- The pages of a list; where titles are asked for, each of the names has to be that of one. -/
def pageList? (host : Host) (kind : PageNames) (s : String) : Option (List PageReference) :=
  match kind with
  | .titles => (pageNames s).mapM fun name => (host.resolveTitle name).map .title
  | .anyNames => some ((pageNames s).map .name)

end WikiQuery.Reading
