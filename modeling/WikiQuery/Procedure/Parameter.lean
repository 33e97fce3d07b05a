import WikiQuery.Procedure.Listing
import WikiQuery.Procedure.Section
import WikiQuery.Procedure.Selection
import WikiQuery.Reading.Staged

/-!
The steps by which a parameter is read, by the rules of its own or in the common way.
-/

set_option autoImplicit false

namespace WikiQuery.Procedure

/-- Reads a parameter by the rules of a handler. -/
def handled (settings : Settings) (host : Host) (p : Parameter) (text : String) :
    Handler → Procedure Bool
  | .category => category host text
  | .notCategory => notCategory host text
  | .categoryPattern side kind => categoryPattern side kind text
  | .orderMethod => orderMethod p text
  | .mode => mode p text
  | .distinct => distinct text
  | .orderCollation => orderCollation text
  | .format => format text
  | .title => title host text
  | .notTitle => notTitle host text
  | .titlePattern side kind => titlePattern side kind text
  | .inNamespace side => inNamespace side settings host text
  | .scroll => scroll settings host text
  | .allowCachedResults => allowCachedResults text
  | .flagSet => flagSet p text
  | .sections => sections text
  | .sectionMatch parsed negated => sectionMatch parsed negated text
  | .table => table text
  | .tableRow => tableRow text
  | .sectionSeparators => separators "secseparators" text
  | .multiSectionSeparators => separators "multisecseparators" text
  | .count => count settings text
  | .debug => debug p text
  | .openReferences => openReferences text
  | .replaceInTitle => replaceInTitle text

/-- Reads a parameter in the common way. -/
def staged (host : Host) (p : Parameter) (text : String) : Procedure Bool := do
  let some value := Reading.staged? host p (← query) text | return false
  write p.name value
  return true

/-- Reads a parameter. -/
def parameter (settings : Settings) (host : Host) (p : Parameter) (text : String) :
    Procedure Bool :=
  match p.handler with
  | some handler => handled settings host p text handler
  | none => staged host p text

end WikiQuery.Procedure
