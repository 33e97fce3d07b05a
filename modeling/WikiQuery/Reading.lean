import WikiQuery.Reading.Category
import WikiQuery.Reading.Paging
import WikiQuery.Reading.Section
import WikiQuery.Reading.Staged
import WikiQuery.Reading.Title

/-!
The change that a parameter makes to a query, by the rules of its own or in the common way.
-/

set_option autoImplicit false

namespace WikiQuery.Reading

/-- The change that a parameter makes by the rules of a handler, unless they refuse its text. -/
def handled? (settings : Settings) (host : Host) (p : Parameter) (spec : Specification)
    (text : String) : Handler → Option Change
  | .category => category host spec text
  | .notCategory => notCategory host spec text
  | .categoryPattern side kind => categoryPattern side kind spec text
  | .orderMethod => orderMethod p text
  | .mode => mode p text
  | .distinct => distinct text
  | .orderCollation => orderCollation text
  | .format => format text
  | .title => title host spec text
  | .notTitle => notTitle host spec text
  | .titlePattern side kind => titlePattern side kind spec text
  | .inNamespace side => inNamespace side settings host spec text
  | .scroll => scroll settings host text
  | .allowCachedResults => allowCachedResults spec text
  | .flagSet => flagSet p spec text
  | .sections => sections text
  | .sectionMatch parsed negated => sectionMatch parsed negated text
  | .table => table spec text
  | .tableRow => tableRow text
  | .sectionSeparators => separators "secseparators" text
  | .multiSectionSeparators => separators "multisecseparators" text
  | .count => count settings text
  | .debug => debug p text
  | .openReferences => openReferences text
  | .replaceInTitle => replaceInTitle text

/-- The change that a parameter makes, unless its text is refused. -/
def change? (settings : Settings) (host : Host) (p : Parameter) (spec : Specification)
    (text : String) : Option Change :=
  match p.handler with
  | some handler => handled? settings host p spec text handler
  | none => (staged? host p spec text).map fun value => { writes := [(p.name, value)] }

end WikiQuery.Reading
