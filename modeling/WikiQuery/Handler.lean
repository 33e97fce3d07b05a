/-!
The parameters whose reading follows rules of their own.
-/

set_option autoImplicit false

namespace WikiQuery

/-- Whether what a parameter names is asked for or shut out. -/
inductive Side
  | wanted | unwanted
  deriving DecidableEq, Repr

/-- The kind of a pattern for names: a regular expression, or a pattern of the database. -/
inductive PatternKind
  | regexp | like
  deriving DecidableEq, Repr

/-- The rules that a parameter of its own kind is read by. -/
inductive Handler
  | category
  | notCategory
  | categoryPattern (side : Side) (kind : PatternKind)
  | orderMethod
  | mode
  | distinct
  | orderCollation
  | format
  | title
  | notTitle
  | titlePattern (side : Side) (kind : PatternKind)
  | inNamespace (side : Side)
  | scroll
  | allowCachedResults
  | flagSet
  | sections
  | sectionMatch (parsed negated : Bool)
  | table
  | tableRow
  | sectionSeparators
  | multiSectionSeparators
  | count
  | debug
  | openReferences
  | replaceInTitle
  deriving DecidableEq, Repr

namespace Handler

/-- Every handler. -/
def all : List Handler :=
  [.category, .notCategory, .categoryPattern .wanted .regexp, .categoryPattern .wanted .like,
    .categoryPattern .unwanted .regexp, .categoryPattern .unwanted .like, .orderMethod, .mode,
    .distinct, .orderCollation, .format, .title, .notTitle, .titlePattern .wanted .regexp,
    .titlePattern .wanted .like, .titlePattern .unwanted .regexp, .titlePattern .unwanted .like,
    .inNamespace .wanted, .inNamespace .unwanted, .scroll, .allowCachedResults, .flagSet, .sections,
    .sectionMatch false false, .sectionMatch true false, .sectionMatch false true,
    .sectionMatch true true, .table, .tableRow, .sectionSeparators, .multiSectionSeparators, .count,
    .debug, .openReferences, .replaceInTitle]

/-- The name under which a handler is listed. -/
def label : Handler → String
  | category => "Category"
  | notCategory => "NotCategory"
  | categoryPattern .wanted .regexp => "CategoryRegexp"
  | categoryPattern .wanted .like => "CategoryMatch"
  | categoryPattern .unwanted .regexp => "NotCategoryRegexp"
  | categoryPattern .unwanted .like => "NotCategoryMatch"
  | orderMethod => "OrderMethod"
  | mode => "Mode"
  | distinct => "Distinct"
  | orderCollation => "OrderCollation"
  | format => "Format"
  | title => "Title"
  | notTitle => "NotTitle"
  | titlePattern .wanted .regexp => "TitleRegexp"
  | titlePattern .wanted .like => "TitleMatch"
  | titlePattern .unwanted .regexp => "NotTitleRegexp"
  | titlePattern .unwanted .like => "NotTitleMatch"
  | inNamespace .wanted => "Namespace"
  | inNamespace .unwanted => "NotNamespace"
  | scroll => "Scroll"
  | allowCachedResults => "AllowCachedResults"
  | flagSet => "FlagSet"
  | sections => "Include"
  | sectionMatch parsed negated =>
    "IncludeMatch \x7b parsed: " ++ truth parsed ++ ", negated: " ++ truth negated ++ " \x7d"
  | table => "Table"
  | tableRow => "TableRow"
  | sectionSeparators => "SecSeparators"
  | multiSectionSeparators => "MultiSecSeparators"
  | count => "Count"
  | debug => "Debug"
  | openReferences => "OpenReferences"
  | replaceInTitle => "ReplaceInTitle"
where
  /-- The word for a truth value. -/
  truth (b : Bool) : String := if b then "true" else "false"

/-- The handler that is listed under a name. -/
def ofLabel? (name : String) : Option Handler :=
  all.find? fun h => h.label == name

end Handler

end WikiQuery
