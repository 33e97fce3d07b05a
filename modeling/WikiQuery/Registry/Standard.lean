import WikiQuery.Registry

/-!
The table of the parameters that a page-list directive knows, level by level of richness.
-/

set_option autoImplicit false

namespace WikiQuery.Registry

/-- What pages can be ordered by. -/
def orderMethods : List String :=
  ["counter", "size", "category", "sortkey", "categoryadd", "firstedit", "lastedit", "pagetouched",
    "pagesel", "title", "titlewithoutnamespace", "user", "none"]

/-- The forms that a list of pages can have. -/
def modes : List String :=
  ["category", "definition", "gallery", "inline", "none", "ordered", "subpage", "unordered",
    "userformat"]

/-- The words that stand for all flags or for none of them. -/
def flagGroups : List String :=
  ["all", "none"]

/-- The tables of links that can be reset or eliminated, and the words for all and none of them. -/
def linkTableFlags : List String :=
  ["categories", "templates", "links", "images"] ++ flagGroups

/-- What can be done with pages of a kind. -/
def includeExcludeOnly : List String :=
  ["include", "exclude", "only"]

/-- The value in which none of the flags is set. -/
def noFlags (names : List String) : Value :=
  .flags (.ofList ((names.filter fun name => !flagGroups.contains name).map (·, false)) compare)

/-- A choice whether something is shown. -/
def presentationFlag (name : String) (richness : Nat) : Parameter where
  name := name
  richness := richness
  isBoolean := true
  default := some (.bool false)
  conflicts := true

/-- A choice of pages by a user. -/
def userFilter (name : String) : Parameter where
  name := name
  richness := 2
  preservesCase := true
  isKey := true
  selects := true
  conflicts := true

/-- A choice of pages by other pages. -/
def pageFilter (name : String) (pages : PageNames) : Parameter where
  name := name
  richness := 2
  pageNames := some pages
  selects := true
  conflicts := true

/-- A choice of pages by the time of a revision. -/
def revisionFilter (name : String) : Parameter where
  name := name
  richness := 3
  preservesCase := true
  isTimestamp := true
  selects := true
  conflicts := true

/-- Text that is shown as it is, but for tags. -/
def freeText (name : String) (richness : Nat) : Parameter where
  name := name
  richness := richness
  preservesCase := true
  stripsHtml := true

/-- Basic selection and listing. -/
def basicParameters : List Parameter :=
  [
    presentationFlag "addfirstcategorydate" 0,
    { name := "category", handler := some .category, selects := true, conflicts := true },
    { name := "count", handler := some .count, isInteger := true },
    { name := "hiddencategories", values := some includeExcludeOnly,
      default := some (.text "include") },
    { name := "mode", handler := some .mode, values := some modes,
      default := some (.text "unordered") },
    { name := "namespace", handler := some (.inNamespace .wanted), selects := true },
    { name := "notcategory", handler := some .notCategory, selects := true, conflicts := true },
    { name := "order", values := some ["ascending", "descending"],
      default := some (.text "ascending") },
    { name := "ordermethod", handler := some .orderMethod, values := some orderMethods,
      default := some (.list ["titlewithoutnamespace"]) },
    { name := "qualitypages", values := some includeExcludeOnly },
    { name := "redirects", values := some includeExcludeOnly, default := some (.text "exclude") },
    presentationFlag "showcurid" 0,
    { name := "shownamespace", isBoolean := true, default := some (.bool true) },
    { name := "stablepages", values := some includeExcludeOnly },
    { name := "suppresserrors", isBoolean := true, default := some (.bool false) }]

/-- Layout and paging. -/
def layoutParameters : List Parameter :=
  [
    { name := "allowcachedresults", richness := 1, handler := some .allowCachedResults,
      default := some (.bool false) },
    { name := "columns", richness := 1, isInteger := true, default := some (.int 1) },
    { name := "debug", richness := 1, handler := some .debug, values := some ["0", "1", "2", "3",
      "4", "5"], default := some (.int 2) },
    { name := "distinct", richness := 1, handler := some .distinct,
      default := some (.distinct .on) },
    { name := "escapelinks", richness := 1, isBoolean := true, default := some (.bool true) },
    { name := "execandexit", richness := 1, preservesCase := true, stripsHtml := true },
    { name := "format", richness := 1, handler := some .format },
    { freeText "inlinetext" 1 with default := some (.text "&#160;-&#160;") },
    { name := "listseparators", richness := 1, handler := some .format },
    freeText "noresultsfooter" 1,
    freeText "noresultsheader" 1,
    { name := "notnamespace", richness := 1, handler := some (.inNamespace .unwanted),
      selects := true },
    { name := "offset", richness := 1, isInteger := true, default := some (.int 0) },
    freeText "oneresultfooter" 1,
    freeText "oneresultheader" 1,
    { name := "ordercollation", richness := 1, handler := some .orderCollation },
    { name := "randomcount", richness := 1, isInteger := true },
    { name := "replaceintitle", richness := 1, handler := some .replaceInTitle },
    freeText "resultsfooter" 1,
    freeText "resultsheader" 1,
    freeText "rowcolformat" 1,
    { name := "rows", richness := 1, isInteger := true, default := some (.int 1) },
    { name := "rowsize", richness := 1, isInteger := true, default := some (.int 0) },
    { name := "scroll", richness := 1, handler := some .scroll, isBoolean := true },
    { name := "title", richness := 1, handler := some .title, selects := true, conflicts := true },
    { name := "titlegt", richness := 1, preservesCase := true, isKey := true },
    { name := "titlelt", richness := 1, preservesCase := true, isKey := true },
    { name := "titlemaxlength", richness := 1, isInteger := true },
    { freeText "userdateformat" 1 with default := some (.text "Y-m-d H:i:s") }]

/-- Content extraction and filters by links. -/
def contentParameters : List Parameter :=
  [
    presentationFlag "addauthor" 2,
    presentationFlag "addcategories" 2,
    presentationFlag "addcontribution" 2,
    presentationFlag "addeditdate" 2,
    presentationFlag "addexternallink" 2,
    presentationFlag "addlasteditor" 2,
    presentationFlag "addpagecounter" 2,
    presentationFlag "addpagesize" 2,
    presentationFlag "addpagetoucheddate" 2,
    presentationFlag "adduser" 2,
    { name := "categoriesminmax", richness := 2, pattern := some "^(\\d*),?(\\d*)$" },
    userFilter "createdby",
    { name := "dominantsection", richness := 2, isInteger := true, default := some (.int (-1)) },
    { name := "eliminate", richness := 2, handler := some .flagSet, values := some linkTableFlags,
      default := some (noFlags linkTableFlags) },
    { name := "headingcount", richness := 2, isBoolean := true, default := some (.bool false) },
    { name := "headingmode", richness := 2, values := some ["none", "definition", "ordered",
      "unordered"], default := some (.text "none") },
    freeText "hitemattr" 2,
    freeText "hlistattr" 2,
    { name := "ignorecase", richness := 2, isBoolean := true, default := some (.bool false) },
    pageFilter "imagecontainer" .titles,
    pageFilter "imageused" .titles,
    { name := "include", richness := 2, handler := some .sections },
    { name := "includematch", richness := 2, handler := some (.sectionMatch false false) },
    { name := "includematchparsed", richness := 2, handler := some (.sectionMatch true false) },
    { name := "includemaxlength", richness := 2, isInteger := true },
    { name := "includenotmatch", richness := 2, handler := some (.sectionMatch false true) },
    { name := "includenotmatchparsed", richness := 2, handler := some (.sectionMatch true true) },
    { name := "includepage", richness := 2, handler := some .sections },
    { name := "includesubpages", richness := 2, isBoolean := true, default := some (.bool true) },
    { name := "includetrim", richness := 2, isBoolean := true, default := some (.bool false) },
    freeText "itemattr" 2,
    userFilter "lastmodifiedby",
    { name := "linksfrom", richness := 2, pageNames := some .titles, selects := true },
    pageFilter "linksto" .titles,
    pageFilter "linkstoexternal" .anyNames,
    freeText "listattr" 2,
    { name := "minoredits", richness := 2, values := some ["include", "exclude"] },
    userFilter "modifiedby",
    { name := "multisecseparators", richness := 2, handler := some .multiSectionSeparators },
    userFilter "notcreatedby",
    userFilter "notlastmodifiedby",
    pageFilter "notlinksfrom" .titles,
    pageFilter "notlinksto" .titles,
    userFilter "notmodifiedby",
    { name := "nottitle", richness := 2, handler := some .notTitle, selects := true },
    { name := "nottitlematch", richness := 2, handler := some (.titlePattern .unwanted .like),
      selects := true },
    { name := "nottitleregexp", richness := 2, handler := some (.titlePattern .unwanted .regexp),
      selects := true },
    pageFilter "notuses" .titles,
    { name := "reset", richness := 2, handler := some .flagSet, values := some linkTableFlags,
      default := some (noFlags linkTableFlags) },
    { name := "secseparators", richness := 2, handler := some .sectionSeparators },
    { name := "skipthispage", richness := 2, isBoolean := true, default := some (.bool true) },
    { name := "table", richness := 2, handler := some .table },
    { name := "tablerow", richness := 2, handler := some .tableRow },
    { name := "tablesortcol", richness := 2, isInteger := true },
    { name := "tablesortmethod", richness := 2, values := some ["standard", "natural"],
      default := some (.text "standard") },
    { name := "titlematch", richness := 2, handler := some (.titlePattern .wanted .like),
      selects := true },
    { name := "titleregexp", richness := 2, handler := some (.titlePattern .wanted .regexp),
      selects := true },
    pageFilter "usedby" .titles,
    pageFilter "uses" .titles]

/-- Costly filters by revisions and patterns. -/
def revisionParameters : List Parameter :=
  [
    revisionFilter "allrevisionsbefore",
    revisionFilter "allrevisionssince",
    pageFilter "articlecategory" .titles,
    { name := "categorymatch", richness := 3, handler := some (.categoryPattern .wanted .like),
      selects := true, conflicts := true },
    { name := "categoryregexp", richness := 3, handler := some (.categoryPattern .wanted .regexp),
      selects := true, conflicts := true },
    revisionFilter "firstrevisionsince",
    { name := "goal", richness := 3, values := some ["pages", "categories"],
      default := some (.text "pages"), conflicts := true },
    revisionFilter "lastrevisionbefore",
    { name := "maxrevisions", richness := 3, isInteger := true },
    { name := "minrevisions", richness := 3, isInteger := true },
    { name := "notcategorymatch", richness := 3,
      handler := some (.categoryPattern .unwanted .like), selects := true, conflicts := true },
    { name := "notcategoryregexp", richness := 3,
      handler := some (.categoryPattern .unwanted .regexp), selects := true, conflicts := true },
    { name := "openreferences", richness := 3, handler := some .openReferences,
      default := some (.openReferences .no) }]

/-- Operations that change pages. -/
def rulesParameters : List Parameter :=
  [
    { name := "deleterules", richness := 4, preservesCase := true,
      permission := some "dpl_param_delete_rules" },
    { name := "updaterules", richness := 4, preservesCase := true,
      permission := some "dpl_param_update_rules" }]

/-- All parameters, in the order in which they are laid down. -/
def standardParameters : List Parameter :=
  basicParameters ++ layoutParameters ++ contentParameters ++ revisionParameters ++ rulesParameters

/-- The table of all parameters. -/
def standard : Registry where
  parameters := standardParameters
  names_nodup := by decide +kernel

end WikiQuery.Registry
