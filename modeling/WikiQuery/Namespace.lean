import WikiQuery.Text.Blank
import WikiQuery.Text.Case
import WikiQuery.Text.Split

/-!
The namespaces that every wiki has, with their numbers and canonical names.
-/

set_option autoImplicit false

namespace WikiQuery

/-- A namespace that every wiki has. -/
inductive Namespace
  | main | talk | user | userTalk | project | projectTalk | file | fileTalk | mediaWiki
  | mediaWikiTalk | template | templateTalk | help | helpTalk | category | categoryTalk | module
  | moduleTalk
  deriving DecidableEq, Repr

namespace Namespace

/-- The number of the main namespace. -/
def mainId : Int := 0

/-- All of them, in ascending order of their numbers. -/
def all : List Namespace :=
  [.main, .talk, .user, .userTalk, .project, .projectTalk, .file, .fileTalk, .mediaWiki,
    .mediaWikiTalk, .template, .templateTalk, .help, .helpTalk, .category, .categoryTalk, .module,
    .moduleTalk]

/-- The number of a namespace. -/
def id : Namespace → Int
  | .main => mainId
  | .talk => 1
  | .user => 2
  | .userTalk => 3
  | .project => 4
  | .projectTalk => 5
  | .file => 6
  | .fileTalk => 7
  | .mediaWiki => 8
  | .mediaWikiTalk => 9
  | .template => 10
  | .templateTalk => 11
  | .help => 12
  | .helpTalk => 13
  | .category => 14
  | .categoryTalk => 15
  | .module => 828
  | .moduleTalk => 829

/-- The name that stands in front of a page's name; the main namespace has none. -/
def canonicalName : Namespace → String
  | .main => ""
  | .talk => "Talk"
  | .user => "User"
  | .userTalk => "User talk"
  | .project => "Project"
  | .projectTalk => "Project talk"
  | .file => "File"
  | .fileTalk => "File talk"
  | .mediaWiki => "MediaWiki"
  | .mediaWikiTalk => "MediaWiki talk"
  | .template => "Template"
  | .templateTalk => "Template talk"
  | .help => "Help"
  | .helpTalk => "Help talk"
  | .category => "Category"
  | .categoryTalk => "Category talk"
  | .module => "Module"
  | .moduleTalk => "Module talk"

/-- The other names of namespaces, beside the canonical ones. -/
def aliases : List (String × Namespace) :=
  [("main", .main), ("(main)", .main), ("image", .file), ("image talk", .fileTalk)]

/-- The namespace with a number. -/
def ofId? (id : Int) : Option Namespace :=
  all.find? fun ns => ns.id == id

/-- The namespace with a name or alias. The case of ASCII letters does not count, underscores are
spaces, and no name at all is that of the main namespace. -/
def ofName? (name : String) : Option Namespace :=
  let name := Text.normalizeSpaces (Text.fromKey name)
  match aliases.find? fun entry => Text.eqIgnoringCase entry.1 name with
  | some entry => some entry.2
  | none => all.find? fun ns => Text.eqIgnoringCase ns.canonicalName name

end Namespace

end WikiQuery
