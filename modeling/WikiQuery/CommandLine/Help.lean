import WikiQuery.CommandLine.Styled

/-!
The commands of the program `pagelist`, and the pages of help that it shows.
-/

set_option autoImplicit false

namespace WikiQuery.CommandLine

/-- What the program can be told to do. -/
inductive Command
  /-- Read a directive and show what it comes to. -/
  | parse
  /-- List the parameters. -/
  | params
  /-- Show the pairs of a directive in the order in which they are read. -/
  | sort
  deriving DecidableEq, Repr

/-- All commands, in the order in which they are listed. -/
def Command.all : List Command :=
  [.parse, .params, .sort]

/-- The word for a command. -/
def Command.word : Command → String
  | parse => "parse"
  | params => "params"
  | sort => "sort"

/-- What a command does, in words. -/
def Command.about : Command → String
  | parse => "Parse a directive and print the resulting query specification"
  | params => "List registered parameters"
  | sort => "Print directive pairs in processing order"

/-- The word for the command that shows help. -/
def helpWord : String := "help"

/-- What the command that shows help does, in words. -/
def helpAbout : String :=
  "Print this message or the help of the given subcommand(s)"

/-- The command with a word. -/
def Command.ofWord? (word : String) : Option Command :=
  Command.all.find? fun c => c.word == word

/-- The word for the program. -/
def programWord : String := "pagelist"

/-- The line that `--version` calls for. -/
def versionLine : String := programWord ++ " 0.2.0"

/-- A page of help. -/
inductive Page
  | overview
  | command (c : Command)
  /-- The page of the command that shows help. -/
  | help
  deriving DecidableEq, Repr

/-- Entries of a page: what is explained, and the explanation. -/
abbrev Entries := List (Styled × String)

/-- Entries under a heading, with the explanations in a column; none make no lines. -/
def titled (heading : String) (entries : Entries) : List Styled :=
  if entries.isEmpty then []
  else
    let width := (entries.map (·.1.length)).foldl max 0
    [] :: Styled.heading heading :: entries.map fun e =>
      let gap := String.ofList (List.replicate (width - e.1.length) ' ')
      Styled.plain "  " ++ e.1 ++ Styled.plain (gap ++ "  " ++ e.2)

/-- An option, and the word for its value if it has one. -/
def optionLabel (short : Option String) (long : String) (value : Option String) : Styled :=
  let before : Styled :=
    match short with
    | some letter => Styled.word letter ++ Styled.plain ", "
    | none => Styled.plain "    "
  let behind : Styled :=
    match value with
    | some word => Styled.plain (" <" ++ word ++ ">")
    | none => []
  before ++ Styled.word long ++ behind

/-- The options that every command has, before and behind those of its own. -/
def configEntry : Styled × String :=
  (optionLabel none "--config" (some "PATH"), "Engine and site config (TOML)")

@[inherit_doc configEntry]
def verboseEntry : Styled × String :=
  (optionLabel (some "-v") "--verbose" none, "Log parameter decisions to stderr")

@[inherit_doc configEntry]
def helpEntry : Styled × String :=
  (optionLabel (some "-h") "--help" none, "Print help")

/-- The option that calls for the version. -/
def versionEntry : Styled × String :=
  (optionLabel (some "-V") "--version" none, "Print version")

/-- The options that a command has of its own. -/
def Command.options : Command → Entries
  | parse =>
    [(optionLabel none "--format" (some "FORMAT"),
      "[default: text] [possible values: text, json]")]
  | params =>
    [(optionLabel none "--richness" (some "LEVEL"),
      "Only parameters available at this richness")]
  | sort => []

/-- The arguments of a command: the words for them, and what they are. -/
def Command.arguments : Command → List (String × String)
  | parse | sort => [("[FILE]", "Directive file; stdin when omitted or `-`")]
  | params => []

/-- Arguments under their heading. -/
def argumentLines (arguments : List (String × String)) : List Styled :=
  titled "Arguments:" (arguments.map fun a => (Styled.plain a.1, a.2))

/-- What is done, how it is called for, and the lists of a page. -/
def pageLines (about words usage : String) (lists : List Styled) : List Styled :=
  let call := Styled.plain " " ++ Styled.word words ++ Styled.plain (" " ++ usage)
  [Styled.plain about, [], Styled.heading "Usage:" ++ call] ++ lists

/-- The lines of a page. -/
def Page.lines : Page → List Styled
  | overview =>
    let commands : Entries :=
      (Command.all.map fun c => (Styled.word c.word, c.about)) ++ [(Styled.word helpWord, helpAbout)]
    pageLines "Validate and normalize page-list directives" programWord "[OPTIONS] [COMMAND]"
      (titled "Commands:" commands ++
        titled "Options:" [configEntry, verboseEntry, helpEntry, versionEntry])
  | command c =>
    pageLines c.about (programWord ++ " " ++ c.word)
      (" ".intercalate ("[OPTIONS]" :: c.arguments.map (·.1)))
      (argumentLines c.arguments ++
        titled "Options:" ([configEntry] ++ c.options ++ [verboseEntry, helpEntry]))
  | help =>
    pageLines helpAbout (programWord ++ " " ++ helpWord) "[COMMAND]..."
      (argumentLines [("[COMMAND]...", "Print help for the subcommand(s)")])

end WikiQuery.CommandLine
