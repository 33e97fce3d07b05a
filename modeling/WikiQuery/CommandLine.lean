import WikiQuery.CommandLine.Arguments
import WikiQuery.EnvFile
import WikiQuery.Registry.Standard
import WikiQuery.Report
import WikiQuery.Settings.Document

/-!
The program `pagelist`: what it does for its arguments. All that it may look at, files, the standard
input and the environment, is handed to it, so that what it does can be told without a system.
-/

set_option autoImplicit false

namespace WikiQuery.CommandLine

/-- What the program may look at. -/
structure Surroundings (m : Type → Type) where
  /-- What there is at a path. -/
  file : String → m FileContent
  /-- The standard input, if it is text. -/
  input : m (Option String)
  /-- The value of a variable of the environment. -/
  environment : String → m (Option String)

/-- How a run of the program ends. -/
inductive Result
  /-- With this on the standard output. -/
  | done (output : String)
  /-- With this complaint. -/
  | failed (complaint : String)
  /-- At once, since the arguments are not as they should be. -/
  | misused
  /-- At once, since a variable cannot have the value that the file of variables gives it. -/
  | broken
  deriving DecidableEq, Repr

/-- The status that the program leaves. -/
def Result.status : Result → Nat
  | done _ => 0
  | failed _ => 1
  | misused => 2
  | broken => 101

/-- The file that variables are taken from, beside the environment. -/
def envPath : String := ".env"

/-- The file that settings are taken from, unless another is named. -/
def defaultConfigPath : String := "pagelist.toml"

variable {m : Type → Type} [Monad m]

/-- The variables that a run has beside those of the environment. -/
abbrev Variables := List EnvFile.Variable

/-- What is done with the variables that the file of variables sets. -/
def withVariables (s : Surroundings m) (act : Variables → m Result) : m Result := do
  match ← s.file envPath with
  | .text t =>
    match ← EnvFile.set s.environment [] (EnvFile.entries t) with
    | some defined => act defined
    | none => pure .broken
  | .missing | .unreadable => act []

/-- The values of the variables that settings are taken from. -/
def settingsVariables (s : Surroundings m) (set : Variables) :
    m (List (String × Option String)) :=
  (Settings.overrides.map (·.1)).mapM fun name => do
    let value ← EnvFile.value? s.environment set name
    pure (name, value)

/-- The configuration of a file, with the settings that the environment changes. -/
def configuration (s : Surroundings m) (set : Variables) (config : Option String) :
    m (Except SettingsError Configuration) := do
  let path := config.getD defaultConfigPath
  let content ← s.file path
  let overrides ← settingsVariables s set
  pure (match Configuration.load path content with
    | .error error => .error error
    | .ok c =>
      match c.settings.withEnvironment fun name => (List.lookup name overrides).join with
      | (_, some error) => .error error
      | (settings, none) => .ok { c with settings := settings })

/-- Whether a path stands for the standard input: a lone dash, also as a directory. -/
def isInputPath (path : String) : Bool :=
  match Text.split '/' path with
  | [] => false
  | name :: inner => name == "-" && inner.all fun part => part == "" || part == "."

/-- The text of the directive: that of a file, or the standard input. -/
def directiveText (s : Surroundings m) (file : Option String) : m (Except String String) := do
  match file.filter fun path => !isInputPath path with
  | some path =>
    match ← s.file path with
    | .text t => pure (.ok t)
    | .missing | .unreadable => pure (.error ("failed to read " ++ path))
  | none =>
    match ← s.input with
    | some t => pure (.ok t)
    | none => pure (.error "failed to read directive from stdin")

/-- The outcome of a directive in a form. -/
def Format.show (o : Outcome) : Format → String
  | .text => unlines o.lines
  | .json => o.toJsonText

/-- Shows what a directive comes to. -/
def runParse (s : Surroundings m) (set : Variables) (config file : Option String)
    (format : Format) : m Result := do
  match ← configuration s set config with
  | .error error => pure (.failed error.message)
  | .ok c =>
    match ← directiveText s file with
    | .error complaint => pure (.failed complaint)
    | .ok text =>
      let engine : Engine := ⟨Registry.standard, c.settings, c.site.host⟩
      match engine.runText text with
      | .error error => pure (.failed error.message)
      | .ok outcome => pure (.done (format.show outcome))

/-- Lists the parameters that are to be had at a richness. -/
def runParams (s : Surroundings m) (set : Variables) (config : Option String)
    (richness : Option Nat) : m Result := do
  match ← configuration s set config with
  | .error error => pure (.failed error.message)
  | .ok c =>
    pure (.done (unlines (Registry.standard.lines (richness.getD c.settings.richness))))

/-- Shows the pairs of a directive in the order in which they are read. -/
def runSort (s : Surroundings m) (file : Option String) : m Result := do
  match ← directiveText s file with
  | .error complaint => pure (.failed complaint)
  | .ok text =>
    match Pair.sorted (Pair.ofText text) with
    | .error error => pure (.failed error.message)
    | .ok pairs => pure (.done (unlines (pairs.map Pair.line)))

/-- Whether looks are to be shown: variables may ask for it, or forbid it, which counts more. An empty
variable says nothing. -/
def showsLooks (s : Surroundings m) (set : Variables) : m Bool := do
  let forbidden ← EnvFile.value? s.environment set "NO_COLOR"
  let forced ← EnvFile.value? s.environment set "CLICOLOR_FORCE"
  pure (!forbidden.any (· != "") && forced.any (· != ""))

/-- The lines of a page of help, as they are shown. -/
def helpLines (s : Surroundings m) (set : Variables) (page : Page) : m (List String) := do
  let looks ← showsLooks s set
  pure (page.lines.map (Styled.shown looks))

/-- What the program does for its arguments. The file of variables is read first, unless help or the
version is called for. -/
def run (s : Surroundings m) (args : List String) : m Result :=
  match Request.ofArguments? args with
  | none => pure .misused
  | some (.help page) => do
    let lines ← helpLines s [] page
    pure (.done (unlines lines))
  | some .version => pure (.done (unlines [versionLine]))
  | some (.parse config file format) =>
    withVariables s fun set => runParse s set config file format
  | some (.params config richness) => withVariables s fun set => runParams s set config richness
  | some (.sort file) => withVariables s fun _ => runSort s file
  | some .nothing =>
    withVariables s fun set => do
      let lines ← helpLines s set .overview
      pure (.done (unlines (lines ++ [""])))

end WikiQuery.CommandLine
