import WikiQuery.Text.Blank
import WikiQuery.Text.WordCharacter

/-!
Files of variables. A line gives a name and a value, in quotes or without. Values may refer to other
variables, and a quoted value may run over several lines. Reading ends with the first line that is
not well formed; what stands before it counts.
-/

set_option autoImplicit false

namespace WikiQuery.EnvFile

/-- A part of a value: a character, or the value of a variable. -/
inductive Piece
  | char (c : Char)
  | ref (name : String)
  deriving DecidableEq, Repr

/-- A name and the parts of its value. -/
structure Entry where
  name : String
  value : List Piece
  deriving DecidableEq, Repr

/-- The lines of a text, each with the break at its end. -/
def lines : List Char → List (List Char)
  | [] => []
  | c :: cs =>
    if c = '\n' then [c] :: lines cs
    else
      match lines cs with
      | [] => [[c]]
      | l :: ls => (c :: l) :: ls

/-- Where a line has come to, as far as it matters for the question whether it goes on behind its
break. -/
inductive Place
  | plain
  /-- Behind a blank, where a comment can begin. -/
  | blank
  | escape
  | double | doubleEscape
  | single | singleEscape
  deriving DecidableEq, Repr

/-- The place behind a character that stands outside of quotes. -/
def Place.outside (c : Char) : Place :=
  if c = '\\' then .escape
  else if c = '"' then .double
  else if c = '\'' then .single
  else .plain

/-- The place behind a character; none if a comment begins with it. -/
def Place.next? (place : Place) (c : Char) : Option Place :=
  match place with
  | .plain =>
    some (if Text.isBlank c && c != '\n' && c != '\r' then .blank else Place.outside c)
  | .blank => if c = '#' then none else some (Place.outside c)
  | .escape => some .plain
  | .double => some (if c = '\\' then .doubleEscape else if c = '"' then .plain else .double)
  | .doubleEscape => some .double
  | .single => some (if c = '\\' then .singleEscape else if c = '\'' then .plain else .single)
  | .singleEscape => some .single

/-- The place at the end of a line and the characters up to there, or the text in front of the comment
that ends it. The characters in front of the line are given backwards, and so are those at its end. -/
def scan (place : Place) (front : List Char) : List Char → Sum (Place × List Char) (List Char)
  | [] => .inl (place, front)
  | c :: cs =>
    match place.next? c with
    | none => .inr front.reverse
    | some place => scan place (c :: front) cs

/-- A line, given backwards, without the break at its end. -/
def withoutBreak : List Char → List Char
  | '\n' :: '\r' :: cs => cs.reverse
  | '\n' :: cs => cs.reverse
  | cs => cs.reverse

/-- The lines of a file, where a value in quotes makes one of several; `none` stands for one that
never ends. The characters of the line under way are given backwards, and `opening` is the first of
them that is not blank. -/
def joined (front : List Char) (opening : Option Char) (place : Place) :
    List (List Char) → List (Option (List Char))
  | [] => if place = .plain then [] else [none]
  | l :: ls =>
    let opening := opening.or (Text.trimStart l).head?
    if opening = some '#' then some [] :: joined [] none .plain ls
    else
      match scan place front l with
      | .inr shown => some shown :: joined [] none .plain ls
      | .inl (.plain, front) => some (withoutBreak front) :: joined [] none .plain ls
      | .inl (place, front) => joined front opening place ls

/-- Where a value has come to. The flags say that it stands between double quotes. -/
inductive State
  | plain
  | quoted
  | single
  | escape (inQuotes : Bool)
  /-- Behind a dollar sign and the characters of a name, the latest first. -/
  | name (inQuotes : Bool) (chars : List Char)
  /-- The same between braces. -/
  | braced (inQuotes : Bool) (chars : List Char)
  /-- Behind a blank, where only a comment may follow. -/
  | ended
  deriving DecidableEq, Repr

/-- Outside of a name: between double quotes, or not. -/
def State.around (inQuotes : Bool) : State :=
  if inQuotes then .quoted else .plain

/-- The reference to a name whose characters are given backwards. -/
def reference (chars : List Char) : Piece :=
  .ref (String.ofList chars.reverse)

/-- The state behind a character, and what it adds to the value, if it may stand there. -/
def State.next? (state : State) (c : Char) : Option (State × List Piece) :=
  match state with
  | .plain =>
    some (if c = '$' then (.name false [], [])
      else if c = '\'' then (.single, [])
      else if c = '"' then (.quoted, [])
      else if c = '\\' then (.escape false, [])
      else if c = ' ' ∨ c = '\t' then (.ended, [])
      else (.plain, [.char c]))
  | .quoted =>
    some (if c = '$' then (.name true [], [])
      else if c = '"' then (.plain, [])
      else if c = '\\' then (.escape true, [])
      else (.quoted, [.char c]))
  | .single => some (if c = '\'' then (.plain, []) else (.single, [.char c]))
  | .escape inQuotes =>
    if c = '\\' ∨ c = '\'' ∨ c = '"' ∨ c = '$' ∨ c = ' ' then
      some (State.around inQuotes, [.char c])
    else if c = 'n' then some (State.around inQuotes, [.char '\n'])
    else none
  | .name inQuotes chars =>
    some (if Text.isAlphanumeric c then (.name inQuotes (c :: chars), [])
      else if c = '\x7b' ∧ chars = [] then (.braced inQuotes [], [])
      else if c = '$' then (.name inQuotes [], [reference chars])
      else (State.around inQuotes, [reference chars, .char c]))
  | .braced inQuotes chars =>
    some (if c = '\x7d' then (State.around inQuotes, [reference chars])
      else (.braced inQuotes (c :: chars), []))
  | .ended => if c = ' ' ∨ c = '\t' then some (.ended, []) else none

/-- What the end of a value adds to it, if it may end there. -/
def State.finish? : State → Option (List Piece)
  | .plain | .ended | .escape false => some []
  | .name false chars => some [reference chars]
  | _ => none

/-- The parts of a value. -/
def pieces? (state : State) : List Char → Option (List Piece)
  | [] => state.finish?
  | c :: cs =>
    if state = .ended ∧ c = '#' then some []
    else
      (state.next? c).bind fun step => (pieces? step.1 cs).map (step.2 ++ ·)

/-- A name at the start of a text, and the text behind it and the white space that follows. -/
def name? (cs : List Char) : Option (String × List Char) :=
  match cs with
  | [] => none
  | c :: _ =>
    if c.isAlpha || c == '_' then
      let isNameChar := fun c : Char => c.isAlphanum || c == '_' || c == '.'
      some (String.ofList (cs.takeWhile isNameChar), Text.trimStart (cs.dropWhile isNameChar))
    else none

/-- The text behind the equals sign at its start. -/
def behindEquals? : List Char → Option (List Char)
  | '=' :: cs => some cs
  | _ => none

/-- The name that a line gives a value to, and the text of that value. The word `export` may stand
in front of the name. -/
def assignment? (cs : List Char) : Option (String × List Char) := do
  let (name, rest) ← name? cs
  match behindEquals? rest with
  | some value => some (name, value)
  | none =>
    if name = "export" then do
      let (name, rest) ← name? rest
      let value ← behindEquals? rest
      some (name, value)
    else none

/-- The entry of a line, none for a line without one. Fails for a line that is not well formed. -/
def entry? (line : List Char) : Option (Option Entry) :=
  match Text.trimmed line with
  | [] => some none
  | '#' :: _ => some none
  | cs => do
    let (name, value) ← assignment? cs
    match Text.trimStart value with
    | [] => some (some ⟨name, []⟩)
    | '#' :: _ => some (some ⟨name, []⟩)
    | value => (pieces? .plain value).map fun pieces => some ⟨name, pieces⟩

/-- The entries of lines, up to the first that is not well formed. -/
def entriesOf : List (Option (List Char)) → List Entry
  | [] => []
  | none :: _ => []
  | some line :: rest =>
    match entry? line with
    | none => []
    | some none => entriesOf rest
    | some (some e) => e :: entriesOf rest

/-- The entries of a file. A mark of the order of bytes in front is left out. -/
def entries (text : String) : List Entry :=
  let cs := match text.toList with
    | '\ufeff' :: cs => cs
    | cs => cs
  entriesOf (joined [] none .plain (lines cs))

/-- A variable with its value: a line that has an equals sign between the two. -/
abbrev Variable := List Char

/-- The variable with a name and a value. -/
def variableOf (name value : String) : Variable :=
  name.toList ++ '=' :: value.toList

/-- The value of a variable among some. A name may also run on into the value behind a name. -/
def lookup (defined : List Variable) (name : String) : Option String :=
  let front := name.toList ++ ['=']
  defined.findSome? fun line => (front.isPrefixOf? line).map String.ofList

/-- The value of a variable: the one of the environment, or else the one that a file set. -/
def value? {m : Type → Type} [Monad m] (environment : String → m (Option String))
    (set : List Variable) (name : String) : m (Option String) := do
  match ← environment name with
  | some value => pure (some value)
  | none => pure (lookup set name)

/-- The text of a part of a value. -/
def Piece.text {m : Type → Type} [Monad m] (environment : String → m (Option String))
    (set : List Variable) : Piece → m String
  | .char c => pure (String.singleton c)
  | .ref name => do
    let value ← value? environment set name
    pure (value.getD "")

/-- Whether a variable can have a value: none holds the character zero. -/
def isSettable (value : String) : Bool :=
  !value.toList.contains '\x00'

/-- The variables that entries set, behind those that are set, unless one cannot have its value. A
variable that has a value keeps it. -/
def set {m : Type → Type} [Monad m] (environment : String → m (Option String))
    (before : List Variable) : List Entry → m (Option (List Variable))
  | [] => pure (some before)
  | e :: es => do
    let parts ← e.value.mapM (Piece.text environment before)
    let value := String.join parts
    match ← value? environment before e.name with
    | some _ => set environment before es
    | none =>
      if isSettable value then set environment (before ++ [variableOf e.name value]) es
      else pure none

end WikiQuery.EnvFile
