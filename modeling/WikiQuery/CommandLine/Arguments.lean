import WikiQuery.CommandLine.Help
import WikiQuery.Number.Word
import WikiQuery.Text.Split

/-!
The arguments of the program. They are read from the left: options, and then a command with options
and arguments of its own. An option is given once at most, and the first call for help or for the
version is answered before anything behind it is looked at.
-/

set_option autoImplicit false

namespace WikiQuery.CommandLine

/-- The form in which a directive's outcome is shown. -/
inductive Format
  | text | json
  deriving DecidableEq, Repr

/-- The form with a name. -/
def Format.ofWord? : String → Option Format
  | "text" => some .text
  | "json" => some .json
  | _ => none

/-- What the arguments call for. -/
inductive Request
  | parse (config file : Option String) (format : Format)
  | params (config : Option String) (richness : Option Nat)
  | sort (file : Option String)
  | help (page : Page)
  | version
  /-- There is no command. -/
  | nothing
  deriving DecidableEq, Repr

/-- An option that has a value. -/
inductive ValueOption
  | config | format | richness
  deriving DecidableEq, Repr

/-- What the options and arguments in front of a command, or behind it, have given. -/
structure Given where
  config : Option String := none
  format : Option Format := none
  richness : Option Nat := none
  verbose : Bool := false
  file : Option String := none
  deriving DecidableEq, Repr

/-- An option whose value has not been looked at: it is still to come, or has come. -/
inductive Waiting
  | no
  | value (o : ValueOption)
  | check (o : ValueOption) (value : String)
  deriving DecidableEq, Repr

/-- The part of the arguments that is read: that in front of the command, or that behind it. -/
abbrev Level := Option Command

/-- The option with a name that has a value. -/
def ValueOption.ofWord? (level : Level) (word : String) : Option ValueOption :=
  if word = "config" then some .config
  else if word = "format" ∧ level = some .parse then some .format
  else if word = "richness" ∧ level = some .params then some .richness
  else none

/-- A level of richness. -/
def richness? (value : String) : Option Nat :=
  (Number.int64? value).bind fun n => if 0 ≤ n ∧ n ≤ 255 then some n.toNat else none

/-- What is given with the value of an option, if it is a value of the option and the first one. -/
def Given.withValue? (g : Given) (o : ValueOption) (value : String) : Option Given :=
  match o with
  | .config => if g.config.isNone && !value.isEmpty then some { g with config := value } else none
  | .format =>
    if g.format.isNone then (Format.ofWord? value).map fun f => { g with format := some f } else none
  | .richness =>
    if g.richness.isNone then (richness? value).map fun n => { g with richness := some n } else none

/-- What is given when the option that waits has been looked at. -/
def Given.settle? (g : Given) : Waiting → Option Given
  | .no => some g
  | .value _ => none
  | .check o value => g.withValue? o value

/-- The page of help for a level. -/
def pageOf : Level → Page
  | none => .overview
  | some c => .command c

/-- The page that words behind the command for help call for. -/
def helpPage? : List String → Option Page
  | [] => some .overview
  | [word] => if word = helpWord then some .help else (Command.ofWord? word).map .command
  | _ => none

/-- What reading comes to: an answer at once, or what is given and the command that follows, with the
arguments behind it and the option that waits. -/
inductive Reading
  | answer (r : Request)
  | given (g : Given) (command : Option (Command × List String × Waiting))

/-- Reads the letters of short options. -/
def readShort (level : Level) (g : Given) : List Char → Option (Sum Request Given)
  | [] => some (.inr g)
  | c :: cs =>
    if c = 'v' then
      if g.verbose then none else readShort level { g with verbose := true } cs
    else if c = 'h' then some (.inl (.help (pageOf level)))
    else if c = 'V' ∧ level = none then some (.inl .version)
    else none

/-- The name of a long option and the value behind an equals sign, if there is one. -/
def longParts (arg : String) : String × Option String :=
  match Text.cut? '=' (arg.toList.drop 2) with
  | some (name, value) => (String.ofList name, some (String.ofList value))
  | none => (String.ofList (arg.toList.drop 2), none)

/-- What is given with an argument that is no option. -/
def Given.withFile? (level : Level) (g : Given) (arg : String) : Option Given :=
  if (level = some .parse ∨ level = some .sort) ∧ g.file = none ∧ arg ≠ "" then
    some { g with file := some arg }
  else none

/-- Whether an argument has the form of options: a dash, and something behind it. -/
def isOption (arg : String) : Bool :=
  match arg.toList with
  | '-' :: _ :: _ => true
  | _ => false

/-- Whether an argument has the form of a long option. -/
def isLong (arg : String) : Bool :=
  match arg.toList with
  | '-' :: '-' :: _ => true
  | _ => false

/-- Reads the arguments of a level. Behind two dashes, all are taken as they are. -/
def readLevel (level : Level) (g : Given) (waiting : Waiting) (asTheyAre : Bool) :
    List String → Option Reading
  | [] => (g.settle? waiting).map fun g => .given g none
  | arg :: args =>
    if asTheyAre then
      (g.settle? waiting).bind fun g =>
        (g.withFile? level arg).bind fun g => readLevel level g .no true args
    else
      match waiting with
      | .value o =>
        if isOption arg then none else readLevel level g (.check o arg) false args
      | .no | .check _ _ =>
        if level = none ∧ arg = helpWord then (helpPage? args).map fun p => .answer (.help p)
        else
          match if level = none then Command.ofWord? arg else none with
          | some c => some (.given g (some (c, args, waiting)))
          | none =>
            if arg = "--" then readLevel level g waiting true args
            else
              (g.settle? waiting).bind fun g =>
                if isLong arg then
                  let (name, value) := longParts arg
                  match ValueOption.ofWord? level name, value with
                  | some o, some value =>
                    (g.withValue? o value).bind fun g => readLevel level g .no false args
                  | some o, none => readLevel level g (.value o) false args
                  | none, some _ => none
                  | none, none =>
                    if name = "help" then some (.answer (.help (pageOf level)))
                    else if name = "version" ∧ level = none then some (.answer .version)
                    else if name = "verbose" ∧ !g.verbose then
                      readLevel level { g with verbose := true } .no false args
                    else none
                else if isOption arg then
                  match readShort level g (arg.toList.drop 1) with
                  | none => none
                  | some (.inl r) => some (.answer r)
                  | some (.inr g) => readLevel level g .no false args
                else (g.withFile? level arg).bind fun g => readLevel level g .no false args

/-- What a command with its options and arguments calls for, behind the options in front of it. -/
def requestOf (outer inner : Given) : Command → Request
  | .parse => .parse (inner.config.or outer.config) inner.file (inner.format.getD .text)
  | .params => .params (inner.config.or outer.config) inner.richness
  | .sort => .sort inner.file

/-- What the arguments of the program call for, if they are as they should be. -/
def Request.ofArguments? (args : List String) : Option Request :=
  match readLevel none {} .no false args with
  | none => none
  | some (.answer r) => some r
  | some (.given _ none) => some .nothing
  | some (.given outer (some (c, args, waiting))) =>
    match readLevel (some c) {} .no false args with
    | some (.answer r) => some r
    | some (.given inner _) => (outer.settle? waiting).map fun outer => requestOf outer inner c
    | none => none

end WikiQuery.CommandLine
