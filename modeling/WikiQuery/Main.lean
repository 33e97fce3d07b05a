import WikiQuery.CommandLine

/-!
The program itself: it hands the files, the standard input and the environment of the system to the
command line, and shows how the run ends.
-/

set_option autoImplicit false

namespace WikiQuery.CommandLine

/-- What the system has at a path. -/
def systemFile (path : String) : IO FileContent := do
  try
    let text ← IO.FS.readFile path
    pure (.text text)
  catch error =>
    match error with
    | .noFileOrDirectory .. => pure .missing
    | _ => pure .unreadable

/-- The standard input of the system, if it is text. -/
def systemInput : IO (Option String) := do
  try
    let input ← IO.getStdin
    let text ← input.readToEnd
    pure (some text)
  catch _ => pure none

/-- The system as what the program may look at. -/
def system : Surroundings IO where
  file := systemFile
  input := systemInput
  environment := fun name => IO.getEnv name

end WikiQuery.CommandLine

/-- Runs the program. -/
def main (args : List String) : IO UInt32 := do
  let result ← WikiQuery.CommandLine.run WikiQuery.CommandLine.system args
  match result with
  | .done output => IO.print output
  | .failed complaint => IO.eprintln ("Error: " ++ complaint)
  | .misused => IO.eprintln "For more information, try '--help'."
  | .broken => IO.eprintln "a variable cannot have the value that it is given"
  pure result.status.toUInt32
