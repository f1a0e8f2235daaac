import MapMarkup.CommandLine

/-!
# The program

Renders one map request and prints the answer. Variables are taken from the environment and then
from the file `.env`, if there is one.
-/

namespace MapMarkup

def readText? (path : String) : IO (Option String) := do
  try
    return some (← IO.FS.readFile path)
  catch _ => return none

def processVariables (names : List String) : IO Environment :=
  names.eraseDups.filterMapM fun name => do
    return (← IO.getEnv name).map fun value => (name, value)

def readEnvironment (file : Option String) : IO (Option Environment) := do
  let own := CommandOption.all.filterMap CommandOption.standIn?
    ++ [Help.styleVariable, Help.plainVariable]
  let text := file.getD ""
  return (← processVariables (own ++ Environment.namesIn text)).load text

def runIn (env : Environment) (arguments : List String) : IO Outcome := do
  let invocation := Invocation.ofArguments env arguments
  let catalog ← match invocation.catalog? with
    | some path => readText? path
    | none => pure none
  return invocation.outcome env catalog

def run (arguments : List String) : IO UInt32 := do
  let outcome ← match ← readEnvironment (← readText? ".env") with
    | some env => runIn env arguments
    | none => pure Outcome.aborted
  IO.print outcome.output
  IO.eprint outcome.notice
  return outcome.exitCode.toUInt32

end MapMarkup

def main (arguments : List String) : IO UInt32 :=
  MapMarkup.run arguments
