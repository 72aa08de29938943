import ScriptGate.CommandLine.Session
import ScriptGate.Json.Printer

/-! # The program

Reads the arguments, the environment and the script file, holds one session, and prints what it
shows. The program itself has no network, so every request of it fails to connect. -/

namespace ScriptGate.CommandLine

partial def readRest (stream : IO.FS.Stream) (text : String) : IO String := do
  let line ← stream.getLine
  if line.isEmpty then return text else readRest stream (text ++ line)

/-- The text of a script file; a single dash stands for standard input. -/
def readFile (path : String) : IO (Option String) := do
  try
    if path = "-" then return some (← readRest (← IO.getStdin) "")
    else return some (← IO.FS.readFile path)
  catch _ => return none

/-- The variables of the environment that settings are read from. -/
def readEnvironment : IO Settings.Environment := do
  let names := Settings.Instance.names ++ Settings.Pipeline.names
  let values ← names.mapM fun name => do
    return (← IO.getEnv name.variableName).map fun value => (name.variableName, value)
  return values.filterMap id

/-- The path of the script file that the arguments name. -/
def scriptPath? (arguments : List Argument) : Option Argument :=
  match Opening.ofArguments arguments with
  | .error _ => none
  | .ok opening => ((Task.ofArguments opening.command opening.arguments).toOption).map (·.path)

/-- A transport without a network. -/
def unconnected : Remote.Transport := fun _ =>
  ⟨.error ⟨.other "ConnectError", "All connection attempts failed"⟩, 0⟩

def printedLines : Output → List String
  | .lines lines => lines
  | .findings rows lines => rows.map (fun row => row.1 ++ "  " ++ row.2) ++ lines
  | .result result => [result.toCompactJson.write]
  | .breakdown breakdown => [breakdown.message]

/-- Holds the session for some arguments. -/
def hold (given : List String) : IO UInt32 := do
  let arguments := given.map String.toList
  let script ←
    match scriptPath? arguments with
    | some path => readFile (String.ofList path)
    | none => pure none
  let surroundings : Surroundings :=
    { environment := ← readEnvironment
      readScript := fun _ => script.map String.toList
      transport := unconnected }
  let session := run surroundings arguments
  for notice in session.notices ++ session.log.map (·.message) do
    IO.eprintln notice
  for line in printedLines session.output do
    IO.println line
  return session.exitCode.toUInt32

end ScriptGate.CommandLine

/-- Holds one session and ends with its exit code. -/
def main (arguments : List String) : IO UInt32 := ScriptGate.CommandLine.hold arguments
