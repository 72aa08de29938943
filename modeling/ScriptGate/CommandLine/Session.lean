import ScriptGate.CommandLine.Arguments
import ScriptGate.CommandLine.Markup
import ScriptGate.CommandLine.Threshold
import ScriptGate.Run.Result
import ScriptGate.Settings
import ScriptGate.Settings.Report
import ScriptGate.Text.Lines

/-! # Sessions of the command line

A session reads the arguments and the settings, sets the threshold of the log, and carries out one
command. It ends with zero on success, with one when the script fails, and with two when the
arguments or the settings are mistaken. It also ends with one when something keeps it from going on:
shown text that closes a tag without opening it, or an address that cannot be read. The threshold is
set before the arguments of the command are read. -/

namespace ScriptGate.CommandLine

/-- What a session depends on besides its arguments. -/
structure Surroundings where
  environment : Settings.Environment
  /-- The text of a script file, if it can be read. -/
  readScript : Argument → Option (List Char)
  transport : Remote.Transport

/-- What keeps a session from going on. -/
inductive Breakdown where
  /-- A text cannot be shown. -/
  | markup (error : MarkupError)
  /-- The address of the instance is refused. -/
  | address (error : Remote.UrlError)
  /-- The word for the threshold names the layout of the log. -/
  | threshold
deriving DecidableEq, Repr

def Breakdown.message : Breakdown → String
  | .markup error => error.message
  | .address error => error.message
  | .threshold => "Unknown level: " ++ Text.displayQuoted Threshold.layout

/-- What a session shows. -/
inductive Output where
  | lines (lines : List String)
  /-- A table of lines and messages, followed by lines of text. -/
  | findings (rows : List (String × String)) (lines : List String)
  | result (result : RunResult)
  /-- Nothing but the reason for not going on. -/
  | breakdown (breakdown : Breakdown)

/-- What a command leaves behind. -/
structure Conclusion where
  exitCode : Nat
  output : Output
  sent : List Remote.HttpRequest
  log : List LogRecord
  /-- What is said about the arguments. -/
  notices : List String

/-- A session that has ended. Its log holds what its threshold shows. -/
structure Session extends Conclusion where
  /-- The threshold of the log. -/
  threshold : Threshold

namespace Conclusion

/-- The end of a session that shows lines only. -/
def ofLines (exitCode : Nat) (lines : List String) : Conclusion :=
  ⟨exitCode, .lines lines, [], [], []⟩

/-- The end of a session whose arguments are no command to carry out. -/
def ofInterruption : Interruption → Conclusion
  | .help => { ofLines 0 [] with notices := [usage] }
  | .usage error => { ofLines 2 [] with notices := [error.message] }

/-- The end of a session that cannot go on. -/
def ofBreakdown (breakdown : Breakdown) : Conclusion := ⟨1, .breakdown breakdown, [], [], []⟩

/-- The end of a session with mistaken settings. The report about them is shown, if it can be, and
its first line counts. -/
def ofSettingsError (environment : Settings.Environment) (error : Settings.SettingsError) :
    Conclusion :=
  let report := error.report (.ofEnvironment environment)
  match shownText ("[red]Configuration error:[/red] " ++ report) with
  | .ok _ => ofLines 2 ["Configuration error: " ++ error.message]
  | .error error => ofBreakdown (.markup error)

/-- The session that ends so, with the part of the log that its threshold shows. -/
def session (conclusion : Conclusion) (threshold : Threshold) : Session :=
  { conclusion with threshold, log := conclusion.log.filter threshold.shows }

end Conclusion

/-- The exit code that tells success from failure. -/
def exitCodeOf (success : Bool) : Nat := if success then 0 else 1

/-- What is shown of a table of lines and messages, and of lines after it. -/
def shownOutput (rows : List (String × String)) (lines : List String) :
    Except MarkupError Output := do
  let rows ← rows.mapM fun (line, message) => do return (line, ← shownText message)
  return .findings rows (← lines.mapM shownText)

/-- The end of a session that shows a table and lines. -/
def conclude (success : Bool) (log : List LogRecord) (rows : List (String × String))
    (lines : List String) : Conclusion :=
  match shownOutput rows lines with
  | .ok output => ⟨exitCodeOf success, output, [], log, []⟩
  | .error error => { Conclusion.ofBreakdown (.markup error) with log }

/-- Finds the errors of a script. -/
def validateScript (settings : Settings.Pipeline) (script : List Char) : Conclusion :=
  let validator : Validator := ⟨settings.maxLength.val, Lint.rules⟩
  let report := validator.validate (some script)
  conclude report.valid report.log
    (report.errors.map fun issue => (toString issue.line, issue.message))
    (report.warnings.map ("[yellow]warning:[/yellow] " ++ ·) ++
      if report.valid then ["[green]Script is valid[/green]"] else [])

/-- Looks for what makes a script unsafe. -/
def screenScript (settings : Settings.Pipeline) (script : List Char) : Conclusion :=
  let verdict := settings.catalog.screen script
  conclude verdict.safe verdict.log []
    (verdict.violations.map ("[red]violation:[/red] " ++ ·.message) ++
      verdict.dangerous.map ("[yellow]requires confirmation:[/yellow] " ++ ·) ++
      if verdict.safe then ["[green]Script is safe[/green]"] else [])

def runScript (settings : Settings) (transport : Remote.Transport) (options : RunOptions)
    (script : List Char) : Conclusion :=
  match settings.client with
  | .error error => .ofBreakdown (.address error)
  | .ok client =>
    let remote := Remote.runRemotely settings.executor client transport options (some script)
    match remote.run.outcome with
    | .ok result =>
      ⟨exitCodeOf result.success, .result result, remote.sent, remote.run.log, []⟩
    | .error error => ⟨1, .lines [error.message], remote.sent, remote.run.log, []⟩

/-- Carries out an activity on a script. -/
def perform (surroundings : Surroundings) (activity : Activity) (script : List Char) :
    Conclusion :=
  let environment := surroundings.environment
  let withPipeline (act : Settings.Pipeline → Conclusion) : Conclusion :=
    match Settings.Pipeline.load (.ofEnvironment environment) with
    | .ok settings => act settings
    | .error error => .ofSettingsError environment error
  match activity with
  | .validate => withPipeline fun settings => validateScript settings script
  | .screen => withPipeline fun settings => screenScript settings script
  | .run options =>
    match Settings.load environment with
    | .ok settings => runScript settings surroundings.transport options script
    | .error error => .ofSettingsError environment error

/-- Carries out a task. -/
def performTask (surroundings : Surroundings) (task : Task) : Conclusion :=
  match surroundings.readScript task.path with
  | some text => perform surroundings task.activity (Text.unifyLineEnds text)
  | none => .ofInterruption (.usage (.unreadable task.path))

/-- The threshold for a session: that of a given word, or else that of the settings. An empty word
counts as none. Without a threshold the session ends. -/
def chooseThreshold (environment : Settings.Environment) (word : Option Argument) :
    Except Conclusion Threshold :=
  let given := word.getD []
  if given.isEmpty then
    match Settings.Pipeline.load (.ofEnvironment environment) with
    | .ok settings => .ok (.ofWord settings.level.text.toList)
    | .error error => .error (.ofSettingsError environment error)
  else if Threshold.namesLayout given then .error (.ofBreakdown .threshold)
  else .ok (.ofWord given)

def run (surroundings : Surroundings) (arguments : List Argument) : Session :=
  match Opening.ofArguments arguments with
  | .error interruption => (Conclusion.ofInterruption interruption).session .notSet
  | .ok opening =>
    match chooseThreshold surroundings.environment opening.level with
    | .error conclusion => conclusion.session .notSet
    | .ok threshold =>
      match Task.ofArguments opening.command opening.arguments with
      | .error interruption => (Conclusion.ofInterruption interruption).session threshold
      | .ok task => (performTask surroundings task).session threshold

end ScriptGate.CommandLine
