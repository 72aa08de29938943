import ScriptGate.Log

/-! # Thresholds of the log

The log shows the records at or above a threshold. A threshold is named by a word in any case; an
unknown word stands for warnings. -/

namespace ScriptGate.CommandLine

/-- The least level that the log shows. -/
inductive Threshold where
  /-- None is set, and everything is shown. -/
  | notSet
  | debug
  /-- Everything from the course of events on. -/
  | info
  | warning
  | error
  /-- Nothing that the library reports. -/
  | critical
deriving DecidableEq, Repr

namespace Threshold

def name : Threshold → String
  | .notSet => "NOTSET"
  | .debug => "DEBUG"
  | .info => "INFO"
  | .warning => "WARNING"
  | .error => "ERROR"
  | .critical => "CRITICAL"

/-- The words for thresholds in upper case. -/
def words : List (String × Threshold) :=
  [("NOTSET", .notSet), ("DEBUG", .debug), ("INFO", .info), ("WARN", .warning),
   ("WARNING", .warning), ("ERROR", .error), ("CRITICAL", .critical), ("FATAL", .critical)]

/-- The ASCII upper-case counterpart of a character, which the dotless i and the long s have as
well; any other character is left as it is. -/
def upperLetter (char : Char) : Char :=
  if char.toNat = 0x131 then 'I' else if char.toNat = 0x17F then 'S' else char.toUpper

/-- The upper-case form of a word. -/
def upperWord (word : List Char) : String := String.ofList (word.map upperLetter)

def ofWord (word : List Char) : Threshold := (words.lookup (upperWord word)).getD .warning

def layout : String := "%(levelname)s:%(name)s:%(message)s"

/-- Whether a word names the layout of the log, which is no threshold. -/
def namesLayout (word : List Char) : Bool := upperWord word == "BASIC_FORMAT"

/-- The place of a threshold in their order. -/
def rank : Threshold → Nat
  | .notSet => 0
  | .debug => 1
  | .info => 2
  | .warning => 3
  | .error => 4
  | .critical => 5

/-- The threshold at which records of a level are just shown. -/
def ofLevel : LogLevel → Threshold
  | .debug => .debug
  | .info => .info
  | .warning => .warning
  | .error => .error

def shows (threshold : Threshold) (record : LogRecord) : Bool :=
  decide (threshold.rank ≤ (ofLevel record.level).rank)

end Threshold

end ScriptGate.CommandLine
