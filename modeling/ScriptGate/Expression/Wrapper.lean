import ScriptGate.Expression.Shape

/-! # The test-mode wrapper

In test mode a script is embedded, unchanged, as an expression of a wrapper that caps the number of
records it returns. When the expression yields an array or a stream, the wrapper returns an envelope
instead: an object that is tagged, tells whether and from how many records it was cut, and holds the
records that were kept. -/

namespace ScriptGate.Expression

/-- The member that marks an envelope. -/
def testModeTag : String := "__testMode"

/-- The member that tells whether records were cut. -/
def truncatedTag : String := "__truncated"

/-- The member that counts the records before the cut. -/
def originalCountTag : String := "__originalCount"

/-- The member that holds the records. -/
def dataTag : String := "data"

/-- The wrapper before the embedded expression. -/
def wrapperHead (cap : Int) : String :=
  s!"(function() \x7b
  var __testModeMaxResults = {cap};
  var result = (
"

/-- The wrapper after the embedded expression. -/
def wrapperTail : String :=
  s!"
  );
  var array = null;
  if (result && typeof result.toArray === 'function') \x7b
    array = result.toArray();
  \x7d else if (Array.isArray(result)) \x7b
    array = result;
  \x7d
  if (array === null) \x7b
    return result;
  \x7d
  return \x7b
    {testModeTag}: true,
    {truncatedTag}: array.length > __testModeMaxResults,
    {originalCountTag}: array.length,
    {dataTag}: array.slice(0, __testModeMaxResults)
  \x7d;
\x7d)();"

/-- Why a script cannot be wrapped. -/
inductive WrapError where
  | capNotPositive (cap : Int)
  /-- The script is not a single expression. -/
  | notExpression (refusal : Refusal)
deriving DecidableEq, Repr

/-- The message for a script that test mode cannot run. -/
def unsupportedMessage (reason : String) : String :=
  s!"Test mode requires a single-expression script: {reason}"

def WrapError.message : WrapError → String
  | .capNotPositive cap => s!"max_results must be at least 1, got {cap}"
  | .notExpression refusal => unsupportedMessage refusal.message

def embed (cap : Int) (body : List Char) : List Char :=
  (wrapperHead cap).toList ++ body ++ wrapperTail.toList

/-- The wrapped script, for a positive cap and a single expression. -/
def wrap (script : List Char) (cap : Int) : Except WrapError (List Char) :=
  if cap < 1 then .error (.capNotPositive cap)
  else
    match refusal? script with
    | some refusal => .error (.notExpression refusal)
    | none => .ok (embed cap (body script))

end ScriptGate.Expression
