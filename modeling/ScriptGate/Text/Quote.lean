/-! # Quotes

The characters that open and close string literals. -/

namespace ScriptGate.Text

/-- Whether a character is a single, a double or a back quote. -/
def isQuote (char : Char) : Bool := char = '\x27' || char = '\x22' || char = '\x60'

end ScriptGate.Text
