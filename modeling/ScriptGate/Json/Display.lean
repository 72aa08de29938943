import ScriptGate.Json.Basic
import ScriptGate.Number.Shortest
import ScriptGate.Text.Display

/-! # Showing JSON values in messages

In a message a string stands as it is, truth values and `null` are capitalised words, and the
strings inside arrays and objects are quoted. -/

namespace ScriptGate.Json

mutual

/-- A value inside a shown array or object. -/
def displayNested : Json → String
  | .null => "None"
  | .bool true => "True"
  | .bool false => "False"
  | .int value => toString value
  | .float value => Number.floatText value
  | .str value => Text.displayQuoted value
  | .arr items => "[" ++ ", ".intercalate (displayItems items) ++ "]"
  | .obj members => "\x7b" ++ ", ".intercalate (displayMembers members) ++ "\x7d"

/-- The items of a shown array. -/
def displayItems : List Json → List String
  | [] => []
  | item :: items => displayNested item :: displayItems items

/-- The members of a shown object. -/
def displayMembers : List (String × Json) → List String
  | [] => []
  | (name, value) :: members =>
    (Text.displayQuoted name ++ ": " ++ displayNested value) :: displayMembers members

end

/-- A value in a message. -/
def display : Json → String
  | .str value => value
  | value => displayNested value

end ScriptGate.Json
