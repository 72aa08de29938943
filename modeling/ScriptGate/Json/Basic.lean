/-! # JSON values

A JSON value keeps whole numbers and floats apart, and the members of an object in the order in
which their names first appeared. -/

namespace ScriptGate

/-- A JSON value. -/
inductive Json where
  | null
  | bool (value : Bool)
  /-- A number written without fraction and exponent. -/
  | int (value : Int)
  /-- A number written with a fraction or an exponent. -/
  | float (value : Float)
  | str (value : String)
  | arr (items : List Json)
  | obj (members : List (String × Json))
deriving Inhabited

namespace Json

/-- Members with one more: a name that is already there keeps its place and takes the new value. -/
def setMember (members : List (String × Json)) (name : String) (value : Json) :
    List (String × Json) :=
  if members.any (·.1 == name) then
    members.map fun member => if member.1 == name then (name, value) else member
  else members ++ [(name, value)]

/-- The object with the given members, in which the last of several members with one name counts. -/
def ofMembers (members : List (String × Json)) : Json :=
  .obj (members.foldl (fun known member => setMember known member.1 member.2) [])

def member? (value : Json) (name : String) : Option Json :=
  match value with
  | .obj members => members.lookup name
  | _ => none

/-- The member of an object with the given name, `null` when it has none. -/
def memberOrNull (value : Json) (name : String) : Json := (value.member? name).getD .null

/-- Whether a value is none of `null`, `false`, zero, and the empty string, array and object. -/
def truthy : Json → Bool
  | .null => false
  | .bool value => value
  | .int value => value != 0
  | .float value => value != 0
  | .str value => !value.isEmpty
  | .arr items => !items.isEmpty
  | .obj members => !members.isEmpty

/-- The first value, or the second when the first is not truthy. -/
def orElse (first second : Json) : Json := if first.truthy then first else second

/-- Whether a value is `null`. -/
def isNull : Json → Bool
  | .null => true
  | _ => false

/-- The members whose value is not `null`. -/
def withoutNulls (members : List (String × Json)) : List (String × Json) :=
  members.filter (!·.2.isNull)

/-- The value of an option, `null` for nothing. -/
def ofOption {α : Type} (encode : α → Json) : Option α → Json
  | some value => encode value
  | none => .null

def ofStrings (texts : List String) : Json := .arr (texts.map .str)

end Json

end ScriptGate
