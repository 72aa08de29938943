/-! # Occurrences

A scan looks at the start of a text and either finds something, with the text after it, or
nothing. Its occurrences in a text are found from left to right, and the next one starts after the
end of the one before. -/

namespace ScriptGate.Scan

/-- Something found in a text, with the offsets at which it starts and ends. -/
structure Occurrence (α : Type) where
  value : α
  /-- The number of characters before it. -/
  start : Nat
  /-- The number of characters before its end. -/
  stop : Nat
deriving DecidableEq, Repr

/-- The occurrences in the text from an offset on, of which some characters belong to the occurrence
before. -/
def occurrencesFrom {α : Type} (scan : List Char → Option (α × List Char)) :
    (offset taken : Nat) → List Char → List (Occurrence α)
  | _, _, [] => []
  | offset, taken + 1, _ :: text => occurrencesFrom scan (offset + 1) taken text
  | offset, 0, char :: text =>
    match scan (char :: text) with
    | some (value, rest) =>
      let length := text.length + 1 - rest.length
      ⟨value, offset, offset + length⟩ :: occurrencesFrom scan (offset + 1) (length - 1) text
    | none => occurrencesFrom scan (offset + 1) 0 text

/-- The occurrences in a text, in order. -/
def occurrences {α : Type} (scan : List Char → Option (α × List Char)) (text : List Char) :
    List (Occurrence α) :=
  occurrencesFrom scan 0 0 text

/-- Whether a test holds at some place of a text. -/
def holdsSomewhere (test : List Char → Bool) : List Char → Bool
  | [] => test []
  | char :: text => test (char :: text) || holdsSomewhere test text

end ScriptGate.Scan
