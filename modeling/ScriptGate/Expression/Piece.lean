import ScriptGate.Text.Blank
import ScriptGate.Text.Quote

/-! # The pieces of a script

A script is cut into white space, comments, string literals and single code characters. A line
comment ends before the next line feed, a block comment at the first closer after its opener, and
a string literal at the first quote of its kind that no backslash hides. A block comment or a
string literal that does not end takes the rest of the script. -/

namespace ScriptGate.Expression

/-- A piece of a script. -/
inductive Piece where
  | blank (char : Char)
  /-- A line comment with the text after its opener. -/
  | lineComment (text : List Char)
  /-- A block comment with the text between its opener and its closer. -/
  | blockComment (text : List Char)
  /-- A block comment that does not end, with the text after its opener. -/
  | openComment (text : List Char)
  /-- A string literal with its quote and the text between the quotes. -/
  | string (quote : Char) (text : List Char)
  /-- A string literal that does not end, with its quote and the text after it. -/
  | openString (quote : Char) (text : List Char)
  | code (char : Char)
deriving DecidableEq, Repr

/-- The text up to the first closer of a block comment, and the text after the closer. -/
def splitComment? : List Char → Option (List Char × List Char)
  | [] => none
  | '*' :: '/' :: text => some ([], text)
  | char :: text => (splitComment? text).map fun (comment, rest) => (char :: comment, rest)

/-- The text up to the first quote that no backslash hides, and the text after that quote. -/
def splitString? (quote : Char) : List Char → Option (List Char × List Char)
  | [] => none
  | ['\\'] => none
  | '\\' :: hidden :: text =>
    (splitString? quote text).map fun (string, rest) => ('\\' :: hidden :: string, rest)
  | char :: text =>
    if char = quote then some ([], text)
    else (splitString? quote text).map fun (string, rest) => (char :: string, rest)

theorem length_of_splitComment? {text comment rest : List Char}
    (split : splitComment? text = some (comment, rest)) : rest.length < text.length := by
  fun_induction splitComment? text generalizing comment with
  | case1 => simp at split
  | case2 after =>
    simp only [Option.some.injEq, Prod.mk.injEq] at split
    simp only [← split.2, List.length_cons]
    omega
  | case3 char after _ ih =>
    obtain ⟨⟨inner, tail⟩, found, same⟩ := Option.map_eq_some_iff.mp split
    simp only [Prod.mk.injEq] at same
    have shorter := ih (by rw [found, same.2])
    simp only [List.length_cons]
    omega

theorem length_of_splitString? {quote : Char} {text string rest : List Char}
    (split : splitString? quote text = some (string, rest)) : rest.length < text.length := by
  fun_induction splitString? quote text generalizing string with
  | case1 => simp at split
  | case2 => simp at split
  | case3 hidden after ih =>
    obtain ⟨⟨inner, tail⟩, found, same⟩ := Option.map_eq_some_iff.mp split
    simp only [Prod.mk.injEq] at same
    have shorter := ih (by rw [found, same.2])
    simp only [List.length_cons]
    omega
  | case4 after =>
    simp only [Option.some.injEq, Prod.mk.injEq] at split
    simp [← split.2]
  | case5 char after _ _ _ ih =>
    obtain ⟨⟨inner, tail⟩, found, same⟩ := Option.map_eq_some_iff.mp split
    simp only [Prod.mk.injEq] at same
    have shorter := ih (by rw [found, same.2])
    simp only [List.length_cons]
    omega

/-- The pieces of a script, in order. -/
def pieces : List Char → List Piece
  | [] => []
  | '/' :: '/' :: text =>
    .lineComment (text.takeWhile (· ≠ '\n')) :: pieces (text.dropWhile (· ≠ '\n'))
  | '/' :: '*' :: text =>
    match found : splitComment? text with
    | some (comment, rest) =>
      have := length_of_splitComment? found
      .blockComment comment :: pieces rest
    | none => [.openComment text]
  | char :: text =>
    if Text.isBlank char then .blank char :: pieces text
    else if Text.isQuote char then
      match found : splitString? char text with
      | some (string, rest) =>
        have := length_of_splitString? found
        .string char string :: pieces rest
      | none => [.openString char text]
    else .code char :: pieces text
termination_by text => text.length
decreasing_by
  · have := (List.dropWhile_suffix (fun char => decide (char ≠ '\n')) (l := text)).length_le
    simp only [List.length_cons]
    omega
  all_goals
    simp only [List.length_cons]
    omega

def Piece.text : Piece → List Char
  | .blank char => [char]
  | .lineComment text => '/' :: '/' :: text
  | .blockComment text => '/' :: '*' :: (text ++ ['*', '/'])
  | .openComment text => '/' :: '*' :: text
  | .string quote text => quote :: (text ++ [quote])
  | .openString quote text => quote :: text
  | .code char => [char]

end ScriptGate.Expression
