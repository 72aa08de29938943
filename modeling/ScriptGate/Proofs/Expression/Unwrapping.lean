import ScriptGate.Proofs.Expression.Containment

/-! # Reading a wrapped script back

The wrapper's own text stands at the start and the end of a wrapped text, and around the cap. The
cap is written in digits and no digit follows it, so it can be read off; what is left between its
line and the closing is the embedded text, whatever it says (`unwrap?_embed`). So the wrapped text
tells the cap and the body of the script (`unwrap?_wrap`). -/

namespace ScriptGate

/-- The text before an expected end; nothing when it ends otherwise. -/
def Text.dropEnd? (ending text : List Char) : Option (List Char) :=
  (dropStart? ending.reverse text.reverse).map List.reverse

theorem Text.dropStart?_append (start rest : List Char) :
    dropStart? start (start ++ rest) = some rest :=
  dropStart?_eq_some_iff.mpr rfl

theorem Text.dropEnd?_append (ending rest : List Char) :
    dropEnd? ending (rest ++ ending) = some rest := by
  rw [dropEnd?, List.reverse_append, dropStart?_append, Option.map_some, List.reverse_reverse]

namespace Expression

/-- The cap and the embedded text of a wrapped text. -/
def unwrap? (wrapped : List Char) : Option (Int × List Char) := do
  let fromCap ← Text.dropStart? beforeCap.toList wrapped
  let fromText ← Text.dropStart? afterCap.toList (fromCap.dropWhile Char.isDigit)
  let text ← Text.dropEnd? wrapperTail.toList fromText
  return (Nat.ofDigitChars 10 (fromCap.takeWhile Char.isDigit) 0, text)

/-- A positive cap is read off the digits that write it. -/
theorem ofDigitChars_toString {cap : Int} (positive : 1 ≤ cap) :
    (Nat.ofDigitChars 10 (toString cap).toList 0 : Int) = cap := by
  rw [Int.toString_eq_repr, Int.repr_eq_if, if_pos (by omega), Nat.toList_repr,
    Nat.ofDigitChars_toDigits (by decide) (by decide), Int.toNat_of_nonneg (by omega)]

/-- The digits of the cap end where the text after it begins. -/
theorem span_isDigit_cap {cap : Int} (positive : 1 ≤ cap) (text : List Char) :
    ((toString cap).toList ++ (afterCap.toList ++ text)).takeWhile Char.isDigit =
        (toString cap).toList ∧
      ((toString cap).toList ++ (afterCap.toList ++ text)).dropWhile Char.isDigit =
        afterCap.toList ++ text := by
  have digits := isDigit_of_mem_toString positive
  obtain ⟨tail, noDigit⟩ : ∃ tail, afterCap.toList = ';' :: tail := ⟨_, rfl⟩
  rw [List.takeWhile_append_of_pos digits, List.dropWhile_append_of_pos digits, noDigit,
    List.cons_append, List.takeWhile_cons_of_neg (by decide), List.append_nil,
    List.dropWhile_cons_of_neg (by decide)]
  exact ⟨rfl, rfl⟩

/-- **What is embedded can be read back**, together with the cap. -/
theorem unwrap?_embed {cap : Int} (positive : 1 ≤ cap) (text : List Char) :
    unwrap? (embed cap text) = some (cap, text) := by
  obtain ⟨digits, afterDigits⟩ := span_isDigit_cap positive (text ++ wrapperTail.toList)
  have split : embed cap text =
      beforeCap.toList ++ ((toString cap).toList ++
        (afterCap.toList ++ (text ++ wrapperTail.toList))) := by
    simp only [embed, wrapperHead_toList, List.append_assoc]
  rw [unwrap?, split, Text.dropStart?_append, Option.bind_eq_bind, Option.bind_some, afterDigits,
    Text.dropStart?_append, Option.bind_some, Text.dropEnd?_append, Option.bind_some, digits,
    ofDigitChars_toString positive]
  rfl

theorem eq_embed_of_wrap {script wrapped : List Char} {cap : Int}
    (wraps : wrap script cap = .ok wrapped) : 1 ≤ cap ∧ wrapped = embed cap (body script) := by
  unfold wrap at wraps
  split at wraps
  · cases wraps
  next positive =>
    split at wraps
    · cases wraps
    · cases wraps
      exact ⟨by omega, rfl⟩

/-- **A wrapped text tells what was wrapped.** An accepted script is wrapped for every positive cap,
and the cap and the body of the script can be read back from the wrapped text. So scripts with one
wrapped text have the same body, and were wrapped with the same cap. -/
theorem unwrap?_wrap {script : List Char} {cap : Int} (accepted : refusal? script = none)
    (positive : 1 ≤ cap) :
    ∃ wrapped, wrap script cap = .ok wrapped ∧ unwrap? wrapped = some (cap, body script) ∧
      ∀ other otherCap, wrap other otherCap = .ok wrapped →
        otherCap = cap ∧ body other = body script := by
  refine ⟨embed cap (body script), wrap_eq_ok accepted positive,
    unwrap?_embed positive (body script), ?_⟩
  intro other otherCap wraps
  obtain ⟨otherPositive, same⟩ := eq_embed_of_wrap wraps
  have readBack := congrArg unwrap? same
  rw [unwrap?_embed positive, unwrap?_embed otherPositive, Option.some.injEq,
    Prod.mk.injEq] at readBack
  exact ⟨readBack.1.symm, readBack.2.symm⟩

/-- The script repeats text of the wrapper. -/
theorem unwrap?_wrap_repeated :
    refusal? " '\x7bbody\x7d;\\n  var result = (\\n' + ')();' ;".toList = none ∧ (1 : Int) ≤ 1000 ∧
    ∃ wrapped, wrap " '\x7bbody\x7d;\\n  var result = (\\n' + ')();' ;".toList 1000 = .ok wrapped ∧
      unwrap? wrapped =
        some (1000, body " '\x7bbody\x7d;\\n  var result = (\\n' + ')();' ;".toList) ∧
      ∀ other otherCap, wrap other otherCap = .ok wrapped → otherCap = 1000 ∧
        body other = body " '\x7bbody\x7d;\\n  var result = (\\n' + ')();' ;".toList :=
  have accepted : refusal? " '\x7bbody\x7d;\\n  var result = (\\n' + ')();' ;".toList = none := by
    decide +kernel
  ⟨accepted, by decide, unwrap?_wrap accepted (by decide)⟩

end Expression
end ScriptGate
