import Mathlib.Data.List.DropRight
import ScriptGate.Proofs.Text.Classes

/-! # Trimmed texts

A text is trimmed by dropping characters of one class from its start and characters of another class
from its end. It is put together again from what was dropped and what was kept
(`exists_eq_lead_append_trimmed`), and what was kept is found in every text that has only such
characters around it (`trimmed_between`). -/

namespace ScriptGate.Text

variable {front back : Char → Bool} {lead core trail : List Char}

/-- What was dropped from a text stands around what was kept. -/
theorem exists_eq_lead_append_trimmed (front back : Char → Bool) (text : List Char) :
    ∃ trail, text = text.takeWhile front ++ (dropEndWhile back (text.dropWhile front) ++ trail) ∧
      ∀ char ∈ trail, back char = true := by
  refine ⟨(text.dropWhile front).rtakeWhile back, ?_, fun _ => List.mem_rtakeWhile_imp⟩
  have ends : dropEndWhile back (text.dropWhile front) ++ (text.dropWhile front).rtakeWhile back =
      text.dropWhile front := List.rdropWhile_append_rtakeWhile
  rw [ends]
  exact List.takeWhile_append_dropWhile.symm

/-- A text that neither starts nor ends with characters that are dropped is found between such
characters. -/
theorem trimmed_between (leads : ∀ char ∈ lead, front char = true)
    (trails : ∀ char ∈ trail, back char = true) (starts : ∀ char ∈ core.head?, front char = false)
    (ends : ∀ char ∈ core.getLast?, back char = false) :
    dropEndWhile back ((lead ++ (core ++ trail)).dropWhile front) = core := by
  rw [List.dropWhile_append_of_pos leads]
  cases core with
  | nil =>
      have rest : ∀ char ∈ trail.dropWhile front, back char = true := fun char member =>
        trails char ((List.dropWhile_suffix front).subset member)
      exact List.rdropWhile_eq_nil_iff.mpr rest
  | cons first core =>
      have kept : (first :: core ++ trail).dropWhile front = first :: core ++ trail := by
        apply List.dropWhile_cons_of_neg
        rw [starts first rfl]
        exact Bool.false_ne_true
      have stays : ∀ filled : first :: core ≠ [], ¬ back ((first :: core).getLast filled) := by
        intro filled
        rw [ends _ (List.getLast?_eq_some_getLast filled)]
        exact Bool.false_ne_true
      calc dropEndWhile back ((first :: core ++ trail).dropWhile front)
          = ((trail.reverse ++ (first :: core).reverse).dropWhile back).reverse := by
            rw [kept, dropEndWhile, List.reverse_append]
        _ = (first :: core).rdropWhile back := by
            rw [List.dropWhile_append_of_pos fun char member =>
              trails char (List.mem_reverse.mp member)]
            rfl
        _ = first :: core := List.rdropWhile_eq_self_iff.mpr stays

end ScriptGate.Text
