import Mathlib.Data.List.Basic

namespace Oak.Data.Framing

/-! Fields of a text that can be read back from it: fields that end at a character they do not hold,
and fields with their length in front of them. -/

variable {α : Type} {stop : α} {first second later rest : List α}

theorem append_cons_inj (clean : stop ∉ first)
    (otherClean : stop ∉ second) (same : first ++ stop :: later = second ++ stop :: rest) :
    first = second ∧ later = rest := by
  rcases List.append_eq_append_iff.mp same with ⟨middle, rfl, split⟩ | ⟨middle, rfl, split⟩
  · rcases List.cons_eq_append_iff.mp split with ⟨rfl, tails⟩ | ⟨middle, rfl, -⟩
    · exact ⟨(List.append_nil _).symm, (List.tail_eq_of_cons_eq tails).symm⟩
    · simp at otherClean
  · rcases List.cons_eq_append_iff.mp split with ⟨rfl, tails⟩ | ⟨middle, rfl, -⟩
    · exact ⟨List.append_nil _, List.tail_eq_of_cons_eq tails⟩
    · simp at clean

def lengthPrefixed (digits : Nat → List α) (stop : α) (part : List α) : List α :=
  digits part.length ++ stop :: part

theorem lengthPrefixed_append_inj {digits : Nat → List α} (clean : ∀ number, stop ∉ digits number)
    (injective : Function.Injective digits)
    (same : lengthPrefixed digits stop first ++ later = lengthPrefixed digits stop second ++ rest) :
    first = second ∧ later = rest := by
  rw [lengthPrefixed, lengthPrefixed, List.append_assoc, List.append_assoc] at same
  obtain ⟨sameDigits, sameBody⟩ := append_cons_inj (clean _) (clean _) same
  exact List.append_inj sameBody (injective sameDigits)

end Oak.Data.Framing
