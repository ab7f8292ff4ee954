import CloudOrchestration.Proofs.Json.Grammar
/-!
# Strings between quotes

What is written for a character between quotes stands for that character in
the grammar, so what is written for a string is a text of it, whatever is in
it.
-/

namespace CloudOrchestration

namespace Json

/-- The characters that are escaped by number are read back. -/
theorem exists_hexDigits {n : Nat} (h : n < 0x20) :
    ∃ a b c d, hexDigits n = [a, b, c, d] ∧ codeUnit? a b c d = some n := by
  -- there are 32 of them
  have hall : ∀ n < 0x20,
      hexDigits n = ['0', '0', Nat.digitChar (n / 16), Nat.digitChar (n % 16)] ∧
        codeUnit? '0' '0' (Nat.digitChar (n / 16)) (Nat.digitChar (n % 16)) = some n := by decide
  exact ⟨_, _, _, _, hall n h⟩

/-- A letter that stands for a character is read as it. -/
theorem unescape?_of_shortEscape? {c letter : Char} (h : shortEscape? c = some letter) :
    unescape? letter = some c := by
  unfold shortEscape? at h
  split at h <;> cases h <;> rfl

/-- A number below the printing characters is no half of a pair. -/
theorem not_surrogate_of_lt {n : Nat} (h : n < 0x20) :
    isHighSurrogate n = false ∧ isLowSurrogate n = false := by
  simp only [isHighSurrogate, isLowSurrogate, Bool.and_eq_false_iff, decide_eq_false_iff_not]
  omega

/-- **What is written for a character stands for it.** -/
theorem stringText_escapeChar (c : Char) {t s : List Char} (h : StringText t s) :
    StringText (escapeChar c ++ t) (c :: s) := by
  unfold escapeChar
  split
  next letter hletter => exact .letter (unescape?_of_shortEscape? hletter) h
  next hnone =>
    split
    next hlow =>
      obtain ⟨a, b, d, e, hdigits, hunit⟩ := exists_hexDigits hlow
      obtain ⟨hhigh, hlow⟩ := not_surrogate_of_lt hlow
      rw [hdigits]
      simpa using StringText.number hunit hhigh hlow h
    next hhigh =>
      -- both have a letter of their own
      have hslash : c ≠ '\\' := by rintro rfl; cases hnone
      have hquote : c ≠ '"' := by rintro rfl; cases hnone
      exact .plain hquote hslash (Nat.not_lt.1 hhigh) h

/-- **What is written for a string is a text of it**, up to the closing quote. -/
theorem stringText_escaped (s : List Char) : StringText (s.flatMap escapeChar ++ ['"']) s := by
  induction s with
  | nil => exact .close
  | cons c s ih =>
    rw [List.flatMap_cons, List.append_assoc]
    exact stringText_escapeChar c ih

end Json

end CloudOrchestration
