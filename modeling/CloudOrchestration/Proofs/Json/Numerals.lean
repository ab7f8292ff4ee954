import CloudOrchestration.Proofs.Json.Grammar
/-!
# Integers as numerals

The decimal text of an integer is a numeral without fraction and exponent,
and it denotes that integer if it lies in the range of the 64-bit words. A
numeral denotes no integer beyond them.
-/

namespace CloudOrchestration

-- powers are those of the core library, whatever other instances are in scope
attribute [local instance (high)] instPowNat

namespace Json

/-- An integer of the signed or the unsigned 64-bit words. -/
def IsWord (n : Int) : Prop := -2 ^ (63 : Nat) ≤ n ∧ n < 2 ^ (64 : Nat)

namespace Numeral

/-! ## Digits -/

theorem head?_toDigits {n : Nat} (h : 0 < n) : (Nat.toDigits 10 n).head? ≠ some '0' := by
  induction n using Nat.strongRecOn with
  | ind n ih =>
    rw [Nat.toDigits_eq_if (by decide)]
    split
    · simp
      omega
    · -- the digits in front are those of the tenth
      have hfront := ih (n / 10) (by omega) (by omega)
      cases hds : Nat.toDigits 10 (n / 10) with
      | nil => exact absurd hds Nat.toDigits_ne_nil
      | cons d ds => simpa [hds] using hfront

/-- No digit comes after a zero in front. -/
theorem toDigits_ne_zero_cons {n : Nat} {d : Char} {ds : List Char} :
    Nat.toDigits 10 n ≠ '0' :: d :: ds := by
  intro h
  rcases Nat.eq_zero_or_pos n with rfl | hn
  · simp at h
  · exact head?_toDigits hn (by rw [h]; rfl)

theorem isDigits_toDigits (n : Nat) : IsDigits (Nat.toDigits 10 n) :=
  ⟨Nat.toDigits_ne_nil, fun _ hd => Nat.isDigit_of_mem_toDigits (by decide) (by decide) hd⟩

/-- **An integer is one numeral**, of a sign and its digits. -/
theorem numeralText_printInt (n : Int) :
    NumeralText (printInt n) ⟨decide (n < 0), Nat.toDigits 10 n.natAbs, [], none⟩ := by
  have hparts := @NumeralText.parts ⟨decide (n < 0), Nat.toDigits 10 n.natAbs, [], none⟩ [] []
    (isDigits_toDigits _) (fun _ _ => toDigits_ne_zero_cons) .absent .absent
  simpa [printInt] using hparts

/-! ## The number -/

theorem le_ofDigitChars (ds : List Char) (s : Nat) : s ≤ Nat.ofDigitChars 10 ds s := by
  rw [Nat.ofDigitChars_eq_ofDigitChars_zero]
  exact Nat.le_trans (Nat.le_mul_of_pos_left s (Nat.pow_pos (by decide))) (Nat.le_add_right ..)

/-- Digits of a number that fits are taken in to the last. -/
theorem absorb_eq {ds : List Char} {s : Nat} (h : Nat.ofDigitChars 10 ds s < significandBound) :
    absorb s ds = (Nat.ofDigitChars 10 ds s, []) := by
  induction ds generalizing s with
  | nil => rfl
  | cons d ds ih =>
    rw [Nat.ofDigitChars_cons] at h ⊢
    have hnext := Nat.lt_of_le_of_lt (le_ofDigitChars ds _) h
    rw [absorb, if_pos hnext, ih h]

theorem value?_printInt {n : Int} (hn : IsWord n) :
    value? ⟨decide (n < 0), Nat.toDigits 10 n.natAbs, [], none⟩ = some (.int n) := by
  obtain ⟨hlow, hhigh⟩ := hn
  -- a word is below the bound, so no digit is dropped
  have habsorb : absorb 0 (Nat.toDigits 10 n.natAbs) = (n.natAbs, []) := by
    rw [absorb_eq, Nat.ofDigitChars_ten_toDigits]
    rw [Nat.ofDigitChars_ten_toDigits, significandBound]
    omega
  simp only [value?, habsorb, List.isEmpty_nil, Option.isNone_none, and_self, if_true]
  by_cases hneg : n < 0
  · have hrange : 0 < n.natAbs ∧ n.natAbs ≤ 2 ^ (63 : Nat) := by omega
    have habs : -(n.natAbs : Int) = n := by omega
    simp only [hneg, decide_true, Bool.not_true, Bool.false_eq_true, if_false, hrange, and_self,
      if_true, habs]
  · have habs : (n.natAbs : Int) = n := by omega
    simp only [hneg, decide_false, Bool.not_false, if_true, habs]

theorem absorb_lt {ds : List Char} {s : Nat} (h : s < significandBound) :
    (absorb s ds).1 < significandBound := by
  induction ds generalizing s with
  | nil => exact h
  | cons d ds ih =>
    unfold absorb
    dsimp only
    split
    next hnext => exact ih hnext
    next => exact h

/-- **A numeral denotes a word or a fraction.** -/
theorem word_or_float_of_value? {m : Numeral} {v : Json} (h : m.value? = some v) :
    (∃ n, IsWord n ∧ v = .int n) ∨ ∃ x, v = .float x := by
  have hbound : (absorb 0 m.whole).1 < 2 ^ (64 : Nat) := absorb_lt (by decide)
  unfold value? at h
  dsimp only at h
  split at h
  next =>
    split at h
    next =>
      cases h
      exact .inl ⟨_, ⟨by omega, by omega⟩, rfl⟩
    next =>
      split at h
      next hrange =>
        cases h
        exact .inl ⟨_, ⟨by omega, by omega⟩, rfl⟩
      next =>
        obtain ⟨x, -, h⟩ := Option.bind_eq_some_iff.1 h
        exact .inr ⟨_, (Option.some.inj h).symm⟩
  next =>
    obtain ⟨x, -, h⟩ := Option.bind_eq_some_iff.1 h
    exact .inr ⟨_, (Option.some.inj h).symm⟩

end Numeral

end Json

end CloudOrchestration
