import CloudOrchestration.Proofs.Json.Grammar
/-!
# The reader keeps to the grammar

What a reader takes off the front of a text is a text of the grammar, for what
it reads (`Json.Takes`). The proofs follow the readers; a value is put together
from the texts of its parts, with the blanks that are skipped on the way. So a
text that is read denotes its value (`denotes_of_parseWithin`).
-/

namespace CloudOrchestration

namespace Json

/-! ## What is taken off the front -/

/-- **A reader takes off the front** a text of what it reads. Which texts those are is
left open. -/
def Takes {α : Type} (item : Reader α) (IsText : List Char → α → Prop) : Prop :=
  ∀ ⦃cs a rest⦄, item cs = some (a, rest) → ∃ t, cs = t ++ rest ∧ IsText t a

/-! ## Numerals -/

namespace Numeral

theorem takes_readDigits : Takes readDigits fun t ds => t = ds ∧ IsDigits ds := by
  intro cs ds rest h
  unfold readDigits at h
  split at h
  next => cases h
  next hne =>
    cases h
    exact ⟨_, List.takeWhile_append_dropWhile.symm, rfl, hne, List.all_eq_true.1 List.all_takeWhile⟩

theorem takes_readWhole :
    Takes readWhole fun t ds => t = ds ∧ IsDigits ds ∧ ∀ d ds', ds ≠ '0' :: d :: ds' := by
  intro cs ds rest h
  unfold readWhole at h
  obtain ⟨⟨ds', rest'⟩, hread, h⟩ := Option.bind_eq_some_iff.1 h
  obtain ⟨t, hcs, ht, hdigits⟩ := takes_readDigits hread
  dsimp only at h
  split at h
  next => cases h
  next hzero =>
    cases h
    exact ⟨t, hcs, ht, hdigits, hzero⟩

theorem takes_readFraction : Takes readFraction FractionText := by
  intro cs ds rest h
  unfold readFraction at h
  split at h
  next =>
    obtain ⟨t, rfl, rfl, hds⟩ := takes_readDigits h
    exact ⟨_, rfl, .point hds⟩
  next =>
    cases h
    exact ⟨[], rfl, .absent⟩

theorem takes_readExponent : Takes readExponent ExponentText := by
  intro cs exponent rest h
  unfold readExponent at h
  split at h
  next e cs' =>
    split at h
    next he =>
      obtain ⟨⟨ds, rest'⟩, hread, h⟩ := Option.map_eq_some_iff.1 h
      cases h
      split at hread
      next =>
        obtain ⟨t, rfl, rfl, hds⟩ := takes_readDigits hread
        exact ⟨_, rfl, .minus he hds⟩
      next =>
        obtain ⟨t, rfl, rfl, hds⟩ := takes_readDigits hread
        exact ⟨_, rfl, .plus he hds⟩
      next =>
        obtain ⟨t, rfl, rfl, hds⟩ := takes_readDigits hread
        exact ⟨_, rfl, .bare he hds⟩
    next =>
      cases h
      exact ⟨[], rfl, .absent⟩
  next =>
    cases h
    exact ⟨[], rfl, .absent⟩

/-- **A numeral is taken with its sign, fraction and exponent.** -/
theorem takes_read : Takes read NumeralText := by
  intro cs n rest h
  unfold read at h
  split at h
  next negative cs' heq =>
  -- the sign comes first
  have hsign : cs = (if negative then ['-'] else []) ++ cs' := by
    split at heq <;> cases heq <;> rfl
  obtain ⟨⟨whole, cs₁⟩, hread, h⟩ := Option.bind_eq_some_iff.1 h
  obtain ⟨⟨fraction, cs₂⟩, hread', h⟩ := Option.bind_eq_some_iff.1 h
  obtain ⟨⟨exponent, cs₃⟩, hread'', h⟩ := Option.bind_eq_some_iff.1 h
  cases h
  obtain ⟨_, rfl, rfl, hwhole, hzero⟩ := takes_readWhole hread
  obtain ⟨t, rfl, hfraction⟩ := takes_readFraction hread'
  obtain ⟨t', rfl, hexponent⟩ := takes_readExponent hread''
  exact ⟨_, by simp only [hsign, List.append_assoc], .parts hwhole hzero hfraction hexponent⟩

end Numeral

/-! ## Strings -/

/-- The text of a string that goes on with the low half of a pair. -/
inductive LowText (u : Nat) : List Char → List Char → Prop where
  | low {a b c d : Char} {l : Nat} {t s : List Char} (hl : codeUnit? a b c d = some l)
      (hlow : isLowSurrogate l = true) (h : StringText t s) :
      LowText u ('\\' :: 'u' :: a :: b :: c :: d :: t) (Json.pair u l :: s)

/-- The text of a string after what has been read of a pair. -/
def RestText : Option Nat → List Char → List Char → Prop
  | none => StringText
  | some u => LowText u

/-- **A string is taken up to its closing quote.** -/
theorem takes_readString (high : Option Nat) : Takes (readString high) (RestText high) := by
  intro cs s rest h
  fun_induction readString high cs generalizing s rest with
  | case4 a b c d cs l u hl hlow ih =>
    obtain ⟨⟨s, rest⟩, hread, ⟨⟩⟩ := Option.map_eq_some_iff.1 h
    obtain ⟨t, rfl, ht⟩ := ih hread
    exact ⟨_, rfl, LowText.low hl hlow ht⟩
  | case6 a b c d cs u hu hhigh ih =>
    -- the pair is complete with the low half that comes next
    obtain ⟨t, rfl, ht⟩ := ih h
    obtain ⟨hl, hlow, ht⟩ := ht
    exact ⟨_, rfl, StringText.pair hu hhigh hl hlow ht⟩
  | case8 a b c d cs u hu hhigh hlow ih =>
    obtain ⟨⟨s, rest⟩, hread, ⟨⟩⟩ := Option.map_eq_some_iff.1 h
    obtain ⟨t, rfl, ht⟩ := ih hread
    exact ⟨_, rfl, StringText.number hu (Bool.eq_false_iff.2 hhigh) (Bool.eq_false_iff.2 hlow) ht⟩
  | case10 e cs hu c hc ih =>
    obtain ⟨⟨s, rest⟩, hread, ⟨⟩⟩ := Option.map_eq_some_iff.1 h
    obtain ⟨t, rfl, ht⟩ := ih hread
    exact ⟨_, rfl, StringText.letter hc ht⟩
  | case13 high cs hhigh =>
    cases h
    cases Option.not_isSome_iff_eq_none.1 hhigh
    exact ⟨['"'], rfl, StringText.close⟩
  | case15 high c cs hslash hhigh hquote hcontrol ih =>
    cases Option.not_isSome_iff_eq_none.1 hhigh
    obtain ⟨⟨s, rest⟩, hread, ⟨⟩⟩ := Option.map_eq_some_iff.1 h
    obtain ⟨t, rfl, ht⟩ := ih hread
    exact ⟨_, rfl, StringText.plain hquote hslash (Nat.not_lt.1 hcontrol) ht⟩
  | _ => cases h

/-! ## Lists -/

section Lists

variable {α : Type} {item : Reader α} {IsText : List Char → α → Prop} {close : Char}

/-- **Items are taken up to the closing bracket**, if the blanks after an item may be
added to its text. -/
theorem takes_readItems (hitem : Takes item IsText)
    (hgap : ∀ ⦃t a gap⦄, IsText t a → Blank gap → IsText (t ++ gap) a) (width : Nat) :
    Takes (readItems item close width) fun t items => ∃ part parts,
      (∀ p ∈ part :: parts, IsText p.1 p.2) ∧ items = (part :: parts).map Prod.snd ∧
        t = commas ((part :: parts).map Prod.fst) ++ [close] := by
  induction width with
  | zero => exact fun _ _ _ h => nomatch h
  | succ width ih =>
    intro cs items rest h
    obtain ⟨⟨a, cs'⟩, ha, hmore⟩ := Option.bind_eq_some_iff.1 h
    obtain ⟨t, rfl, ht⟩ := hitem ha
    -- the blanks after an item belong to it
    obtain ⟨gap, hblank, hcs'⟩ := exists_blank_append cs'
    have htext : IsText (t ++ gap) a := hgap ht hblank
    dsimp only at hmore
    split at hmore
    next => cases hmore
    next c cs'' hskip =>
      rw [hskip] at hcs'
      subst hcs'
      split at hmore
      next hclose =>
        cases hmore
        subst hclose
        exact ⟨t ++ gap ++ [c], by simp, (t ++ gap, a), [], by simpa using htext, rfl,
          by simp [commas]⟩
      next =>
        split at hmore
        next hcomma =>
          obtain ⟨⟨items', rest'⟩, hread, ⟨⟩⟩ := Option.bind_eq_some_iff.1 hmore
          subst hcomma
          obtain ⟨t', rfl, part, parts, htext', rfl, rfl⟩ := ih hread
          exact ⟨t ++ gap ++ ',' :: (commas ((part :: parts).map Prod.fst) ++ [close]), by simp,
            (t ++ gap, a), part :: parts, List.forall_mem_cons.2 ⟨htext, htext'⟩, rfl,
            by simp [commas_cons_cons]⟩
        next => cases hmore

theorem takes_readList (hitem : Takes item IsText)
    (hgap : ∀ ⦃t a gap⦄, IsText t a → Blank gap → IsText (t ++ gap) a) :
    Takes (readList item close) fun t items => ∃ (gap : List Char) (parts : List (List Char × α)),
      Blank gap ∧ (∀ p ∈ parts, IsText p.1 p.2) ∧ items = parts.map Prod.snd ∧
        t = gap ++ commas (parts.map Prod.fst) ++ [close] := by
  intro cs items rest h
  unfold readList at h
  split at h
  next => cases h
  next c cs' hskip =>
    split at h
    next hclose =>
      cases h
      subst hclose
      obtain ⟨gap, hblank, hcs⟩ := exists_blank_append cs
      exact ⟨gap ++ [c], by rw [hcs, hskip]; simp, gap, [], hblank, by simp, rfl, by simp [commas]⟩
    next =>
      obtain ⟨t, rfl, part, parts, htext, rfl, rfl⟩ := takes_readItems hitem hgap _ h
      exact ⟨_, rfl, [], part :: parts, blank_nil, htext, rfl, rfl⟩

end Lists

/-! ## Values -/

theorem takes_readMember {value : Reader Json} {depth : Nat}
    (hvalue : Takes value (Denotes depth)) : Takes (readMember value) (MemberText depth) := by
  intro cs m rest h
  obtain ⟨before, hbefore, hcs⟩ := exists_blank_append cs
  unfold readMember at h
  split at h
  next cs₁ hskip =>
    obtain ⟨⟨key, cs₂⟩, hkey, hmore⟩ := Option.bind_eq_some_iff.1 h
    obtain ⟨t, rfl, ht⟩ := takes_readString none hkey
    obtain ⟨after, hafter, hcs₂⟩ := exists_blank_append cs₂
    dsimp only at hmore
    split at hmore
    next cs₃ hskip' =>
      obtain ⟨⟨v, cs₄⟩, hv, ⟨⟩⟩ := Option.bind_eq_some_iff.1 hmore
      obtain ⟨t', rfl, ht'⟩ := hvalue hv
      exact ⟨_, by rw [hcs, hskip, hcs₂, hskip']; simp, .colon (.quoted hbefore ht hafter) ht'⟩
    next => cases hmore
  next => cases h

theorem takes_readWord {depth : Nat} {word : String} {v : Json}
    (hv : Denotes depth word.toList v) : Takes (readWord word v) (Denotes depth) := by
  intro cs v' rest h
  unfold readWord at h
  split at h
  next hfront =>
    cases h
    obtain ⟨rest, rfl⟩ : word.toList <+: cs := by simpa using hfront
    exact ⟨word.toList, by simp [← String.length_toList], hv⟩
  next => cases h

theorem takes_readScalar (depth : Nat) : Takes readScalar (Denotes depth) := by
  intro cs v rest h
  unfold readScalar at h
  split at h
  next =>
    obtain ⟨⟨s, rest'⟩, hread, ⟨⟩⟩ := Option.map_eq_some_iff.1 h
    obtain ⟨t, rfl, ht⟩ := takes_readString none hread
    exact ⟨_, rfl, .str ht⟩
  next => exact takes_readWord (by simpa using .null) h
  next => exact takes_readWord (by simpa using .bool_true) h
  next => exact takes_readWord (by simpa using .bool_false) h
  next =>
    obtain ⟨⟨n, rest'⟩, hread, h⟩ := Option.bind_eq_some_iff.1 h
    obtain ⟨v', hv, h⟩ := Option.bind_eq_some_iff.1 h
    cases h
    obtain ⟨t, hcs, ht⟩ := Numeral.takes_read hread
    exact ⟨t, hcs, .number ht hv⟩

/-- **What is read denotes what it is read as.** -/
theorem takes_readValue (depth : Nat) : Takes (readValue depth) (Denotes depth) := by
  induction depth with
  | zero =>
    intro cs v rest h
    obtain ⟨gap, hgap, hcs⟩ := exists_blank_append cs
    obtain ⟨t, ht, hdenotes⟩ := takes_readScalar 0 h
    exact ⟨gap ++ t, by rw [hcs, ht, List.append_assoc], hdenotes.after_gap hgap⟩
  | succ depth ih =>
    intro cs v rest h
    obtain ⟨gap, hgap, hcs⟩ := exists_blank_append cs
    -- the blanks in front are the value's
    suffices hskipped : ∃ t, skipBlank cs = t ++ rest ∧ Denotes (depth + 1) t v by
      obtain ⟨t, ht, hdenotes⟩ := hskipped
      exact ⟨gap ++ t, by rw [hcs, ht, List.append_assoc], hdenotes.after_gap hgap⟩
    unfold readValue at h
    split at h
    next cs' hskip =>
      obtain ⟨⟨items, rest'⟩, hread, ⟨⟩⟩ := Option.map_eq_some_iff.1 h
      obtain ⟨t, rfl, gap', parts, hgap', hparts, rfl, rfl⟩ :=
        takes_readList ih (fun _ _ _ ht hgap => ht.before_gap hgap) hread
      exact ⟨_, by rw [hskip]; rfl, .arr hgap' hparts⟩
    next cs' hskip =>
      obtain ⟨⟨entries, rest'⟩, hread, ⟨⟩⟩ := Option.map_eq_some_iff.1 h
      obtain ⟨t, rfl, gap', parts, hgap', hparts, rfl, rfl⟩ :=
        takes_readList (takes_readMember ih) (fun _ _ _ ht hgap => ht.before_gap hgap) hread
      exact ⟨_, by rw [hskip]; rfl,
        .obj hgap' hparts (Members.sorted_ofList _) (Members.find?_ofList _)⟩
    next => exact takes_readScalar _ h

/-- **A text that is read denotes its value.** -/
theorem denotes_of_parseWithin {depth : Nat} {cs : List Char} {v : Json}
    (h : parseWithin depth cs = some v) : Denotes depth cs v := by
  obtain ⟨⟨v', rest⟩, hread, hmore⟩ := Option.bind_eq_some_iff.1 h
  obtain ⟨t, rfl, ht⟩ := takes_readValue depth hread
  obtain ⟨gap, hgap, hrest⟩ := exists_blank_append rest
  dsimp only at hmore
  split at hmore
  next hempty =>
    cases hmore
    rw [List.isEmpty_iff.1 hempty, List.append_nil] at hrest
    exact hrest ▸ ht.before_gap hgap
  next => cases hmore

end Json

end CloudOrchestration
