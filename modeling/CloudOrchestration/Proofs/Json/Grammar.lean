import CloudOrchestration.Proofs.Json.Members
import CloudOrchestration.Json.Bytes
/-!
# What a text denotes

The grammar of JSON text, stated apart from the reader: which texts denote a
value, with arrays and objects that nest to a depth (`Json.Denotes`). An object
may give its members in any order and a key more than once; its value has them
in order and of each key the last.
-/

namespace CloudOrchestration

namespace Json

/-! ## Tokens -/

/-- Nothing but blanks. -/
def Blank (cs : List Char) : Prop := ∀ c ∈ cs, isBlank c = true

/-- Digits and nothing else, at least one. -/
def IsDigits (ds : List Char) : Prop := ds ≠ [] ∧ ∀ d ∈ ds, d.isDigit = true

theorem IsDigits.exists_cons {ds : List Char} (h : IsDigits ds) :
    ∃ d ds', ds = d :: ds' ∧ d.isDigit = true := by
  obtain ⟨hne, hdigits⟩ := h
  cases ds with
  | nil => exact absurd rfl hne
  | cons d ds' => exact ⟨d, ds', rfl, hdigits d List.mem_cons_self⟩

/-- The text of a fraction, and its digits. -/
inductive FractionText : List Char → List Char → Prop where
  | absent : FractionText [] []
  | point {ds : List Char} (hds : IsDigits ds) : FractionText ('.' :: ds) ds

/-- The text of an exponent, and its sign and digits. -/
inductive ExponentText : List Char → Option (Bool × List Char) → Prop where
  | absent : ExponentText [] none
  | bare {e : Char} {ds : List Char} (he : e = 'e' ∨ e = 'E') (hds : IsDigits ds) :
      ExponentText (e :: ds) (some (false, ds))
  | plus {e : Char} {ds : List Char} (he : e = 'e' ∨ e = 'E') (hds : IsDigits ds) :
      ExponentText (e :: '+' :: ds) (some (false, ds))
  | minus {e : Char} {ds : List Char} (he : e = 'e' ∨ e = 'E') (hds : IsDigits ds) :
      ExponentText (e :: '-' :: ds) (some (true, ds))

/-- The text of a numeral. The digits before the point start with no zero, unless
it is the only one. -/
inductive NumeralText : List Char → Numeral → Prop where
  | parts {n : Numeral} {fraction exponent : List Char} (hwhole : IsDigits n.whole)
      (hzero : ∀ d ds, n.whole ≠ '0' :: d :: ds) (hfraction : FractionText fraction n.fraction)
      (hexponent : ExponentText exponent n.exponent) :
      NumeralText ((if n.negative then ['-'] else []) ++ n.whole ++ fraction ++ exponent) n

/-- The text of a string after the opening quote, up to the closing one, and its
characters. A character may stand for itself, be escaped by a letter or by its
number, or be the one of a surrogate pair. -/
inductive StringText : List Char → List Char → Prop where
  | close : StringText ['"'] []
  | plain {c : Char} {t s : List Char} (hquote : c ≠ '"') (hslash : c ≠ '\\')
      (hcontrol : 0x20 ≤ c.toNat) (h : StringText t s) : StringText (c :: t) (c :: s)
  | letter {e c : Char} {t s : List Char} (he : unescape? e = some c) (h : StringText t s) :
      StringText ('\\' :: e :: t) (c :: s)
  | number {a b c d : Char} {u : Nat} {t s : List Char} (hu : codeUnit? a b c d = some u)
      (hhigh : isHighSurrogate u = false) (hlow : isLowSurrogate u = false)
      (h : StringText t s) : StringText ('\\' :: 'u' :: a :: b :: c :: d :: t) (Char.ofNat u :: s)
  | pair {a b c d a' b' c' d' : Char} {u l : Nat} {t s : List Char}
      (hu : codeUnit? a b c d = some u) (hhigh : isHighSurrogate u = true)
      (hl : codeUnit? a' b' c' d' = some l) (hlow : isLowSurrogate l = true)
      (h : StringText t s) :
      StringText ('\\' :: 'u' :: a :: b :: c :: d :: '\\' :: 'u' :: a' :: b' :: c' :: d' :: t)
        (Json.pair u l :: s)

/-- The text of a key, with the blanks around it. -/
inductive KeyText : List Char → String → Prop where
  | quoted {before t s after : List Char} (hbefore : Blank before) (h : StringText t s)
      (hafter : Blank after) : KeyText (before ++ '"' :: t ++ after) (String.ofList s)

/-! ## Values -/

/-- Texts with commas between them. -/
def commas : List (List Char) → List Char
  | [] => []
  | [t] => t
  | t :: rest => t ++ ',' :: commas rest

mutual

/-- **A text denotes a value**, with arrays and objects that nest at most to the
depth. -/
inductive Denotes : Nat → List Char → Json → Prop where
  | padded {depth : Nat} {before t after : List Char} {v : Json} (hbefore : Blank before)
      (h : Denotes depth t v) (hafter : Blank after) : Denotes depth (before ++ t ++ after) v
  | null {depth : Nat} : Denotes depth ['n', 'u', 'l', 'l'] .null
  | bool_true {depth : Nat} : Denotes depth ['t', 'r', 'u', 'e'] (.bool true)
  | bool_false {depth : Nat} : Denotes depth ['f', 'a', 'l', 's', 'e'] (.bool false)
  | number {depth : Nat} {t : List Char} {n : Numeral} {v : Json} (h : NumeralText t n)
      (hv : n.value? = some v) : Denotes depth t v
  | str {depth : Nat} {t s : List Char} (h : StringText t s) :
      Denotes depth ('"' :: t) (.str (String.ofList s))
  | arr {depth : Nat} {gap : List Char} {parts : List (List Char × Json)} (hgap : Blank gap)
      (hparts : ∀ part ∈ parts, Denotes depth part.1 part.2) :
      Denotes (depth + 1) ('[' :: gap ++ commas (parts.map Prod.fst) ++ [']'])
        (.arr (parts.map Prod.snd))
  | obj {depth : Nat} {gap : List Char} {parts : List (List Char × String × Json)}
      {members : Members} (hgap : Blank gap)
      (hparts : ∀ part ∈ parts, MemberText depth part.1 part.2) (hsorted : members.Sorted)
      (hlast : ∀ key, members.find? key = Members.last? (parts.map Prod.snd) key) :
      Denotes (depth + 1) ('\x7b' :: gap ++ commas (parts.map Prod.fst) ++ ['\x7d'])
        (.obj members)

/-- The text of a member: a key, a colon and a value. -/
inductive MemberText : Nat → List Char → String × Json → Prop where
  | colon {depth : Nat} {k t : List Char} {key : String} {v : Json} (hkey : KeyText k key)
      (h : Denotes depth t v) : MemberText depth (k ++ ':' :: t) (key, v)

end

/-! ## Blanks -/

theorem blank_nil : Blank [] := fun _ h => nomatch h

theorem Blank.append {cs cs' : List Char} (h : Blank cs) (h' : Blank cs') : Blank (cs ++ cs') :=
  fun c hc => (List.mem_append.1 hc).elim (h c) (h' c)

/-- What is skipped is blank. -/
theorem exists_blank_append (cs : List Char) : ∃ gap, Blank gap ∧ cs = gap ++ skipBlank cs :=
  ⟨cs.takeWhile isBlank, List.all_eq_true.1 List.all_takeWhile,
    List.takeWhile_append_dropWhile.symm⟩

theorem commas_cons_cons (t t' : List Char) (rest : List (List Char)) :
    commas (t :: t' :: rest) = t ++ ',' :: commas (t' :: rest) := rfl

namespace Denotes

variable {depth : Nat} {t gap : List Char} {v : Json}

theorem after_gap (h : Denotes depth t v) (hgap : Blank gap) : Denotes depth (gap ++ t) v := by
  simpa using padded hgap h blank_nil

theorem before_gap (h : Denotes depth t v) (hgap : Blank gap) : Denotes depth (t ++ gap) v := by
  simpa using padded blank_nil h hgap

end Denotes

theorem MemberText.before_gap {depth : Nat} {t gap : List Char} {m : String × Json}
    (h : MemberText depth t m) (hgap : Blank gap) : MemberText depth (t ++ gap) m := by
  obtain ⟨hkey, h⟩ := h
  simpa using colon hkey (h.before_gap hgap)

end Json

end CloudOrchestration
