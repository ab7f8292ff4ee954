import CloudOrchestration.Proofs.Json.Soundness
/-!
# The grammar is read

A text of the grammar is read as what it denotes, whatever comes after it: of a
numeral what follows has to show where it ends (`Ends`), and the blanks after a
value may be left for the next reader (`Json.ReadsBack`). With what the reader
keeps to, it reads exactly the texts of the grammar
(`parseWithin_eq_some_iff`).
-/

namespace CloudOrchestration

namespace Json

/-! ## Numerals -/

/-- No digit comes first. -/
def NoDigit (cs : List Char) : Prop := ∀ c rest, cs = c :: rest → c.isDigit = false

/-- Nothing with which a numeral could go on. -/
def Ends (cs : List Char) : Prop :=
  ∀ c rest, cs = c :: rest → c.isDigit = false ∧ c ≠ '.' ∧ c ≠ 'e' ∧ c ≠ 'E'

theorem ends_nil : Ends [] := fun _ _ h => nomatch h

theorem ends_cons {c : Char} (hc : c.isDigit = false ∧ c ≠ '.' ∧ c ≠ 'e' ∧ c ≠ 'E')
    (cs : List Char) : Ends (c :: cs) := by
  rintro _ _ ⟨⟩
  exact hc

namespace Numeral

variable {t ds rest : List Char}

theorem readDigits_append (hds : IsDigits ds) (hrest : NoDigit rest) :
    readDigits (ds ++ rest) = some (ds, rest) := by
  obtain ⟨hne, hdigits⟩ := hds
  -- what follows the digits starts with no digit
  have hstop : rest.takeWhile Char.isDigit = [] ∧ rest.dropWhile Char.isDigit = rest := by
    cases rest with
    | nil => exact ⟨rfl, rfl⟩
    | cons c cs => simp [hrest c cs rfl]
  have htake : (ds ++ rest).takeWhile Char.isDigit = ds := by
    rw [List.takeWhile_append_of_pos hdigits, hstop.1, List.append_nil]
  have hdrop : (ds ++ rest).dropWhile Char.isDigit = rest := by
    rw [List.dropWhile_append_of_pos hdigits, hstop.2]
  cases ds with
  | nil => exact absurd rfl hne
  | cons d ds => simp only [readDigits, htake, hdrop]

theorem readWhole_append (hds : IsDigits ds) (hzero : ∀ d ds', ds ≠ '0' :: d :: ds')
    (hrest : NoDigit rest) : readWhole (ds ++ rest) = some (ds, rest) := by
  simp only [readWhole, readDigits_append hds hrest, Option.bind_eq_bind, Option.bind_some]

theorem readFraction_append (ht : FractionText t ds) (hdigit : NoDigit rest)
    (hpoint : ∀ rest', rest ≠ '.' :: rest') : readFraction (t ++ rest) = some (ds, rest) := by
  cases ht with
  | absent =>
    unfold readFraction
    split
    next heq => exact absurd heq (hpoint _)
    next => rfl
  | point hds => exact readDigits_append hds hdigit

theorem readExponent_append {exponent : Option (Bool × List Char)} (ht : ExponentText t exponent)
    (hrest : Ends rest) : readExponent (t ++ rest) = some (exponent, rest) := by
  have hdigit : NoDigit rest := fun c cs h => (hrest c cs h).1
  cases ht with
  | absent =>
    cases rest with
    | nil => rfl
    | cons c cs =>
      obtain ⟨-, -, he, hE⟩ := hrest c cs rfl
      simp [readExponent, he, hE]
  | @bare e ds he hds =>
    obtain ⟨d, ds', rfl, hd⟩ := hds.exists_cons
    have hminus : d ≠ '-' := by rintro rfl; cases hd
    have hplus : d ≠ '+' := by rintro rfl; cases hd
    have hread := readDigits_append hds hdigit
    rw [List.cons_append] at hread
    simp [readExponent, he, hminus, hplus, hread]
  | plus he hds => simp [readExponent, he, readDigits_append hds hdigit]
  | minus he hds => simp [readExponent, he, readDigits_append hds hdigit]

/-- Neither an exponent nor what follows goes on with the digits before it. -/
theorem noDigit_of_exponent {exponent : Option (Bool × List Char)} (ht : ExponentText t exponent)
    (hrest : Ends rest) : NoDigit (t ++ rest) ∧ ∀ rest', t ++ rest ≠ '.' :: rest' := by
  have hletter : ∀ {e : Char}, e = 'e' ∨ e = 'E' → e.isDigit = false ∧ e ≠ '.' := by
    rintro _ (rfl | rfl) <;> decide
  have hcons : ∀ {c : Char} {cs : List Char}, c.isDigit = false ∧ c ≠ '.' →
      NoDigit (c :: cs) ∧ ∀ rest', c :: cs ≠ '.' :: rest' := by
    rintro c cs ⟨hdigit, hpoint⟩
    exact ⟨fun _ _ h => (List.cons.inj h).1 ▸ hdigit, fun _ h => hpoint (List.cons.inj h).1⟩
  cases ht with
  | absent =>
    cases rest with
    | nil => exact ⟨(fun _ _ h => nomatch h), (fun _ h => nomatch h)⟩
    | cons c cs => exact hcons ⟨(hrest c cs rfl).1, (hrest c cs rfl).2.1⟩
  | bare he => exact hcons (hletter he)
  | plus he => exact hcons (hletter he)
  | minus he => exact hcons (hletter he)

theorem noDigit_of_fraction (ht : FractionText t ds) (hdigit : NoDigit rest) :
    NoDigit (t ++ rest) := by
  cases ht with
  | absent => exact hdigit
  | point => exact fun _ _ h => (List.cons.inj h).1 ▸ rfl

/-- What a numeral begins with. -/
theorem exists_numeralText_eq_cons {n : Numeral} (ht : NumeralText t n) :
    ∃ c cs, t = c :: cs ∧ (c.isDigit ∨ c = '-') := by
  obtain ⟨hwhole, -, -, -⟩ := ht
  obtain ⟨d, ds, hds, hd⟩ := hwhole.exists_cons
  cases n.negative with
  | true => exact ⟨'-', _, rfl, .inr rfl⟩
  | false => exact ⟨d, _, by rw [hds]; rfl, .inl hd⟩

/-- **A numeral is read up to where it ends.** -/
theorem read_append {n : Numeral} (ht : NumeralText t n) (hrest : Ends rest) :
    read (t ++ rest) = some (n, rest) := by
  obtain @⟨⟨negative, whole, digits, power⟩, fraction, exponent, hwhole, hzero, hfraction,
    hexponent⟩ := ht
  obtain ⟨hdigit, hpoint⟩ := noDigit_of_exponent hexponent hrest
  have hread := readWhole_append hwhole hzero (noDigit_of_fraction hfraction hdigit)
  have hread' := readFraction_append hfraction hdigit hpoint
  have hread'' := readExponent_append hexponent hrest
  cases negative with
  | true => simp [read, hread, hread', hread'']
  | false =>
    -- the first digit is not taken for a sign
    obtain ⟨d, ds, rfl, hd⟩ := hwhole.exists_cons
    have hminus : d ≠ '-' := by rintro rfl; cases hd
    simp only [List.cons_append] at hread
    simp [read, hminus, hread, hread', hread'']

end Numeral

/-! ## Strings -/

/-- **A string is read up to its closing quote.** -/
theorem readString_append {t s : List Char} (ht : StringText t s) (rest : List Char) :
    readString none (t ++ rest) = some (s, rest) := by
  induction ht with
  | close =>
    unfold readString
    simp
  | plain hquote hslash hcontrol _ ih =>
    unfold readString
    simp [hquote, hslash, Nat.not_lt.2 hcontrol, ih]
  | @letter e c t s he _ ih =>
    have hu : e ≠ 'u' := by rintro rfl; cases he
    unfold readString
    simp [hu, he, ih]
  | number hu hhigh hlow _ ih =>
    unfold readString
    simp [hu, hhigh, hlow, ih]
  | pair hu hhigh hl hlow _ ih =>
    unfold readString
    simp only [List.cons_append, if_true, hu, hhigh]
    unfold readString
    simp [hl, hlow, ih]

/-! ## Blanks -/

theorem skipBlank_append {gap : List Char} (hgap : Blank gap) (cs : List Char) :
    skipBlank (gap ++ cs) = skipBlank cs := List.dropWhile_append_of_pos hgap

@[simp] theorem skipBlank_cons {c : Char} (hc : isBlank c = false) (cs : List Char) :
    skipBlank (c :: cs) = c :: cs := by
  simp [skipBlank, hc]

/-- A numeral does not go on with blanks. -/
theorem ends_append {gap rest : List Char} (hgap : Blank gap) (hrest : Ends rest) :
    Ends (gap ++ rest) := by
  cases gap with
  | nil => exact hrest
  | cons c gap =>
    have hblank := hgap c List.mem_cons_self
    simp only [isBlank, Bool.or_eq_true, beq_iff_eq] at hblank
    rcases hblank with ((rfl | rfl) | rfl) | rfl <;> exact ends_cons (by decide) _

/-! ## Lists -/

/-- **A reader reads a text back** as what it stands for, up to blanks that come
after it. -/
def ReadsBack {α : Type} (item : Reader α) (t : List Char) (a : α) : Prop :=
  ∀ rest, Ends rest → ∃ rest', item (t ++ rest) = some (a, rest') ∧
    skipBlank rest' = skipBlank rest

/-- A text that, after blanks, starts with something else than the end of a list. -/
def Opens (close : Char) (t : List Char) : Prop :=
  ∃ gap c cs, Blank gap ∧ t = gap ++ c :: cs ∧ isBlank c = false ∧ c ≠ close

theorem exists_commas_eq_append (t : List Char) (texts : List (List Char)) :
    ∃ more, commas (t :: texts) = t ++ more := by
  cases texts with
  | nil => exact ⟨[], by simp [commas]⟩
  | cons t' texts => exact ⟨_, commas_cons_cons t t' texts⟩

/-- Blanks in front of a list are its first item's. -/
theorem append_commas (gap t : List Char) (texts : List (List Char)) :
    gap ++ commas (t :: texts) = commas ((gap ++ t) :: texts) := by
  cases texts with
  | nil => rfl
  | cons t' texts => simp [commas_cons_cons]

/-- A text has at least as many characters as there are items in it. -/
theorem length_le_commas (texts : List (List Char)) :
    texts.length ≤ (commas texts).length + 1 := by
  induction texts with
  | nil => simp
  | cons t texts ih =>
    cases texts with
    | nil => simp
    | cons t' texts =>
      rw [commas_cons_cons]
      simp only [List.length_cons, List.length_append] at ih ⊢
      omega

section Lists

variable {α : Type} {item : Reader α} {close : Char} {rest : List Char}

/-- **Items are read back** up to the closing bracket. -/
theorem readItems_commas {parts : List (List Char × α)} (hblank : isBlank close = false)
    (hcomma : close ≠ ',') (hends : Ends (close :: rest)) (hne : parts ≠ [])
    (hparts : ∀ part ∈ parts, ReadsBack item part.1 part.2) {width : Nat}
    (hwidth : parts.length ≤ width) :
    readItems item close width (commas (parts.map Prod.fst) ++ close :: rest) =
      some (parts.map Prod.snd, rest) := by
  induction parts generalizing width with
  | nil => exact absurd rfl hne
  | cons part parts ih =>
    cases width with
    | zero => cases hwidth
    | succ width =>
      have hpart := hparts part List.mem_cons_self
      cases parts with
      | nil =>
        obtain ⟨rest', hread, hskip⟩ := hpart (close :: rest) hends
        simp [readItems, commas, hread, hskip, hblank]
      | cons part' parts =>
        obtain ⟨rest', hread, hskip⟩ := hpart
          (',' :: (commas ((part' :: parts).map Prod.fst) ++ close :: rest))
          (ends_cons (by decide) _)
        have hmore := ih (List.cons_ne_nil _ _)
          (fun p hp => hparts p (List.mem_cons_of_mem _ hp)) (Nat.le_of_succ_le_succ hwidth)
        rw [List.map_cons, List.map_cons, commas_cons_cons, List.append_assoc, List.cons_append]
        rw [List.map_cons] at hread hskip hmore
        rw [skipBlank_cons (by decide)] at hskip
        simp [readItems, hread, hskip, hcomma.symm, hmore]

/-- **A list is read back** if its items are, none of them starts like the end of
the list, and blanks in front of an item are skipped. -/
theorem readList_commas {gap : List Char} {parts : List (List Char × α)}
    (hblank : isBlank close = false) (hcomma : close ≠ ',') (hends : Ends (close :: rest))
    (hgap : Blank gap) (hparts : ∀ part ∈ parts, ReadsBack item part.1 part.2)
    (hopens : ∀ part ∈ parts, Opens close part.1)
    (hskip : ∀ ⦃gap cs⦄, Blank gap → item (gap ++ cs) = item cs) :
    readList item close (gap ++ commas (parts.map Prod.fst) ++ close :: rest) =
      some (parts.map Prod.snd, rest) := by
  cases parts with
  | nil => simp [readList, commas, skipBlank_append hgap, hblank]
  | cons part parts =>
    obtain ⟨gap', c, cs, hgap', ht, hc, hclose⟩ := hopens part List.mem_cons_self
    -- the list does not look empty: it opens as its first item does
    obtain ⟨more, hmore⟩ := exists_commas_eq_append part.1 (parts.map Prod.fst)
    have hfront : skipBlank (gap ++ commas ((part :: parts).map Prod.fst) ++ close :: rest) =
        c :: (cs ++ more ++ close :: rest) := by
      rw [List.append_assoc, skipBlank_append hgap, List.map_cons, hmore, ht, List.append_assoc,
        List.append_assoc, skipBlank_append hgap', List.cons_append, skipBlank_cons hc]
      simp
    have hpadded : ReadsBack item (gap ++ part.1) part.2 := fun rest hrest => by
      rw [List.append_assoc, hskip hgap]
      exact hparts part List.mem_cons_self rest hrest
    -- the width that the reader starts with is that of the text, which suffices
    have hwidth : (part :: parts).length ≤
        (gap ++ commas ((part :: parts).map Prod.fst) ++ close :: rest).length := by
      have hlength := length_le_commas ((part :: parts).map Prod.fst)
      simp only [List.length_map, List.length_append, List.length_cons] at hlength ⊢
      omega
    have hpadded' : ∀ p ∈ (gap ++ part.1, part.2) :: parts, ReadsBack item p.1 p.2 :=
      List.forall_mem_cons.2 ⟨hpadded, fun p hp => hparts p (List.mem_cons_of_mem _ hp)⟩
    have hcommas : gap ++ commas ((part :: parts).map Prod.fst) =
        commas (((gap ++ part.1, part.2) :: parts).map Prod.fst) := append_commas ..
    have hread := readItems_commas hblank hcomma hends (List.cons_ne_nil _ _) hpadded' hwidth
    rw [← hcommas] at hread
    rw [readList, hfront]
    simp only [hclose, if_false]
    exact hread

end Lists

/-! ## Values -/

variable {depth : Nat} {t : List Char} {v : Json}

theorem readValue_append {gap : List Char} (hgap : Blank gap) (cs : List Char) :
    readValue depth (gap ++ cs) = readValue depth cs := by
  cases depth <;> simp only [readValue, skipBlank_append hgap]

theorem readMember_append {value : Reader Json} {gap : List Char} (hgap : Blank gap)
    (cs : List Char) : readMember value (gap ++ cs) = readMember value cs := by
  simp only [readMember, skipBlank_append hgap]

theorem readValue_bracket (cs : List Char) :
    readValue (depth + 1) ('[' :: cs) =
      (readList (readValue depth) ']' cs).map fun (items, rest) => (.arr items, rest) := by
  have hopen : isBlank '[' = false := by decide
  simp [readValue, hopen]

theorem readValue_brace (cs : List Char) :
    readValue (depth + 1) ('\x7b' :: cs) =
      (readList (readMember (readValue depth)) '\x7d' cs).map fun (entries, rest) =>
        (.obj (Members.ofList entries), rest) := by
  have hopen : isBlank '\x7b' = false := by decide
  simp [readValue, hopen]

/-- A character that comes neither between values nor around a list. -/
def StartsScalar (c : Char) : Prop :=
  isBlank c = false ∧ c ≠ '[' ∧ c ≠ ']' ∧ c ≠ '\x7b' ∧ c ≠ '\x7d'

instance (c : Char) : Decidable (StartsScalar c) :=
  inferInstanceAs (Decidable (isBlank c = false ∧ c ≠ '[' ∧ c ≠ ']' ∧ c ≠ '\x7b' ∧ c ≠ '\x7d'))

/-- What begins a numeral begins nothing else. -/
theorem ne_of_begins_numeral {c d : Char} (hc : c.isDigit ∨ c = '-')
    (hd : d.isDigit = false ∧ d ≠ '-') : c ≠ d := by
  rintro rfl
  rcases hc with hc | hc
  · rw [hd.1] at hc
    cases hc
  · exact hd.2 hc

theorem startsScalar_of_begins_numeral {c : Char} (hc : c.isDigit ∨ c = '-') :
    StartsScalar c := by
  have hne : ∀ d : Char, d.isDigit = false ∧ d ≠ '-' → c ≠ d := fun d => ne_of_begins_numeral hc
  refine ⟨?_, hne _ (by decide), hne _ (by decide), hne _ (by decide), hne _ (by decide)⟩
  simp [isBlank, hne ' ' (by decide), hne '\t' (by decide), hne '\n' (by decide),
    hne '\r' (by decide)]

/-- A scalar is read at any depth. -/
theorem readsBack_scalar {c : Char} {cs : List Char} (hc : StartsScalar c)
    (h : ∀ rest, Ends rest → readScalar (c :: cs ++ rest) = some (v, rest)) :
    ReadsBack (readValue depth) (c :: cs) v := by
  obtain ⟨hblank, harr, -, hobj, -⟩ := hc
  intro rest hrest
  have hread := h rest hrest
  rw [List.cons_append] at hread ⊢
  refine ⟨rest, ?_, rfl⟩
  cases depth with
  | zero => simpa [readValue, hblank] using hread
  | succ depth => simpa [readValue, hblank, harr, hobj] using hread

theorem readWord_append (word : String) (v : Json) (rest : List Char) :
    readWord word v (word.toList ++ rest) = some (v, rest) := by
  simp [readWord, ← String.length_toList]

/-! ### How they open -/

theorem Opens.after_gap {close : Char} {gap : List Char} (h : Opens close t) (hgap : Blank gap)
    (after : List Char) : Opens close (gap ++ t ++ after) := by
  obtain ⟨gap', c, cs, hgap', rfl, hc, hclose⟩ := h
  exact ⟨gap ++ gap', c, cs ++ after, hgap.append hgap', by simp, hc, hclose⟩

theorem opens_cons {c close : Char} {cs : List Char} (hc : isBlank c = false ∧ c ≠ close) :
    Opens close (c :: cs) := ⟨[], c, cs, blank_nil, rfl, hc⟩

theorem Denotes.opens : ∀ {depth : Nat} {t : List Char} {v : Json}, Denotes depth t v → Opens ']' t
  | _, _, _, .padded hbefore h _ => h.opens.after_gap hbefore _
  | _, _, _, .null => opens_cons (by decide)
  | _, _, _, .bool_true => opens_cons (by decide)
  | _, _, _, .bool_false => opens_cons (by decide)
  | _, _, _, .number ht _ => by
    obtain ⟨c, cs, rfl, hc⟩ := Numeral.exists_numeralText_eq_cons ht
    have hstarts := startsScalar_of_begins_numeral hc
    exact opens_cons ⟨hstarts.1, hstarts.2.2.1⟩
  | _, _, _, .str _ => opens_cons (by decide)
  | _, _, _, .arr _ _ => opens_cons (by decide)
  | _, _, _, .obj _ _ _ _ => opens_cons (by decide)

theorem MemberText.opens {m : String × Json} (h : MemberText depth t m) : Opens '\x7d' t := by
  obtain @⟨_, _, t', key, _, @⟨before, k, s, after, hbefore, -, -⟩, -⟩ := h
  have hquote : Opens '\x7d' ('"' :: k) := opens_cons (by decide)
  simpa using hquote.after_gap hbefore (after ++ ':' :: t')

/-! ### Reading them -/

mutual

/-- **A value is read back** from each text that denotes it. -/
theorem Denotes.readsBack : ∀ {depth : Nat} {t : List Char} {v : Json},
    Denotes depth t v → ReadsBack (readValue depth) t v
  | depth, _, v, .padded hbefore h hafter => by
    intro rest hrest
    obtain ⟨rest', hread, hskip⟩ := h.readsBack _ (ends_append hafter hrest)
    rw [skipBlank_append hafter] at hskip
    rw [List.append_assoc, List.append_assoc, readValue_append hbefore]
    exact ⟨rest', hread, hskip⟩
  | _, _, _, .null => by
    refine readsBack_scalar (by decide) fun rest _ => ?_
    have hword := readWord_append "null" .null rest
    simpa [readScalar] using hword
  | _, _, _, .bool_true => by
    refine readsBack_scalar (by decide) fun rest _ => ?_
    have hword := readWord_append "true" (.bool true) rest
    simpa [readScalar] using hword
  | _, _, _, .bool_false => by
    refine readsBack_scalar (by decide) fun rest _ => ?_
    have hword := readWord_append "false" (.bool false) rest
    simpa [readScalar] using hword
  | _, _, _, .number ht hv => by
    obtain ⟨c, cs, rfl, hc⟩ := Numeral.exists_numeralText_eq_cons ht
    refine readsBack_scalar (startsScalar_of_begins_numeral hc) fun rest hrest => ?_
    -- it is not taken for any other scalar
    have hquote : c ≠ '"' := ne_of_begins_numeral hc (by decide)
    have hnull : c ≠ 'n' := ne_of_begins_numeral hc (by decide)
    have htrue : c ≠ 't' := ne_of_begins_numeral hc (by decide)
    have hfalse : c ≠ 'f' := ne_of_begins_numeral hc (by decide)
    have hread := Numeral.read_append ht hrest
    rw [List.cons_append] at hread ⊢
    simp [readScalar, hquote, hnull, htrue, hfalse, hread, hv]
  | _, _, _, .str ht => by
    refine readsBack_scalar (by decide) fun rest _ => ?_
    simp [readScalar, readString_append ht]
  | _, _, _, @Denotes.arr depth gap parts hgap hparts => by
    intro rest _
    have hlist := readList_commas (by decide) (by decide) (ends_cons (by decide) rest) hgap
      (fun part hpart => (hparts part hpart).readsBack)
      (fun part hpart => (hparts part hpart).opens)
      fun _ cs hgap => readValue_append hgap cs
    have htext : '[' :: gap ++ commas (parts.map Prod.fst) ++ [']'] ++ rest =
        '[' :: (gap ++ commas (parts.map Prod.fst) ++ ']' :: rest) := by simp
    exact ⟨rest, by rw [htext, readValue_bracket, hlist, Option.map_some], rfl⟩
  | _, _, _, @Denotes.obj depth gap parts members hgap hparts hsorted hlast => by
    intro rest _
    have hlist := readList_commas (by decide) (by decide) (ends_cons (by decide) rest) hgap
      (fun part hpart => (hparts part hpart).readsBack)
      (fun part hpart => (hparts part hpart).opens)
      fun _ cs hgap => readMember_append hgap cs
    have htext : '\x7b' :: gap ++ commas (parts.map Prod.fst) ++ ['\x7d'] ++ rest =
        '\x7b' :: (gap ++ commas (parts.map Prod.fst) ++ '\x7d' :: rest) := by simp
    -- the members are told by their order and the last value of each key
    have hmembers : Members.ofList (parts.map Prod.snd) = members :=
      (Members.sorted_ofList _).ext hsorted fun key => by rw [Members.find?_ofList, hlast]
    exact ⟨rest, by rw [htext, readValue_brace, hlist, Option.map_some, ← hmembers], rfl⟩

theorem MemberText.readsBack : ∀ {depth : Nat} {t : List Char} {m : String × Json},
    MemberText depth t m → ReadsBack (readMember (readValue depth)) t m
  | depth, _, _, .colon (.quoted hbefore hkey hafter) h => by
    intro rest hrest
    obtain ⟨rest', hread, hskip⟩ := h.readsBack rest hrest
    refine ⟨rest', ?_, hskip⟩
    have hquote : isBlank '"' = false := by decide
    have hcolon : isBlank ':' = false := by decide
    rw [List.append_assoc, List.append_assoc, List.append_assoc, readMember_append hbefore]
    simp [readMember, hquote, hcolon, readString_append hkey, skipBlank_append hafter, hread]

end

/-- **What a text denotes is read from it.** -/
theorem parseWithin_of_denotes {depth : Nat} {cs : List Char} {v : Json}
    (h : Denotes depth cs v) : parseWithin depth cs = some v := by
  obtain ⟨rest, hread, hskip⟩ := h.readsBack [] ends_nil
  rw [List.append_nil] at hread
  have hempty : skipBlank rest = [] := hskip
  simp [parseWithin, hread, hempty]

/-- **The reader reads exactly the texts of the grammar**, as what they denote. -/
theorem parseWithin_eq_some_iff {depth : Nat} {cs : List Char} {v : Json} :
    parseWithin depth cs = some v ↔ Denotes depth cs v :=
  ⟨denotes_of_parseWithin, parseWithin_of_denotes⟩

end Json

end CloudOrchestration
