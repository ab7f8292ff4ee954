import CloudOrchestration.Proofs.Document.Faithful
import Mathlib.Data.List.Forall2
/-!
# Parts of documents

What the members of documents are made of. Texts and numbers are faithful, and
so are optional values of what is never written as `null`. What was read as a
part of a list or an object was read itself.
-/

namespace CloudOrchestration

namespace Document

variable {α : Type} [Document α] {depth : Nat} {key : String}

/-! ## What was read -/

/-- **A list is read item by item.** -/
theorem decode_list_eq_some {v : Json} {items : List α} (h : decode v = some items) :
    ∃ values, v = .arr values ∧ List.Forall₂ (fun x a => decode x = some a) values items := by
  cases v with
  | arr values =>
    refine ⟨values, rfl, ?_⟩
    have hmap : values.mapM decode = some items := h
    clear h
    induction values generalizing items with
    | nil =>
      cases hmap
      exact .nil
    | cons x values ih =>
      simp only [List.mapM_cons, bind, pure, Option.bind_eq_some_iff, Option.some.injEq] at hmap
      obtain ⟨a, ha, rest, hrest, rfl⟩ := hmap
      exact .cons ha (ih hrest)
  | null | bool | int | float | str | obj => cases h

theorem decode_arr_eq_some {values : List Json} {items : List α}
    (h : List.Forall₂ (fun x a => decode x = some a) values items) :
    decode (.arr values) = some items := by
  show values.mapM decode = some items
  induction h with
  | nil => rfl
  | cons hxa _ ih => simp [List.mapM_cons, hxa, ih]

/-- Of two lists that match, each item has its counterpart. -/
theorem exists_getElem?_of_forall₂ {β γ : Type} {R : β → γ → Prop} {l : List β} {l' : List γ}
    (h : List.Forall₂ R l l') {n : Nat} {b : β} (hb : l[n]? = some b) :
    ∃ c, l'[n]? = some c ∧ R b c := by
  induction h generalizing n with
  | nil => simp at hb
  | @cons b' c' l l' hR _ ih =>
    cases n with
    | zero =>
      cases hb
      exact ⟨c', rfl, hR⟩
    | succ n => exact ih hb

/-- Lists whose items match in their first parts have the same of these. -/
theorem map_fst_eq_of_forall₂ {β γ δ : Type} {l : List (β × γ)} {l' : List (β × δ)}
    (h : List.Forall₂ (fun x y => x.1 = y.1) l l') : l.map (·.1) = l'.map (·.1) := by
  induction h with
  | nil => rfl
  | cons heq _ ih => rw [List.map_cons, List.map_cons, heq, ih]

/-- The items of a list that was read have been read. -/
theorem exists_decode_of_mem {v : Json} {items : List α} (h : decode v = some items) {a : α}
    (ha : a ∈ items) : ∃ w : Json, decode w = some a := by
  obtain ⟨values, -, hitems⟩ := decode_list_eq_some h
  obtain ⟨n, hn⟩ := List.getElem?_of_mem ha
  obtain ⟨w, -, hw⟩ := exists_getElem?_of_forall₂ hitems.flip hn
  exact ⟨w, hw⟩

/-- A member that was read has been read, unless its fallback stands for it. -/
theorem exists_decode_of_defaulted {ms : Members} {fallback a : α}
    (h : ms.defaulted key fallback = some a) : a = fallback ∨ ∃ w : Json, decode w = some a := by
  unfold Members.defaulted at h
  split at h
  · cases h
    exact .inl rfl
  next w _ => exact .inr ⟨w, h⟩

/-- The items of a listing that was read have been read. -/
theorem exists_decode_of_mem_listing {v : Json} {l : Listing key α} (h : decode v = some l)
    {a : α} (ha : a ∈ l.items) : ∃ w : Json, decode w = some a := by
  simp only [decode, bind, pure, Option.bind_eq_some_iff, Option.some.injEq] at h
  obtain ⟨ms, -, items, hitems, rfl⟩ := h
  obtain rfl | ⟨w, hw⟩ := exists_decode_of_defaulted hitems
  · cases ha
  · exact exists_decode_of_mem hw ha

/-! ## Values without parts -/

theorem faithful_bool : Faithful Bool 0 := ⟨fun b => .bool b, fun _ => rfl⟩

/-- A natural number below a bound of at most 64 bits. -/
theorem natBelow_cast {bound n : Nat} (hn : n < bound) : natBelow bound (.int n) = some n := by
  simp [natBelow, hn]

theorem writable_cast {n : Nat} (hn : n < UInt64.size) : Json.Writable depth (.int n) := by
  refine .int ?_
  simp only [UInt64.size] at hn
  simp [Json.IsWord]
  omega

theorem faithful_uint8 : Faithful UInt8 0 where
  writable n := writable_cast (Nat.lt_trans n.toNat_lt (by decide))
  decode_encode n := by simp [encode, decode, natBelow_cast n.toNat_lt]

theorem faithful_uint16 : Faithful UInt16 0 where
  writable n := writable_cast (Nat.lt_trans n.toNat_lt (by decide))
  decode_encode n := by simp [encode, decode, natBelow_cast n.toNat_lt]

theorem faithful_uint32 : Faithful UInt32 0 where
  writable n := writable_cast (Nat.lt_trans n.toNat_lt (by decide))
  decode_encode n := by simp [encode, decode, natBelow_cast n.toNat_lt]

theorem faithful_uint64 : Faithful UInt64 0 where
  writable n := writable_cast n.toNat_lt
  decode_encode n := by simp [encode, decode, natBelow_cast n.toNat_lt]

/-! ## Values that may be absent -/

/-- A document type none of whose values is written as `null`. -/
def NeverNull (α : Type) [Document α] : Prop := ∀ a : α, encode a ≠ .null

/-- Then absence can be told apart. -/
theorem Faithful.option (h : Faithful α depth) (hnull : NeverNull α) :
    Faithful (Option α) depth where
  writable a := by
    cases a with
    | none => exact .null
    | some b => exact h.writable b
  decode_encode a := by
    cases a with
    | none => rfl
    | some b => exact h.decode_encode_some (hnull b)

/-- So it can where nothing is written for it. -/
theorem Faithful.elim (h : Faithful α depth) (hnull : NeverNull α) (a : Option α) :
    a.elim (some none) ((decode : Json → Option (Option α)) ∘ encode) = some a := by
  cases a with
  | none => rfl
  | some b => exact h.decode_encode_some (hnull b)

/-- A list for which nothing is written where it is empty. -/
theorem Faithful.elim_unless_empty (h : Faithful α depth) (items : List α)
    [Decidable (items = [])] : (if items = [] then none else some items).elim (some [])
      ((decode : Json → Option (List α)) ∘ encode) = some items := by
  cases items with
  | nil => simp
  | cons a rest => simpa using h.list.decode_encode (a :: rest)

theorem neverNull_string : NeverNull String := fun _ => (nomatch ·)

theorem neverNull_uint16 : NeverNull UInt16 := fun _ => (nomatch ·)

theorem neverNull_uint32 : NeverNull UInt32 := fun _ => (nomatch ·)

theorem option_string : Faithful (Option String) 0 := faithful_string.option neverNull_string

/-! ## Members -/

section Entries

variable {entries : List (String × Option Json)} {k : String}

@[simp] theorem find?_member_cons {a : α} :
    (membersOf (member k a :: entries)).find? key =
      ((membersOf entries).find? key).or (if k = key then some (encode a) else none) :=
  find?_membersOf_cons _ _ _

@[simp] theorem find?_memberIfSome_cons {a : Option α} :
    (membersOf (memberIfSome k a :: entries)).find? key =
      ((membersOf entries).find? key).or (if k = key then a.map encode else none) :=
  find?_membersOf_cons _ _ _

@[simp] theorem find?_pair_cons {v : Option Json} :
    (membersOf ((k, v) :: entries)).find? key =
      ((membersOf entries).find? key).or (if k = key then v else none) :=
  find?_membersOf_cons _ _ _

/-- A member that has to be there, and is. -/
theorem Faithful.required (h : Faithful α depth) {ms : Members} {a : α}
    (hfind : ms.find? key = some (encode a)) : ms.required key = some a := by
  simp [Members.required, hfind, h.decode_encode]

/-- One that may be missing, and is there. -/
theorem Faithful.defaulted (h : Faithful α depth) {ms : Members} {a fallback : α}
    (hfind : ms.find? key = some (encode a)) : ms.defaulted key fallback = some a := by
  simp [Members.defaulted, hfind, h.decode_encode]

/-- One that is there only for a value that is. -/
theorem Faithful.optional (h : Faithful α depth) (hnull : NeverNull α) {ms : Members}
    {a : Option α} (hfind : ms.find? key = a.map encode) : ms.optional key = some a := by
  unfold Members.optional Members.defaulted
  cases a with
  | none => simp [hfind]
  | some b => simpa [hfind] using h.decode_encode_some (hnull b)

end Entries

section Strings

variable {s : String} {s? : Option String}

@[simp] theorem writableEntry_string : WritableEntry depth (member key s) :=
  faithful_string.member (Nat.zero_le _)

@[simp] theorem writableEntry_ifSome_string : WritableEntry depth (memberIfSome key s?) :=
  faithful_string.memberIfSome (Nat.zero_le _)

@[simp] theorem writableEntry_option_string : WritableEntry depth (member key s?) :=
  option_string.member (Nat.zero_le _)

@[simp] theorem decode_encode_string : (decode (encode s) : Option String) = some s := rfl

@[simp] theorem decode_encode_option_string :
    (decode (encode s?) : Option (Option String)) = some s? := option_string.decode_encode s?

@[simp] theorem elim_string :
    s?.elim (some none) ((decode : Json → Option (Option String)) ∘ encode) = some s? :=
  faithful_string.elim neverNull_string s?

end Strings

end Document

/-! ## Reading members -/

namespace Members

variable {α : Type} [Document α]

theorem required_eq (ms : Members) (key : String) :
    (ms.required key : Option α) = (ms.find? key).bind decode := rfl

theorem defaulted_eq (ms : Members) (key : String) (fallback : α) :
    ms.defaulted key fallback = (ms.find? key).elim (some fallback) decode := by
  unfold defaulted
  cases ms.find? key <;> rfl

theorem optional_eq (ms : Members) (key : String) :
    (ms.optional key : Option (Option α)) = (ms.find? key).elim (some none) decode :=
  defaulted_eq ms key none

end Members

end CloudOrchestration
