import CloudOrchestration.Proofs.Json.Completeness
import CloudOrchestration.Proofs.Json.Numerals
import CloudOrchestration.Proofs.Json.Strings
/-!
# Values are read back

A value without fractions is read back from its compact text, if its integers
lie in the range of the words, the members of its objects are in order and it
nests no deeper than is read: `Json.Writable`. Its text denotes it in the
grammar (`Writable.denotes`), and of the values without fractions no other is
denoted by any text (`Denotes.writable`).
-/

namespace CloudOrchestration

namespace Json

/-- **A value that can be read back** from a text that nests to the depth. -/
inductive Writable : Nat → Json → Prop where
  | null {depth : Nat} : Writable depth .null
  | bool {depth : Nat} (b : Bool) : Writable depth (.bool b)
  | int {depth : Nat} {n : Int} (hn : IsWord n) : Writable depth (.int n)
  | str {depth : Nat} (s : String) : Writable depth (.str s)
  | arr {depth : Nat} {items : List Json} (hitems : ∀ v ∈ items, Writable depth v) :
      Writable (depth + 1) (.arr items)
  | obj {depth : Nat} {members : Members} (hmembers : ∀ m ∈ members, Writable depth m.2)
      (hsorted : members.Sorted) : Writable (depth + 1) (.obj members)

theorem Writable.mono {depth depth' : Nat} {v : Json} (hv : Writable depth v)
    (hle : depth ≤ depth') : Writable depth' v := by
  induction hv generalizing depth' with
  | null => exact .null
  | bool b => exact .bool b
  | int hn => exact .int hn
  | str s => exact .str s
  | arr _ ih =>
    cases depth' with
    | zero => cases hle
    | succ n => exact .arr fun v hv => ih v hv (Nat.le_of_succ_le_succ hle)
  | obj _ hsorted ih =>
    cases depth' with
    | zero => cases hle
    | succ n => exact .obj (fun m hm => ih m hm (Nat.le_of_succ_le_succ hle)) hsorted

/-! ## What is written -/

/-- The text of a member. -/
def printMember (m : String × Json) : List Char := quote m.1.toList ++ ':' :: print m.2

theorem printItems_eq (items : List Json) : printItems items = commas (items.map print) := by
  induction items with
  | nil => simp [printItems, commas]
  | cons v items ih =>
    cases items with
    | nil => simp [printItems, commas]
    | cons v' items =>
      rw [printItems, ih]
      · simp only [List.map_cons, commas_cons_cons]
      · exact List.cons_ne_nil _ _

theorem printMembers_eq (members : Members) :
    printMembers members = commas (members.map printMember) := by
  induction members with
  | nil => simp [printMembers, commas]
  | cons m members ih =>
    cases members with
    | nil => simp [printMembers, commas, printMember]
    | cons m' members =>
      rw [printMembers, ih]
      · simp [commas_cons_cons, printMember]
      · exact List.cons_ne_nil _ _

theorem keyText_quote (key : String) : KeyText (quote key.toList) key := by
  have hkey := KeyText.quoted blank_nil (stringText_escaped key.toList) blank_nil
  simpa [quote] using hkey

/-- **Members are written in any order**: what stands in the text denotes what is put
together from it. -/
theorem denotes_printMembers {depth : Nat} {entries : List (String × Json)}
    (h : ∀ m ∈ entries, Denotes depth (print m.2) m.2) :
    Denotes (depth + 1) ('\x7b' :: printMembers entries ++ ['\x7d'])
      (.obj (Members.ofList entries)) := by
  have hparts : ∀ part ∈ entries.map fun m => (printMember m, m),
      MemberText depth part.1 part.2 := by
    intro part hpart
    obtain ⟨m, hm, rfl⟩ := List.mem_map.1 hpart
    exact .colon (keyText_quote m.1) (h m hm)
  have hentries : (entries.map fun m => (printMember m, m)).map Prod.snd = entries := by
    rw [List.map_map]
    exact List.map_id entries
  have hobj := Denotes.obj blank_nil hparts (Members.sorted_ofList entries)
    (hentries.symm ▸ Members.find?_ofList entries)
  simpa [printMembers_eq, Function.comp_def] using hobj

/-- **What is written for a value denotes it.** -/
theorem Writable.denotes {depth : Nat} {v : Json} (hv : Writable depth v) :
    Denotes depth (print v) v := by
  induction hv with
  | null => simpa [print] using Denotes.null
  | bool b =>
    cases b with
    | true => simpa [print] using Denotes.bool_true
    | false => simpa [print] using Denotes.bool_false
  | int hn =>
    rw [print]
    exact .number (Numeral.numeralText_printInt _) (Numeral.value?_printInt hn)
  | @str depth s =>
    have hstr := @Denotes.str depth _ _ (stringText_escaped s.toList)
    simpa [print, quote] using hstr
  | @arr depth items _ ih =>
    have hparts : ∀ part ∈ items.map fun v => (print v, v), Denotes depth part.1 part.2 := by
      intro part hpart
      obtain ⟨v, hv, rfl⟩ := List.mem_map.1 hpart
      exact ih v hv
    have harr := Denotes.arr blank_nil hparts
    simpa [print, printItems_eq, Function.comp_def] using harr
  | obj _ hsorted ih =>
    have hobj := denotes_printMembers ih
    rwa [Members.ofList_eq_self hsorted] at hobj

/-! ## What is read -/

/-- **A value without fractions.** -/
inductive Whole : Json → Prop where
  | null : Whole .null
  | bool (b : Bool) : Whole (.bool b)
  | int (n : Int) : Whole (.int n)
  | str (s : String) : Whole (.str s)
  | arr {items : List Json} (hitems : ∀ v ∈ items, Whole v) : Whole (.arr items)
  | obj {members : Members} (hmembers : ∀ m ∈ members, Whole m.2) : Whole (.obj members)

mutual

/-- **A value without fractions that a text denotes can be read back.** -/
theorem Denotes.writable : ∀ {depth : Nat} {t : List Char} {v : Json},
    Denotes depth t v → v.Whole → Writable depth v
  | _, _, _, .padded _ h _, hv => h.writable hv
  | _, _, _, .null, _ => .null
  | _, _, _, .bool_true, _ => .bool true
  | _, _, _, .bool_false, _ => .bool false
  | _, _, _, .number _ hvalue, hv => by
    obtain ⟨n, hn, rfl⟩ | ⟨x, rfl⟩ := Numeral.word_or_float_of_value? hvalue
    · exact .int hn
    · cases hv
  | _, _, _, .str _, _ => .str _
  | _, _, _, .arr _ hparts, .arr hitems => by
    refine .arr fun v hv => ?_
    obtain ⟨part, hpart, rfl⟩ := List.mem_map.1 hv
    exact (hparts part hpart).writable (hitems _ hv)
  | _, _, _, .obj _ hparts hsorted hlast, .obj hmembers => by
    refine .obj (fun m hm => ?_) hsorted
    -- a member is the last of its key in the text, so it stands there
    have hentry := Members.mem_of_last? ((hlast m.1).symm.trans (Members.find?_of_mem hsorted hm))
    obtain ⟨part, hpart, heq⟩ := List.mem_map.1 hentry
    obtain rfl : part.2 = m := heq
    exact (hparts part hpart).writable (hmembers _ hm)

theorem MemberText.writable : ∀ {depth : Nat} {t : List Char} {m : String × Json},
    MemberText depth t m → m.2.Whole → Writable depth m.2
  | _, _, _, .colon _ h, hv => h.writable hv

end

end Json

end CloudOrchestration
