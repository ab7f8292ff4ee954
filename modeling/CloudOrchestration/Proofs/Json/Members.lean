import CloudOrchestration.Json.Basic
/-!
# The order of members

An object that is put together member by member has its keys in order and
each of them once. So what was put together so is not changed by being put
together again (`Members.ofList_eq_self`), which is what lets an object be
read back from its text.
-/

namespace CloudOrchestration

namespace Members

/-- **The keys are in order**, each of them once. -/
def Sorted (ms : Members) : Prop := ms.Pairwise fun a b => a.1 < b.1

theorem mem_insert {ms : Members} {key : String} {value : Json} {x : String × Json}
    (hx : x ∈ insert key value ms) : x = (key, value) ∨ x ∈ ms := by
  induction ms with
  | nil => exact .inl (List.mem_singleton.1 hx)
  | cons entry rest ih =>
    obtain ⟨k, v⟩ := entry
    simp only [insert] at hx
    split at hx
    · rcases List.mem_cons.1 hx with hx | hx
      · exact .inl hx
      · exact .inr (List.mem_cons_of_mem _ hx)
    · split at hx
      · exact List.mem_cons.1 hx
      · rcases List.mem_cons.1 hx with rfl | hx
        · exact .inr List.mem_cons_self
        · exact (ih hx).imp_right (List.mem_cons_of_mem _)

/-- **An insertion keeps the order.** -/
theorem sorted_insert {ms : Members} (hs : ms.Sorted) (key : String) (value : Json) :
    (insert key value ms).Sorted := by
  induction ms with
  | nil => exact List.pairwise_singleton ..
  | cons entry rest ih =>
    obtain ⟨k, v⟩ := entry
    obtain ⟨hhead, hrest⟩ := List.pairwise_cons.1 hs
    simp only [insert]
    split
    next heq =>
      subst heq
      exact List.pairwise_cons.2 ⟨hhead, hrest⟩
    next hne =>
      split
      next hlt =>
        refine List.pairwise_cons.2 ⟨fun x hx => ?_, hs⟩
        rcases List.mem_cons.1 hx with rfl | hx
        · exact hlt
        · exact String.lt_trans hlt (hhead x hx)
      next hge =>
        -- the key is neither this one nor before it, so it comes after
        have hlt : k < key := Classical.byContradiction fun h =>
          hne (String.le_antisymm (String.not_lt.1 h) (String.not_lt.1 hge))
        refine List.pairwise_cons.2 ⟨fun x hx => ?_, ih hrest⟩
        rcases mem_insert hx with rfl | hx
        · exact hlt
        · exact hhead x hx

theorem sorted_ofList (entries : List (String × Json)) : (ofList entries).Sorted := by
  have hgeneral : ∀ ms : Members, ms.Sorted →
      Sorted (entries.foldl (fun ms entry => insert entry.1 entry.2 ms) ms) := by
    induction entries with
    | nil => exact fun _ hs => hs
    | cons entry entries ih => exact fun _ hs => ih _ (sorted_insert hs _ _)
  exact hgeneral [] .nil

/-- What is put together comes from what was given. -/
theorem mem_of_mem_ofList {entries : List (String × Json)} {x : String × Json}
    (hx : x ∈ ofList entries) : x ∈ entries := by
  have hgeneral : ∀ ms : Members,
      x ∈ entries.foldl (fun ms entry => insert entry.1 entry.2 ms) ms → x ∈ ms ∨ x ∈ entries := by
    clear hx
    induction entries with
    | nil => exact fun _ hx => .inl hx
    | cons entry entries ih =>
      intro ms hx
      rcases ih _ hx with hx | hx
      · rcases mem_insert hx with rfl | hx
        · exact .inr List.mem_cons_self
        · exact .inl hx
      · exact .inr (List.mem_cons_of_mem _ hx)
  exact (hgeneral [] hx).resolve_left List.not_mem_nil

/-- **Of equal keys the last counts.** -/
theorem find?_ofList_cons (entry : String × Json) (entries : List (String × Json))
    (key : String) :
    (ofList (entry :: entries)).find? key =
      ((ofList entries).find? key).or (if entry.1 = key then some entry.2 else none) := by
  have hgeneral : ∀ ms : Members,
      (entries.foldl (fun ms entry => insert entry.1 entry.2 ms) ms).find? key =
        ((ofList entries).find? key).or (ms.find? key) := by
    induction entries with
    | nil => exact fun _ => rfl
    | cons entry entries ih =>
      intro ms
      have hcons : ofList (entry :: entries) =
          entries.foldl (fun ms entry => insert entry.1 entry.2 ms) (insert entry.1 entry.2 []) :=
        rfl
      -- both sides are read from the rest, over what the first entry leaves
      rw [List.foldl_cons, ih, hcons, ih]
      simp only [find?_insert, find?_nil]
      cases (ofList entries).find? key <;> split <;> simp
  rw [ofList, List.foldl_cons, hgeneral]
  simp [find?_insert]

/-- The value that is given last for a key. -/
def last? (entries : List (String × Json)) (key : String) : Option Json :=
  (entries.filter (·.1 = key)).getLast?.map Prod.snd

/-- **What is put together has of each key the last.** -/
theorem find?_ofList (entries : List (String × Json)) (key : String) :
    (ofList entries).find? key = last? entries key := by
  induction entries with
  | nil => rfl
  | cons entry entries ih =>
    rw [find?_ofList_cons, ih, last?, last?, List.filter_cons]
    by_cases hkey : entry.1 = key
    · cases hlast : (entries.filter (·.1 = key)).getLast? <;>
        simp [hkey, hlast, List.getLast?_cons]
    · simp [hkey]

/-- The last key goes to the end. -/
theorem insert_last {ms : Members} {key : String} {value : Json}
    (hlast : ∀ x ∈ ms, x.1 < key) : insert key value ms = ms ++ [(key, value)] := by
  induction ms with
  | nil => rfl
  | cons entry rest ih =>
    obtain ⟨k, v⟩ := entry
    have hlt : k < key := hlast (k, v) List.mem_cons_self
    rw [insert, if_neg (String.ne_of_lt hlt).symm, if_neg (String.lt_asymm hlt),
      ih fun x hx => hlast x (List.mem_cons_of_mem _ hx)]
    rfl

/-- **What is in order is put together as it is.** -/
theorem ofList_eq_self {ms : Members} (hs : ms.Sorted) : ofList ms = ms := by
  -- what was inserted so far comes before the rest, so each insertion goes to the end
  have hgeneral : ∀ before : Members, Sorted (before ++ ms) →
      ms.foldl (fun ms entry => insert entry.1 entry.2 ms) before = before ++ ms := by
    clear hs
    induction ms with
    | nil => simp
    | cons entry rest ih =>
      intro before hs
      have hlast : ∀ x ∈ before, x.1 < entry.1 := fun x hx =>
        (List.pairwise_append.1 hs).2.2 x hx entry List.mem_cons_self
      rw [List.foldl_cons, insert_last hlast, ih _ (by simpa using hs), List.append_assoc]
      rfl
  exact hgeneral [] hs

/-! ## Looking up -/

theorem mem_of_find? {ms : Members} {key : String} {v : Json} (h : ms.find? key = some v) :
    (key, v) ∈ ms := by
  induction ms with
  | nil => cases h
  | cons entry rest ih =>
    rw [find?] at h
    split at h
    next hkey =>
      cases h
      exact hkey ▸ List.mem_cons_self
    next => exact List.mem_cons_of_mem _ (ih h)

theorem mem_of_last? {entries : List (String × Json)} {key : String} {v : Json}
    (h : last? entries key = some v) : (key, v) ∈ entries :=
  mem_of_mem_ofList (mem_of_find? (find?_ofList entries key ▸ h))

/-- A member is found under its key. -/
theorem find?_of_mem {ms : Members} (hs : ms.Sorted) {m : String × Json} (hm : m ∈ ms) :
    ms.find? m.1 = some m.2 := by
  induction ms with
  | nil => cases hm
  | cons entry rest ih =>
    obtain ⟨hhead, hrest⟩ := List.pairwise_cons.1 hs
    rcases List.mem_cons.1 hm with rfl | hm
    · simp [find?]
    · -- the key is another one than the first, being after it
      rw [find?, if_neg (String.ne_of_lt (hhead m hm)), ih hrest hm]

theorem find?_eq_some_iff {ms : Members} (hs : ms.Sorted) {key : String} {v : Json} :
    ms.find? key = some v ↔ (key, v) ∈ ms :=
  ⟨mem_of_find?, fun hm => find?_of_mem hs hm⟩

theorem Sorted.nodup {ms : Members} (hs : ms.Sorted) : ms.Nodup := by
  refine List.Pairwise.imp (fun {a b} hlt => ?_) hs
  rintro rfl
  exact String.lt_irrefl _ hlt

/-- **Members in order are what is found under their keys.** -/
theorem Sorted.ext {ms ms' : Members} (hs : ms.Sorted) (hs' : ms'.Sorted)
    (h : ∀ key, ms.find? key = ms'.find? key) : ms = ms' := by
  have hmem : ∀ m : String × Json, m ∈ ms ↔ m ∈ ms' := fun m => by
    rw [← find?_eq_some_iff hs, h, find?_eq_some_iff hs']
  have hperm := (List.perm_ext_iff_of_nodup hs.nodup hs'.nodup).2 hmem
  exact hperm.eq_of_pairwise (fun _ _ _ _ hlt hgt => absurd hgt (String.lt_asymm hlt)) hs hs'

end Members

end CloudOrchestration
