import CloudOrchestration.Document.Listing
import CloudOrchestration.Proofs.Json.Bytes
/-!
# Documents are read back

A value survives if what is written for it is read as that value; it nests no
deeper than a given depth. A document type is faithful if all of its values
survive. Lists and listings survive with their items; of an object it is enough
to look at its members.
-/

namespace CloudOrchestration

/-- **A value that is read back**, and the depth of what is written for it. -/
structure Document.Survives {α : Type} [Document α] (depth : Nat) (a : α) : Prop where
  writable : Json.Writable depth (encode a)
  decode_encode : decode (encode a) = some a

/-- **A document type whose values are read back**, and the depth of what is
written for them. -/
structure Document.Faithful (α : Type) [Document α] (depth : Nat) : Prop where
  writable (a : α) : Json.Writable depth (encode a)
  decode_encode (a : α) : decode (encode a) = some a

namespace Document

variable {α : Type} [Document α] {depth : Nat}

theorem Faithful.survives (h : Faithful α depth) (a : α) : Survives depth a :=
  ⟨h.writable a, h.decode_encode a⟩

theorem faithful_string : Faithful String 0 := ⟨fun s => .str s, fun _ => rfl⟩

/-- The items of a list are read one by one. -/
theorem decode_arr_map {β : Type} {f : β → Json} {g : β → α} {l : List β}
    (h : ∀ b ∈ l, decode (f b) = some (g b)) : decode (.arr (l.map f)) = some (l.map g) := by
  show (l.map f).mapM decode = some (l.map g)
  induction l with
  | nil => rfl
  | cons b l ih =>
    have hfirst : decode (f b) = some (g b) := h b List.mem_cons_self
    have hrest := ih fun b hb => h b (List.mem_cons_of_mem _ hb)
    simp [hfirst, hrest]

/-- A list is read back if its items are. -/
theorem survives_list {items : List α} (h : ∀ a ∈ items, Survives depth a) :
    Survives (depth + 1) items where
  writable := by
    refine .arr fun v hv => ?_
    obtain ⟨a, ha, rfl⟩ := List.mem_map.1 hv
    exact (h a ha).writable
  decode_encode := by
    show decode (.arr (items.map encode)) = some items
    simpa using decode_arr_map (g := id) fun a ha => (h a ha).decode_encode

theorem Faithful.list (h : Faithful α depth) : Faithful (List α) (depth + 1) where
  writable _ := (survives_list fun a _ => h.survives a).writable
  decode_encode _ := (survives_list fun a _ => h.survives a).decode_encode

/-! ## Objects -/

/-- The members of an object that is put together from entries. -/
def membersOf (entries : List (String × Option Json)) : Members :=
  Members.ofList (entries.filterMap fun entry => entry.2.map (entry.1, ·))

theorem fields?_object (entries : List (String × Option Json)) (keys : List String) (least : Nat) :
    (Json.object entries).fields? keys least = some (membersOf entries) := rfl

theorem find?_membersOf_nil (key : String) : (membersOf []).find? key = none := rfl

/-- Looking an entry up. -/
theorem find?_membersOf_cons (entry : String × Option Json)
    (entries : List (String × Option Json)) (key : String) :
    (membersOf (entry :: entries)).find? key =
      ((membersOf entries).find? key).or (if entry.1 = key then entry.2 else none) := by
  obtain ⟨k, v⟩ := entry
  cases v with
  | none => simp [membersOf]
  | some v => simp [membersOf, Members.find?_ofList_cons]

/-- An entry whose value, if there is one, can be read back. -/
def WritableEntry (depth : Nat) (entry : String × Option Json) : Prop :=
  ∀ v, entry.2 = some v → Json.Writable depth v

variable {depth' : Nat} {key : String}

theorem Survives.member {a : α} (h : Survives depth a) (hle : depth ≤ depth') :
    WritableEntry depth' (Document.member key a) := by
  rintro _ ⟨⟩
  exact h.writable.mono hle

theorem Faithful.member (h : Faithful α depth) (hle : depth ≤ depth') {a : α} :
    WritableEntry depth' (Document.member key a) := (h.survives a).member hle

theorem Faithful.memberIfSome (h : Faithful α depth) (hle : depth ≤ depth') {a : Option α} :
    WritableEntry depth' (memberIfSome key a) := by
  intro v hv
  obtain ⟨b, rfl, rfl⟩ := Option.map_eq_some_iff.1 hv
  exact (h.writable b).mono hle

/-- An object can be read back if its entries can. -/
theorem writable_object {entries : List (String × Option Json)}
    (h : ∀ entry ∈ entries, WritableEntry depth entry) :
    Json.Writable (depth + 1) (.object entries) := by
  refine .obj (fun m hm => ?_) (Members.sorted_ofList _)
  obtain ⟨entry, hentry, hvalue⟩ := List.mem_filterMap.1 (Members.mem_of_mem_ofList hm)
  obtain ⟨v, hv, rfl⟩ := Option.map_eq_some_iff.1 hvalue
  exact h entry hentry v hv

/-- A value that is not written as `null` is read back where it may be
absent. -/
theorem Faithful.decode_encode_some (h : Faithful α depth) {a : α} (ha : encode a ≠ .null) :
    (decode (encode a) : Option (Option α)) = some (some a) := by
  -- anything but null is read as a value that is there
  have hpresent : (decode (encode a) : Option (Option α)) = (decode (encode a)).map some := by
    generalize encode a = v at ha
    cases v with
    | null => exact absurd rfl ha
    | _ => rfl
  rw [hpresent, h.decode_encode]
  rfl

/-- A listing is read back if its items are. -/
theorem survives_listing {l : Listing key α} (h : ∀ a ∈ l.items, Survives depth a) :
    Survives (depth + 2) l where
  writable := writable_object (by simpa using (survives_list h).member (Nat.le_refl _))
  decode_encode := by
    unfold instDocumentListing
    simp [fields?_object, find?_membersOf_cons, find?_membersOf_nil, Document.member,
      Members.defaulted, (survives_list h).decode_encode]

theorem Faithful.listing (h : Faithful α depth) : Faithful (Listing key α) (depth + 2) where
  writable _ := (survives_listing fun a _ => h.survives a).writable
  decode_encode _ := (survives_listing fun a _ => h.survives a).decode_encode

theorem Survives.json_read {a : α} (h : Survives depth a) (hle : depth ≤ Json.maxDepth) :
    Wire.json.read (encode a).toBytes = .ok a :=
  Wire.json_read_toBytes (h.writable.mono hle) h.decode_encode

/-- **What survives is read from its bytes.** -/
theorem Survives.json {a : α} (h : Survives depth a) (hle : depth ≤ Json.maxDepth) :
    ∃ bytes, Wire.json.write a = .ok bytes ∧ Wire.json.read bytes = .ok a :=
  ⟨_, rfl, h.json_read hle⟩

end Document

/-- **A wire format that reads what it has written**, of all values that documents are
written as. -/
def Wire.Faithful (w : Wire) : Prop :=
  ∀ v bytes, Json.Writable Json.maxDepth v → w.encode v = .ok bytes → w.decode bytes = .ok v

theorem Wire.faithful_json : Wire.json.Faithful := by
  intro v bytes hv hbytes
  cases hbytes
  simp [Wire.json, Json.ofBytes?_toBytes hv]

/-- What survives is read from its bytes in any such format. -/
theorem Document.Survives.read_of_write {α : Type} [Document α] {depth : Nat} {a : α} {w : Wire}
    {bytes : ByteArray} (h : Survives depth a) (hle : depth ≤ Json.maxDepth) (hw : w.Faithful)
    (hwrite : w.write a = .ok bytes) : w.read bytes = .ok a := by
  have hdecode : w.decode bytes = .ok (encode a) := hw _ _ (h.writable.mono hle) hwrite
  simp [Wire.read, hdecode, h.decode_encode, bind, Except.bind]

end CloudOrchestration
