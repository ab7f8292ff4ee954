import CloudOrchestration.Document.Topology
import CloudOrchestration.Proofs.Document.Parts
import CloudOrchestration.Proofs.Json.Places
/-!
# What documents name

A document type names some of the places of a value, and reads nothing else.
Its outline says which (`Outline.at?`). What is written for what was read of a
value is therefore found at named places only, and what the value has at those is
written there again, but for a `null`, and for an array in place of an object: it is
read, but an object is written for it (`Document.Outlined`).

The property is put together from the parts of a type, as faithfulness is. It
says more: a faithful type may still forget what it does not name.
-/

namespace CloudOrchestration

open Json

/-- Which places a document type names. -/
inductive Outline where
  | text
  | list (item : Outline)
  | record (members : List (String × Outline))

namespace Outline

/-- **The outline of what is at a place**, if the place is named. -/
def at? : Outline → Place → Option Outline
  | o, [] => some o
  | list item, .item _ :: p => item.at? p
  | record members, .member key :: p => (members.find? (·.1 == key)).bind (·.2.at? p)
  | text, _ :: _ | list _, .member _ :: _ | record _, .item _ :: _ => none

/-- The keys of a record. -/
def keys : Outline → List String
  | record members => members.map (·.1)
  | text | list _ => []

/-- What may be written for an outline: no `null`, and an object for a record. -/
def Suits : Outline → Json → Prop
  | record _, x => ∃ ms, x = .obj ms
  | text, x | list _, x => x ≠ .null

/-- **What is at a place may be written there**: the place is named, and it suits
the outline of it. -/
def Fits (o : Outline) (p : Place) (x : Json) : Prop := ∃ part, o.at? p = some part ∧ part.Suits x

/-- **A value within an outline**: all that it has is written for the outline. -/
def Encloses (o : Outline) (w : Json) : Prop := ∀ p x, w.at? p = some x → o.Fits p x

/-- **What a value has of an outline** another shows at the same place. -/
def Carries (o : Outline) (v w : Json) : Prop :=
  ∀ p x, o.Fits p x → v.at? p = some x → w.Shows p x

variable {o item : Outline} {members : List (String × Outline)} {m : String × Outline}
variable {s : Step} {p : Place} {x y : Json}

theorem Suits.ne_null (h : o.Suits x) : x ≠ .null := by
  cases o with
  | text | list => exact h
  | record =>
    obtain ⟨ms, rfl⟩ := h
    exact nofun

theorem Fits.ne_null (h : o.Fits p x) : x ≠ .null := by
  obtain ⟨part, -, hsuits⟩ := h
  exact hsuits.ne_null

/-- Parts do not matter. -/
theorem Suits.of_shell (h : o.Suits y) (hshell : y.shell = x.shell) : o.Suits x := by
  cases o with
  | text | list =>
    rintro rfl
    exact h (eq_null_of_shell hshell)
  | record =>
    obtain ⟨ms, rfl⟩ := h
    cases x with
    | obj ms' => exact ⟨ms', rfl⟩
    | null | bool | int | float | str | arr => cases hshell

theorem Fits.of_shell (h : o.Fits p y) (hshell : y.shell = x.shell) : o.Fits p x :=
  h.imp fun _ hpart => ⟨hpart.1, hpart.2.of_shell hshell⟩

/-- At the outline's own place. -/
theorem fits_nil : o.Fits [] x ↔ o.Suits x := by simp [Fits, at?]

theorem fits_list : (list item).Fits (s :: p) x ↔ ∃ n, s = .item n ∧ item.Fits p x := by
  cases s <;> simp [Fits, at?]

theorem fits_record : (record members).Fits (s :: p) x ↔
    ∃ key m, s = .member key ∧ members.find? (·.1 == key) = some m ∧ m.2.Fits p x := by
  cases s with
  | item n => simp [Fits, at?]
  | member key =>
    constructor
    · rintro ⟨part, hpart, hsuits⟩
      obtain ⟨m, hm, hpart⟩ := Option.bind_eq_some_iff.1 hpart
      exact ⟨key, m, rfl, hm, part, hpart, hsuits⟩
    · rintro ⟨_, m, ⟨⟩, hm, part, hpart, hsuits⟩
      exact ⟨part, Option.bind_eq_some_iff.2 ⟨m, hm, hpart⟩, hsuits⟩

/-- A member whose key is no other's is found. -/
theorem find?_of_mem (hdistinct : (members.map (·.1)).Nodup) (hm : m ∈ members) :
    members.find? (·.1 == m.1) = some m := by
  induction members with
  | nil => cases hm
  | cons first rest ih =>
    rw [List.map_cons, List.nodup_cons] at hdistinct
    rcases List.mem_cons.1 hm with rfl | hm
    · simp
    · have hne : first.1 ≠ m.1 := fun heq => hdistinct.1 (heq ▸ List.mem_map_of_mem hm)
      rw [List.find?_cons_of_neg (by simpa using hne)]
      exact ih hdistinct.2 hm

theorem encloses_text (s : String) : text.Encloses (.str s) := by
  intro p x hx
  cases p with
  | nil =>
    cases hx
    exact fits_nil.2 nofun
  | cons s p => cases s <;> cases hx

theorem carries_text (s : String) : text.Carries (.str s) (.str s) := by
  intro p x _ hx
  exact ⟨x, hx, rfl⟩

theorem encloses_list {items : List Json} (h : ∀ x ∈ items, item.Encloses x) :
    (list item).Encloses (.arr items) := by
  intro p x hx
  cases p with
  | nil =>
    cases hx
    exact fits_nil.2 nofun
  | cons s p =>
    obtain ⟨y, hy, hrest⟩ := at?_cons_eq_some.1 hx
    cases s with
    | member key => cases hy
    | item n => exact fits_list.2 ⟨n, rfl, h y (List.mem_of_getElem? hy) p x hrest⟩

theorem carries_list {items items' : List Json}
    (h : ∀ (n : Nat) x, items[n]? = some x → ∃ y, items'[n]? = some y ∧ item.Carries x y) :
    (list item).Carries (.arr items) (.arr items') := by
  intro p x hfits hx
  cases p with
  | nil =>
    cases hx
    exact ⟨_, rfl, rfl⟩
  | cons s p =>
    obtain ⟨n, rfl, hfits⟩ := fits_list.1 hfits
    obtain ⟨y, hy, hx⟩ := at?_cons_eq_some.1 hx
    obtain ⟨z, hz, hcarries⟩ := h n y hy
    exact shows_cons hz (hcarries p x hfits hx)

end Outline

open Outline

namespace Document

variable {α : Type} [Document α] {o : Outline} {key : String}

/-- **A document type with an outline.** -/
structure Outlined (α : Type) [Document α] (o : Outline) : Prop where
  /-- What is written is found at named places. -/
  encloses (a : α) : o.Encloses (encode a)
  /-- What was read is written again, so far as it was as it is written. -/
  carries {v : Json} {a : α} (h : decode v = some a) : o.Carries v (encode a)

theorem outlined_string : Outlined String .text where
  encloses s := encloses_text s
  carries {v s} h := by
    cases v with
    | str s' =>
      cases h
      exact carries_text s
    | null | bool | int | float | arr | obj => cases h

/-! ## Lists and objects -/

theorem Outlined.list (h : Outlined α o) : Outlined (List α) (.list o) where
  encloses items := by
    refine encloses_list fun x hx => ?_
    obtain ⟨a, -, rfl⟩ := List.mem_map.1 hx
    exact h.encloses a
  carries {v items} hdecode := by
    obtain ⟨values, rfl, hitems⟩ := decode_list_eq_some hdecode
    refine carries_list fun n x hx => ?_
    obtain ⟨a, ha, hread⟩ := exists_getElem?_of_forall₂ hitems hx
    exact ⟨encode a, by simp [ha], h.carries hread⟩

/-- An entry of an object is written within an outline. -/
def Written (entry : String × Option Json) (m : String × Outline) : Prop :=
  entry.1 = m.1 ∧ ∀ x, entry.2 = some x → m.2.Encloses x

/-- An entry of an object is written for a member that was read. -/
def Kept (ms : Members) (entry : String × Option Json) (m : String × Outline) : Prop :=
  entry.1 = m.1 ∧
    ∀ x, ms.find? m.1 = some x → x ≠ .null → ∃ y, entry.2 = some y ∧ m.2.Carries x y

theorem Outlined.written_member (h : Outlined α o) {a : α} : Written (member key a) (key, o) := by
  refine ⟨rfl, ?_⟩
  rintro _ ⟨⟩
  exact h.encloses a

theorem Outlined.written_memberIfSome (h : Outlined α o) {a : Option α} :
    Written (memberIfSome key a) (key, o) := by
  refine ⟨rfl, fun x hx => ?_⟩
  obtain ⟨b, rfl, rfl⟩ := Option.map_eq_some_iff.1 hx
  exact h.encloses b

variable {ms : Members}

theorem Outlined.kept_required (h : Outlined α o) {a : α} (ha : ms.required key = some a) :
    Kept ms (member key a) (key, o) := by
  refine ⟨rfl, fun x hx _ => ⟨encode a, rfl, h.carries ?_⟩⟩
  rwa [Members.required_eq, hx] at ha

theorem Outlined.kept_defaulted (h : Outlined α o) {a fallback : α}
    (ha : ms.defaulted key fallback = some a) : Kept ms (member key a) (key, o) := by
  refine ⟨rfl, fun x hx _ => ⟨encode a, rfl, h.carries ?_⟩⟩
  rwa [Members.defaulted_eq, hx] at ha

/-- **An optional member** is kept unless it is `null`. -/
theorem Outlined.kept_optional (h : Outlined α o) {a : Option α}
    (ha : ms.optional key = some a) : Kept ms (memberIfSome key a) (key, o) := by
  refine ⟨rfl, fun x hx hnull => ?_⟩
  have hread : (decode x).map some = some a := by
    rw [Members.optional_eq, hx] at ha
    cases x with
    | null => exact absurd rfl hnull
    | bool | int | float | str | arr | obj => exact ha
  obtain ⟨b, hb, rfl⟩ := Option.map_eq_some_iff.1 hread
  exact ⟨encode b, rfl, h.carries hb⟩

variable {entries : List (String × Option Json)} {members : List (String × Outline)}

/-- What is found in an object was an entry of it. -/
theorem mem_of_find?_membersOf {x : Json} (h : (membersOf entries).find? key = some x) :
    (key, some x) ∈ entries := by
  induction entries with
  | nil => cases h
  | cons entry entries ih =>
    rw [find?_membersOf_cons, Option.or_eq_some_iff] at h
    obtain h | ⟨-, h⟩ := h
    · exact List.mem_cons_of_mem _ (ih h)
    · split at h
      next hkey =>
        subst hkey
        exact List.mem_cons.2 (.inl (Prod.ext rfl h.symm))
      next => cases h

/-- An entry whose key is no other's is found. -/
theorem find?_membersOf_of_mem {x : Json} (hdistinct : (entries.map (·.1)).Nodup)
    (h : (key, some x) ∈ entries) : (membersOf entries).find? key = some x := by
  induction entries with
  | nil => cases h
  | cons entry entries ih =>
    rw [List.map_cons, List.nodup_cons] at hdistinct
    obtain ⟨hfirst, hrest⟩ := hdistinct
    rw [find?_membersOf_cons]
    rcases List.mem_cons.1 h with rfl | h
    · have hnone : (membersOf entries).find? key = none := by
        rw [Option.eq_none_iff_forall_ne_some]
        intro y hy
        exact hfirst (List.mem_map.2 ⟨_, mem_of_find?_membersOf hy, rfl⟩)
      rw [hnone, if_pos rfl]
      rfl
    · rw [ih hrest h]
      rfl

/-- An object is within an outline if its entries are. -/
theorem encloses_object (hdistinct : (members.map (·.1)).Nodup)
    (h : List.Forall₂ Written entries members) : (record members).Encloses (.object entries) := by
  intro p x hx
  cases p with
  | nil =>
    cases hx
    exact fits_nil.2 ⟨_, rfl⟩
  | cons s p =>
    obtain ⟨y, hy, hrest⟩ := at?_cons_eq_some.1 hx
    cases s with
    | item n => cases hy
    | member key =>
      obtain ⟨n, hn⟩ := List.getElem?_of_mem (mem_of_find?_membersOf hy)
      obtain ⟨m, hm, rfl, hwritten⟩ := exists_getElem?_of_forall₂ h hn
      have hfind := find?_of_mem hdistinct (List.mem_of_getElem? hm)
      exact fits_record.2 ⟨_, m, rfl, hfind, hwritten y rfl p x hrest⟩

/-- **An object carries on a record that was read** if its entries do; of an array
nothing is at a place of the record. -/
theorem carries_object {v : Json} (hms : v.fields? (members.map (·.1)) = some ms)
    (hdistinct : (members.map (·.1)).Nodup) (h : List.Forall₂ (Kept ms) entries members) :
    (record members).Carries v (.object entries) := by
  have hkeys : entries.map (·.1) = members.map (·.1) :=
    map_fst_eq_of_forall₂ (h.imp fun _ _ hkept => hkept.1)
  intro p x hfits hx
  cases p with
  | nil =>
    cases hx
    obtain ⟨ms', rfl⟩ := fits_nil.1 hfits
    exact ⟨_, rfl, rfl⟩
  | cons s p =>
    obtain ⟨key, m, rfl, hfind, hpart⟩ := fits_record.1 hfits
    obtain ⟨y, hy, hrest⟩ := at?_cons_eq_some.1 hx
    obtain rfl | ⟨items, rfl, -⟩ := fields?_eq_some.1 hms
    · obtain rfl : m.1 = key := by simpa using List.find?_some hfind
      obtain ⟨n, hn⟩ := List.getElem?_of_mem (List.mem_of_find?_eq_some hfind)
      obtain ⟨entry, hentry, hkey, hkept⟩ := exists_getElem?_of_forall₂ h.flip hn
      obtain ⟨z, hz, hcarries⟩ := hkept y hy (ne_null_of_at? hrest hpart.ne_null)
      have hmem : (m.1, some z) ∈ entries := by
        rw [← hkey, ← hz]
        exact List.mem_of_getElem? hentry
      have hfound := find?_membersOf_of_mem (hkeys ▸ hdistinct) hmem
      exact shows_cons (s := .member m.1) hfound (hcarries p x hpart hrest)
    · cases hy

theorem Outlined.listing (h : Outlined α o) :
    Outlined (Listing key α) (.record [(key, .list o)]) where
  encloses _ := encloses_object (by simp) (.cons h.list.written_member .nil)
  carries {v l} hdecode := by
    simp only [decode, bind, pure, Option.bind_eq_some_iff, Option.some.injEq] at hdecode
    obtain ⟨ms, hms, items, hitems, rfl⟩ := hdecode
    exact carries_object hms (by simp) (.cons (h.list.kept_defaulted hitems) .nil)

end Document

/-! ## The topology -/

open Document

def DnsServer.outline : Outline := .record [("Name", .text), ("IpAddress", .text)]

theorem DnsServer.outlined : Outlined DnsServer outline where
  encloses s := encloses_object (by decide)
    (.cons outlined_string.written_member (.cons outlined_string.written_member .nil))
  carries {v s} h := by
    simp only [decode, bind, pure, Option.bind_eq_some_iff, Option.some.injEq] at h
    obtain ⟨ms, hms, name, hname, address, haddress, rfl⟩ := h
    exact carries_object hms (by decide)
      (.cons (outlined_string.kept_required hname)
        (.cons (outlined_string.kept_required haddress) .nil))

def AddressSpace.outline : Outline := .record [("AddressPrefixes", .list .text)]

theorem AddressSpace.outlined : Outlined AddressSpace outline := outlined_string.listing

def LocalSite.outline : Outline := .record [
  ("Name", .text),
  ("AddressSpace", AddressSpace.outline),
  ("VpnGatewayAddress", .text)]

theorem LocalSite.outlined : Outlined LocalSite outline where
  encloses s := encloses_object (by decide)
    (.cons outlined_string.written_member
      (.cons AddressSpace.outlined.written_member
        (.cons outlined_string.written_member .nil)))
  carries {v s} h := by
    simp only [decode, bind, pure, Option.bind_eq_some_iff, Option.some.injEq] at h
    obtain ⟨ms, hms, name, hname, space, hspace, address, haddress, rfl⟩ := h
    exact carries_object hms (by decide)
      (.cons (outlined_string.kept_required hname)
        (.cons (AddressSpace.outlined.kept_defaulted hspace)
          (.cons (outlined_string.kept_defaulted haddress) .nil)))

def Subnet.outline : Outline := .record [("Name", .text), ("AddressPrefix", .text)]

theorem Subnet.outlined : Outlined Subnet outline where
  encloses s := encloses_object (by decide)
    (.cons outlined_string.written_member (.cons outlined_string.written_member .nil))
  carries {v s} h := by
    simp only [decode, bind, pure, Option.bind_eq_some_iff, Option.some.injEq] at h
    obtain ⟨ms, hms, name, hname, addressPrefix, haddressPrefix, rfl⟩ := h
    exact carries_object hms (by decide)
      (.cons (outlined_string.kept_required hname)
        (.cons (outlined_string.kept_required haddressPrefix) .nil))

def Reference.outline : Outline := .record [("Name", .text)]

theorem Reference.outlined : Outlined Reference outline where
  encloses r := encloses_object (by decide) (.cons outlined_string.written_member .nil)
  carries {v r} h := by
    simp only [decode, bind, pure, Option.bind_eq_some_iff, Option.some.injEq] at h
    obtain ⟨ms, hms, name, hname, rfl⟩ := h
    exact carries_object hms (by decide) (.cons (outlined_string.kept_required hname) .nil)

def Gateway.outline : Outline :=
  .record [("ConnectionsToLocalNetwork", .list Reference.outline)]

theorem Gateway.outlined : Outlined Gateway outline := Reference.outlined.listing

def Site.outline : Outline := .record [
  ("Name", .text),
  ("AffinityGroup", .text),
  ("AddressSpace", AddressSpace.outline),
  ("Subnets", .list Subnet.outline),
  ("DnsServersRef", .list Reference.outline),
  ("Gateway", Gateway.outline)]

theorem Site.outlined : Outlined Site outline where
  encloses s := encloses_object (by decide)
    (.cons outlined_string.written_member
      (.cons outlined_string.written_member
        (.cons AddressSpace.outlined.written_member
          (.cons Subnet.outlined.list.written_member
            (.cons Reference.outlined.list.written_member
              (.cons Gateway.outlined.written_memberIfSome .nil))))))
  carries {v s} h := by
    simp only [decode, bind, pure, Option.bind_eq_some_iff, Option.some.injEq] at h
    obtain ⟨ms, hms, name, hname, group, hgroup, space, hspace, subnets, hsubnets, servers,
      hservers, gateway, hgateway, rfl⟩ := h
    exact carries_object hms (by decide)
      (.cons (outlined_string.kept_required hname)
        (.cons (outlined_string.kept_defaulted hgroup)
          (.cons (AddressSpace.outlined.kept_defaulted hspace)
            (.cons (Subnet.outlined.list.kept_defaulted hsubnets)
              (.cons (Reference.outlined.list.kept_defaulted hservers)
                (.cons (Gateway.outlined.kept_optional hgateway) .nil))))))

def Topology.outline : Outline := .record [
  ("Dns", .record [("DnsServers", .list DnsServer.outline)]),
  ("LocalNetworkSites", .list LocalSite.outline),
  ("VirtualNetworkSites", .list Site.outline)]

/-- **The topology has an outline.** -/
theorem Topology.outlined : Outlined Topology outline where
  encloses t := encloses_object (by decide)
    (.cons DnsServer.outlined.listing.written_member
      (.cons LocalSite.outlined.list.written_member
        (.cons Site.outlined.list.written_member .nil)))
  carries {v t} h := by
    simp only [decode, bind, pure, Option.bind_eq_some_iff, Option.some.injEq] at h
    obtain ⟨ms, hms, dns, hdns, localSites, hlocalSites, sites, hsites, rfl⟩ := h
    exact carries_object hms (by decide)
      (.cons (DnsServer.outlined.listing.kept_defaulted hdns)
        (.cons (LocalSite.outlined.list.kept_defaulted hlocalSites)
          (.cons (Site.outlined.list.kept_defaulted hsites) .nil)))

end CloudOrchestration
