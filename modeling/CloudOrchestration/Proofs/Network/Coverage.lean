import CloudOrchestration.Proofs.Document.Outlines
import CloudOrchestration.Proofs.Network.Additions
import CloudOrchestration.Proofs.Network.Calls
/-!
# What a rewrite of the topology keeps

A rewrite reads a value as a topology, changes that, and writes a value for what
it has made of it. Apart from what the call itself takes away (`NetworkCall.spared`)
it writes again what it has read, for a topology that was added to is written so
that it covers what it was. But it has read no more than the topology names. So
the new value has of the old one what is named, unless that was `null` or an
array in place of an object, and nothing else (`NetworkCall.rewrites_of_decode`).
-/

namespace CloudOrchestration

open Json Document

variable {α : Type} [Document α] {key : String}

/-! ## Documents that cover others -/

namespace Document

/-- A list that was added to covers what it was, if its first items cover those
that were there. -/
theorem covers_list {items items' added : List α}
    (h : List.Forall₂ (fun a a' => (encode a').Covers (encode a)) items items') :
    (encode (items' ++ added)).Covers (encode items) := by
  refine covers_arr fun n x hx => ?_
  obtain ⟨a, ha, rfl⟩ : ∃ a, items[n]? = some a ∧ encode a = x := by simpa using hx
  obtain ⟨a', ha', hcovers⟩ := exists_getElem?_of_forall₂ h ha
  have hlt : n < items'.length := (List.getElem?_eq_some_iff.1 ha').1
  have hthere : ((items' ++ added).map encode)[n]? = some (encode a') := by
    rw [List.getElem?_map, List.getElem?_append_left hlt, ha']
    rfl
  exact ⟨encode a', hthere, hcovers⟩

/-- An entry of an object covers another. -/
def CoversEntry (entry entry' : String × Option Json) : Prop :=
  entry'.1 = entry.1 ∧ ∀ x, entry.2 = some x → ∃ y, entry'.2 = some y ∧ y.Covers x

theorem coversEntry_member {a a' : α} (h : (encode a').Covers (encode a)) :
    CoversEntry (member key a) (member key a') := by
  refine ⟨rfl, ?_⟩
  rintro _ ⟨⟩
  exact ⟨_, rfl, h⟩

theorem coversEntry_memberIfSome {a a' : Option α}
    (h : ∀ b, a = some b → ∃ b', a' = some b' ∧ (encode b').Covers (encode b)) :
    CoversEntry (memberIfSome key a) (memberIfSome key a') := by
  refine ⟨rfl, fun x hx => ?_⟩
  obtain ⟨b, hb, rfl⟩ := Option.map_eq_some_iff.1 hx
  obtain ⟨b', rfl, hcovers⟩ := h b hb
  exact ⟨encode b', rfl, hcovers⟩

/-- An object covers another if its entries do. -/
theorem covers_object {entries entries' : List (String × Option Json)}
    (hdistinct : (entries.map (·.1)).Nodup) (h : List.Forall₂ CoversEntry entries entries') :
    (Json.object entries').Covers (.object entries) := by
  have hkeys : entries.map (·.1) = entries'.map (·.1) :=
    map_fst_eq_of_forall₂ (h.imp fun _ _ hcovers => hcovers.1.symm)
  refine covers_obj fun key x hx => ?_
  obtain ⟨n, hn⟩ := List.getElem?_of_mem (mem_of_find?_membersOf hx)
  obtain ⟨⟨key', y?⟩, hn', rfl, hcovers⟩ := exists_getElem?_of_forall₂ h hn
  obtain ⟨y, rfl, hy⟩ := hcovers x rfl
  exact ⟨y, find?_membersOf_of_mem (hkeys ▸ hdistinct) (List.mem_of_getElem? hn'), hy⟩

theorem covers_listing {l l' : Listing key α} (h : (encode l'.items).Covers (encode l.items)) :
    (encode l').Covers (encode l) :=
  covers_object (by simp [member]) (.cons (coversEntry_member h) .nil)

end Document

/-! ## Topologies that were added to -/

/-- Every item covers itself. -/
theorem forall₂_covers_refl (items : List α) :
    List.Forall₂ (fun a a' : α => (encode a').Covers (encode a)) items items :=
  List.forall₂_same.2 fun _ _ => covers_refl _

theorem Grows.covers {name : α → String} {new items items' : List α}
    (h : Grows name new items items') : (encode items').Covers (encode items) := by
  obtain ⟨added, rfl, -⟩ := h
  exact covers_list (forall₂_covers_refl items)

/-- A site covers another if all of its parts do. -/
theorem Site.covers {s s' : Site} (hname : s'.name = s.name)
    (hgroup : s'.affinityGroup = s.affinityGroup) (hspace : s'.addressSpace = s.addressSpace)
    (hsubnets : (encode s'.subnets).Covers (encode s.subnets))
    (hservers : (encode s'.dnsServers).Covers (encode s.dnsServers))
    (hgateway : ∀ g, s.gateway = some g →
      ∃ g', s'.gateway = some g' ∧ (encode g').Covers (encode g)) :
    (encode s').Covers (encode s) := by
  refine covers_object (by simp [member, memberIfSome]) (.cons ?_ (.cons ?_ (.cons ?_
    (.cons ?_ (.cons ?_ (.cons ?_ .nil))))))
  · exact coversEntry_member (hname ▸ covers_refl _)
  · exact coversEntry_member (hgroup ▸ covers_refl _)
  · exact coversEntry_member (hspace ▸ covers_refl _)
  · exact coversEntry_member hsubnets
  · exact coversEntry_member hservers
  · exact coversEntry_memberIfSome hgateway

/-- A topology covers another if all of its parts do. -/
theorem Topology.covers {t t' : Topology} (hdns : (encode t'.dns).Covers (encode t.dns))
    (hlocal : (encode t'.localSites).Covers (encode t.localSites))
    (hsites : (encode t'.sites).Covers (encode t.sites)) : (encode t').Covers (encode t) :=
  covers_object (by simp [member]) (.cons (coversEntry_member hdns) (.cons (coversEntry_member hlocal)
    (.cons (coversEntry_member hsites) .nil)))

namespace Delta

variable {d : Delta} {s s' : Site} {t t' : Topology}

theorem ExtendsSite.covers (h : d.ExtendsSite s s') : (encode s').Covers (encode s) := by
  refine Site.covers h.name h.affinityGroup h.addressSpace h.subnets.covers h.dnsServers.covers
    fun g hg => ?_
  have hthere : s'.gateway.isSome := by simp [h.gateway, hg]
  obtain ⟨g', hg'⟩ := Option.isSome_iff_exists.1 hthere
  have hconnections := h.connections.covers
  simp only [Site.connections, hg, hg', Option.map_some, Option.getD_some] at hconnections
  exact ⟨g', hg', covers_listing hconnections⟩

/-- **A topology that was extended covers what it was.** -/
theorem Extends.covers (h : d.Extends t t') : (encode t').Covers (encode t) := by
  refine Topology.covers (covers_listing h.dnsServers.covers) h.localSites.covers ?_
  obtain ⟨before, s, s', after, hsites, hsites', -, -, hextends⟩ := h.sites
  rw [hsites']
  obtain hsites | ⟨hsites, -, rfl⟩ := hsites
  · rw [hsites, ← List.append_nil (before ++ s' :: after)]
    exact covers_list (List.rel_append (forall₂_covers_refl before)
      (.cons hextends.covers (forall₂_covers_refl after)))
  · rw [hsites]
    exact covers_list (forall₂_covers_refl before)

end Delta

namespace Topology

theorem forall₂_modifyFirst {β : Type} {R : β → β → Prop} (hrefl : ∀ b, R b b) {p : β → Bool}
    {f : β → β} (hf : ∀ b, R b (f b)) (l : List β) : List.Forall₂ R l (modifyFirst p f l) := by
  induction l with
  | nil => exact .nil
  | cons b l ih =>
    unfold modifyFirst
    split
    · exact .cons (hf b) (List.forall₂_same.2 fun b _ => hrefl b)
    · exact .cons (hrefl b) ih

/-- A subnet is added to what is there. -/
theorem covers_addSubnet (t : Topology) (site : String) (subnet : Subnet) :
    (encode (t.addSubnet site subnet)).Covers (encode t) := by
  refine covers (covers_refl _) (covers_refl _) ?_
  rw [addSubnet, modifySite, ← List.append_nil (modifyFirst _ _ _)]
  refine covers_list (forall₂_modifyFirst (R := fun s s' : Site => (encode s').Covers (encode s))
    (fun _ => covers_refl _) (fun s => ?_) t.sites)
  exact Site.covers rfl rfl rfl (covers_list (forall₂_covers_refl _)) (covers_refl _)
    fun g hg => ⟨g, hg, covers_refl _⟩

end Topology

/-! ## What a call takes away -/

namespace Json

/-- Members with those of a key changed. -/
def changeAt (key : String) (f : Json → Json) (ms : Members) : Members :=
  ms.map fun m => if m.1 = key then (m.1, f m.2) else m

/-- A record with the member of a key changed; `keys` are those of the record. -/
def mapMember (keys : List String) (key : String) (f : Json → Json) : Json → Json
  | obj ms => obj (changeAt key f ms)
  | arr items => arr (List.zipWith (fun k x => if k = key then f x else x) keys items)
  | null => null
  | bool b => bool b
  | int n => int n
  | float x => float x
  | str s => str s

/-- A value with its items changed. -/
def mapItems (f : List Json → List Json) : Json → Json
  | arr items => arr (f items)
  | null => null
  | bool b => bool b
  | int n => int n
  | float x => float x
  | str s => str s
  | obj ms => obj ms

/-- Whether a value is a record of a name. -/
def isNamed (keys : List String) (name : String) (v : Json) : Bool :=
  match (v.fields? keys).bind (·.find? "Name") with
  | some (.str name') => name' == name
  | _ => false

end Json

/-- **What of the topology a call leaves alone**: all of it, but for the subnets
and the sites that it takes away. -/
def NetworkCall.spared : NetworkCall → Json → Json
  | merge _ | ensureSite _ _ _ | addSubnet _ _ _ => id
  | removeSubnet site subnet =>
    mapMember Topology.outline.keys "VirtualNetworkSites" <| mapItems <|
      Topology.modifyFirst (isNamed Site.outline.keys site) <|
        mapMember Site.outline.keys "Subnets" <| mapItems <|
          List.filter fun x => !isNamed Subnet.outline.keys subnet x
  | deleteSite site =>
    mapMember Topology.outline.keys "VirtualNetworkSites" <| mapItems <|
      List.filter fun x => !isNamed Site.outline.keys site x

/-- A change of values is read as one of documents. -/
def ReadsAs (f : Json → Json) (g : α → α) : Prop :=
  ∀ x a, decode x = some a → decode (f x) = some (g a)

theorem find?_changeAt (ms : Members) (key : String) (f : Json → Json) (key' : String) :
    (changeAt key f ms).find? key' =
      if key = key' then (ms.find? key').map f else ms.find? key' := by
  induction ms with
  | nil => simp [changeAt]
  | cons m ms ih =>
    obtain ⟨k, v⟩ := m
    rw [changeAt] at ih
    by_cases hk : k = key'
    · subst hk
      by_cases hkey : k = key
      · simp [changeAt, Members.find?, hkey]
      · simp [changeAt, Members.find?, hkey, Ne.symm hkey]
    · by_cases hkey : k = key
      · subst hkey
        simp [changeAt, Members.find?, ih, hk]
      · simp [changeAt, Members.find?, hk, hkey, ih]

theorem zip_zipWith_eq_changeAt (f : Json → Json) (keys : List String) (items : List Json) :
    keys.zip (List.zipWith (fun k x => if k = key then f x else x) keys items) =
      changeAt key f (keys.zip items) := by
  induction keys generalizing items with
  | nil => rfl
  | cons k keys ih =>
    cases items with
    | nil => rfl
    | cons x items =>
      have hrest := ih items
      rw [changeAt] at hrest ⊢
      rw [List.zipWith_cons_cons, List.zip_cons_cons, List.zip_cons_cons, List.map_cons, hrest]
      split <;> rfl

/-- **A record with a member changed is read as its members with that changed.** -/
theorem fields?_mapMember {keys : List String} {v : Json} {ms : Members} {f : Json → Json}
    (h : v.fields? keys = some ms) :
    (mapMember keys key f v).fields? keys = some (changeAt key f ms) := by
  obtain rfl | ⟨items, rfl, -, -, rfl⟩ := fields?_eq_some.1 h
  · rfl
  · refine fields?_eq_some.2 (.inr ⟨_, rfl, Nat.zero_le _, ?_, zip_zipWith_eq_changeAt _ _ _⟩)
    rw [List.length_zipWith]
    exact Nat.min_le_left _ _

section

variable {ms : Members} {f : Json → Json} {g : α → α} {key' : String}

theorem defaulted_changeAt (h : ReadsAs f g) {a fallback : α} (hfallback : g fallback = fallback)
    (ha : ms.defaulted key fallback = some a) :
    (changeAt key f ms).defaulted key fallback = some (g a) := by
  rw [Members.defaulted_eq] at ha ⊢
  rw [find?_changeAt, if_pos rfl]
  cases hfind : ms.find? key with
  | none =>
    rw [hfind] at ha
    cases ha
    exact congrArg some hfallback.symm
  | some x =>
    rw [hfind] at ha
    exact h x a ha

theorem required_changeAt (hkey : key ≠ key') :
    ((changeAt key f ms).required key' : Option α) = ms.required key' := by
  rw [Members.required_eq, Members.required_eq, find?_changeAt, if_neg hkey]

theorem defaulted_changeAt_ne (hkey : key ≠ key') (fallback : α) :
    (changeAt key f ms).defaulted key' fallback = ms.defaulted key' fallback := by
  rw [Members.defaulted_eq, Members.defaulted_eq, find?_changeAt, if_neg hkey]

end

/-- Items that are kept for what they are read as. -/
theorem readsAs_filter {p : Json → Bool} {q : α → Bool}
    (hpq : ∀ x a, decode x = some a → p x = q a) :
    ReadsAs (mapItems (List.filter p)) (List.filter q) := by
  intro v items hitems
  obtain ⟨values, rfl, h⟩ := decode_list_eq_some hitems
  refine decode_arr_eq_some (List.rel_filter ?_ h)
  intro x a hxa
  exact iff_of_eq (congrArg (· = true) (hpq x a hxa))

/-- The first item that is changed for what it is read as. -/
theorem readsAs_modifyFirst {p : Json → Bool} {q : α → Bool} {f : Json → Json} {g : α → α}
    (hpq : ∀ x a, decode x = some a → p x = q a) (hfg : ReadsAs f g) :
    ReadsAs (mapItems (Topology.modifyFirst p f)) (Topology.modifyFirst q g) := by
  intro v items hitems
  obtain ⟨values, rfl, h⟩ := decode_list_eq_some hitems
  refine decode_arr_eq_some ?_
  clear hitems
  induction h with
  | nil => exact .nil
  | @cons x a _ _ hxa hrest ih =>
    unfold Topology.modifyFirst
    rw [hpq x a hxa]
    split
    · exact .cons (hfg x a hxa) hrest
    · exact .cons hxa ih

/-- The name that a document is read with is the one that the value has. -/
theorem isNamed_of_fields? {keys : List String} {v : Json} {ms : Members} {name name' : String}
    (hms : v.fields? keys = some ms) (h : ms.required "Name" = some name') :
    isNamed keys name v = (name' == name) := by
  rw [Members.required_eq] at h
  obtain ⟨x, hx, hread⟩ := Option.bind_eq_some_iff.1 h
  cases x with
  | str s =>
    cases hread
    simp [isNamed, hms, hx]
  | null | bool | int | float | arr | obj => cases hread

theorem Subnet.isNamed_eq {name : String} (x : Json) (n : Subnet) (h : decode x = some n) :
    isNamed outline.keys name x = (n.name == name) := by
  simp only [decode, bind, pure, Option.bind_eq_some_iff, Option.some.injEq] at h
  obtain ⟨ms, hms, name', hname, addressPrefix, -, rfl⟩ := h
  exact isNamed_of_fields? hms hname

theorem Site.isNamed_eq {name : String} (x : Json) (s : Site) (h : decode x = some s) :
    isNamed outline.keys name x = (s.name == name) := by
  simp only [decode, bind, pure, Option.bind_eq_some_iff, Option.some.injEq] at h
  obtain ⟨ms, hms, name', hname, group, -, space, -, subnets, -, servers, -, gateway, -, rfl⟩ := h
  exact isNamed_of_fields? hms hname

/-- The subnets of a site are changed for what they are read as. -/
theorem Site.readsAs_mapMember {f : Json → Json} {g : List Subnet → List Subnet}
    (h : ReadsAs f g) (hnil : g [] = []) :
    ReadsAs (mapMember outline.keys "Subnets" f) fun s : Site => { s with subnets := g s.subnets } := by
  intro x s hs
  simp only [decode, bind, pure, Option.bind_eq_some_iff, Option.some.injEq] at hs ⊢
  obtain ⟨ms, hms, name, hname, group, hgroup, space, hspace, subnets, hsubnets, servers, hservers,
    gateway, hgateway, rfl⟩ := hs
  exact ⟨changeAt "Subnets" f ms, fields?_mapMember hms, name, by rwa [required_changeAt (by decide)],
    group, by rwa [defaulted_changeAt_ne (by decide)],
    space, by rwa [defaulted_changeAt_ne (by decide)],
    g subnets, defaulted_changeAt h hnil hsubnets,
    servers, by rwa [defaulted_changeAt_ne (by decide)],
    gateway, by rwa [Members.optional, defaulted_changeAt_ne (by decide)], rfl⟩

/-- The sites of a topology are changed for what they are read as. -/
theorem Topology.readsAs_mapMember {f : Json → Json} {g : List Site → List Site}
    (h : ReadsAs f g) (hnil : g [] = []) :
    ReadsAs (mapMember outline.keys "VirtualNetworkSites" f) fun t : Topology =>
      { t with sites := g t.sites } := by
  intro x t ht
  simp only [decode, bind, pure, Option.bind_eq_some_iff, Option.some.injEq] at ht ⊢
  obtain ⟨ms, hms, dns, hdns, localSites, hlocalSites, sites, hsites, rfl⟩ := ht
  exact ⟨changeAt "VirtualNetworkSites" f ms, fields?_mapMember hms,
    dns, by rwa [defaulted_changeAt_ne (by decide)],
    localSites, by rwa [defaulted_changeAt_ne (by decide)],
    g sites, defaulted_changeAt h hnil hsites, rfl⟩

theorem readsAs_removeSubnet (site subnet : String) :
    ReadsAs (NetworkCall.removeSubnet site subnet).spared fun t : Topology =>
      t.removeSubnet site subnet :=
  Topology.readsAs_mapMember (readsAs_modifyFirst Site.isNamed_eq
    (Site.readsAs_mapMember (readsAs_filter fun x n hn => by rw [Subnet.isNamed_eq x n hn]; rfl)
      rfl)) rfl

theorem readsAs_removeSite (site : String) :
    ReadsAs (NetworkCall.deleteSite site).spared fun t : Topology => t.removeSite site :=
  Topology.readsAs_mapMember (readsAs_filter fun x s hs => by rw [Site.isNamed_eq x s hs]; rfl) rfl

namespace NetworkCall

/-- **What a call leaves alone is read as a topology**, and what the call makes
of the whole covers it. -/
theorem exists_spared (call : NetworkCall) {v : Json} {t : Topology} (h : decode v = some t) :
    ∃ t₀ : Topology, decode (call.spared v) = some t₀ ∧
      (encode (call.transform t)).Covers (encode t₀) := by
  cases call with
  | merge delta => exact ⟨t, h, Delta.extends_into.covers⟩
  | ensureSite name affinityGroup addressSpace => exact ⟨t, h, Delta.extends_into.covers⟩
  | addSubnet site subnet addressPrefix => exact ⟨t, h, t.covers_addSubnet _ _⟩
  | removeSubnet site subnet => exact ⟨_, readsAs_removeSubnet site subnet v t h, covers_refl _⟩
  | deleteSite site => exact ⟨_, readsAs_removeSite site v t h, covers_refl _⟩

/-- **How a call rewrites a value**: what it leaves alone is found in the new
value at the places that the topology names, unless it was `null` or an array in
place of an object, and only there. -/
def Rewrites (call : NetworkCall) (v w : Json) : Prop :=
  ∀ p x, (call.spared v).at? p = some x → (w.Shows p x ↔ Topology.outline.Fits p x)

/-- **A value that is read as a topology is rewritten so.** -/
theorem rewrites_of_decode (call : NetworkCall) {v : Json} {t : Topology} (h : decode v = some t) :
    call.Rewrites v (encode (call.transform t)) := by
  obtain ⟨t₀, ht₀, hcovers⟩ := call.exists_spared h
  intro p x hx
  constructor
  · rintro ⟨y, hy, hshell⟩
    exact (Topology.outlined.encloses _ p y hy).of_shell hshell
  · intro hfits
    exact (Topology.outlined.carries ht₀ p x hfits hx).covers hcovers

end NetworkCall

end CloudOrchestration
