import CloudOrchestration.Network.Merge
/-!
# What a merge adds

A merge adds at the end of a list what is missing there by name, and nothing
else (`Grows`). So of the lists of a topology each keeps what it had in its
place, of the sites only the first of the name is touched, and what the change
asks for is there afterwards (`Delta.Extends`).
-/

namespace CloudOrchestration

variable {α β : Type}

/-! ## Lists that grow -/

/-- **What some items add to a list**: those that are missing there by name, each
name once. -/
structure Supplement (name : α → String) (new items added : List α) : Prop where
  offered : ∀ a ∈ added, a ∈ new
  fresh : ∀ a ∈ added, name a ∉ items.map name
  once : (added.map name).Nodup
  complete : ∀ a ∈ new, name a ∈ (items ++ added).map name

/-- **A list that has grown** by what was missing in it, at its end. -/
def Grows (name : α → String) (new items items' : List α) : Prop :=
  ∃ added, items' = items ++ added ∧ Supplement name new items added

namespace Grows

variable {name : α → String} {new new' items items' items'' : List α}

theorem same (h : ∀ a ∈ new, name a ∈ items.map name) : Grows name new items items :=
  ⟨[], by simp, by simp, by simp, by simp, by simpa using h⟩

/-- One growth after another. -/
theorem trans (h : Grows name new items items') (h' : Grows name new' items' items'') :
    Grows name (new ++ new') items items'' := by
  obtain ⟨added, rfl, hadded⟩ := h
  obtain ⟨later, rfl, hlater⟩ := h'
  refine ⟨added ++ later, List.append_assoc .., ?_, ?_, ?_, ?_⟩
  · intro a ha
    rcases List.mem_append.1 ha with ha | ha
    · exact List.mem_append_left _ (hadded.offered a ha)
    · exact List.mem_append_right _ (hlater.offered a ha)
  · intro a ha
    rcases List.mem_append.1 ha with ha | ha
    · exact hadded.fresh a ha
    · exact fun hmem => hlater.fresh a ha (by simp [hmem])
  · rw [List.map_append]
    refine List.nodup_append.2 ⟨hadded.once, hlater.once, ?_⟩
    -- what comes later has a name that was not added before
    rintro _ hn _ hn' rfl
    obtain ⟨a, ha, heq⟩ := List.mem_map.1 hn'
    exact hlater.fresh a ha (by rw [heq, List.map_append]; exact List.mem_append_right _ hn)
  · intro a ha
    rw [← List.append_assoc, List.map_append]
    rcases List.mem_append.1 ha with ha | ha
    · exact List.mem_append_left _ (hadded.complete a ha)
    · simpa using hlater.complete a ha

/-- **The names are those of both.** -/
theorem mem_names (h : Grows name new items items') {n : String} :
    n ∈ items'.map name ↔ n ∈ items.map name ∨ n ∈ new.map name := by
  obtain ⟨added, rfl, hadded⟩ := h
  constructor
  · rw [List.map_append, List.mem_append]
    refine Or.imp_right fun hn => ?_
    obtain ⟨a, ha, rfl⟩ := List.mem_map.1 hn
    exact List.mem_map_of_mem (hadded.offered a ha)
  · rintro (hn | hn)
    · rw [List.map_append]
      exact List.mem_append_left _ hn
    · obtain ⟨a, ha, rfl⟩ := List.mem_map.1 hn
      exact hadded.complete a ha

/-- **Distinct names stay distinct.** -/
theorem nodup (h : Grows name new items items') (hitems : (items.map name).Nodup) :
    (items'.map name).Nodup := by
  obtain ⟨added, rfl, hadded⟩ := h
  rw [List.map_append]
  refine List.nodup_append.2 ⟨hitems, hadded.once, ?_⟩
  rintro _ hn _ hn' rfl
  obtain ⟨a, ha, rfl⟩ := List.mem_map.1 hn'
  exact hadded.fresh a ha hn

end Grows

/-! ## Merges into lists -/

namespace Merged

variable {name : α → String} {a : α} {new items : List α}

@[simp] theorem same_andThen (f : α → Merged β) : (same a).andThen f = f a := by
  simp [andThen, same]

@[simp] theorem same_within (whole : α → β) : (same a).within whole = same (whole a) := rfl

theorem andThen_assoc {γ : Type} (m : Merged α) (f : α → Merged β) (g : β → Merged γ) :
    (m.andThen f).andThen g = m.andThen fun a => (f a).andThen g := by
  simp [andThen, Bool.or_assoc]

@[simp] theorem addAll_nil : addAll name [] items = same items := rfl

theorem foldl_andThen (m : Merged (List α)) :
    new.foldl (fun m a => m.andThen (add name a)) m = m.andThen (addAll name new) := by
  induction new generalizing m with
  | nil => simp [andThen, same]
  | cons a new ih =>
    have hcons : ∀ items,
        addAll name (a :: new) items = (add name a items).andThen (addAll name new) := by
      intro items
      rw [addAll, List.foldl_cons, same_andThen, ih]
    rw [List.foldl_cons, ih, andThen_assoc]
    congr 1
    funext items
    exact (hcons items).symm

theorem addAll_cons :
    addAll name (a :: new) items = (add name a items).andThen (addAll name new) := by
  rw [addAll, List.foldl_cons, same_andThen, foldl_andThen]

/-- What is there by name is not added. -/
theorem add_eq_same (h : name a ∈ items.map name) : add name a items = same items := by
  have hany : items.any (name · == name a) = true := by
    obtain ⟨b, hb, heq⟩ := List.mem_map.1 h
    exact List.any_eq_true.2 ⟨b, hb, by simpa using heq⟩
  rw [add, if_pos hany]

theorem add_of_not_mem (h : name a ∉ items.map name) : add name a items = ⟨items ++ [a], true⟩ := by
  have hany : ¬ items.any (name · == name a) = true := by
    intro hany
    obtain ⟨b, hb, heq⟩ := List.any_eq_true.1 hany
    exact h (List.mem_map.2 ⟨b, hb, by simpa using heq⟩)
  rw [add, if_neg hany]

theorem addAll_eq_same (h : ∀ a ∈ new, name a ∈ items.map name) :
    addAll name new items = same items := by
  induction new with
  | nil => rfl
  | cons a new ih =>
    rw [addAll_cons, add_eq_same (h a (by simp)), same_andThen]
    exact ih fun b hb => h b (by simp [hb])

theorem grows_add : Grows name [a] items (add name a items).value := by
  by_cases h : name a ∈ items.map name
  · rw [add_eq_same h]
    exact .same (by simpa using h)
  · rw [add_of_not_mem h]
    exact ⟨[a], rfl, by simp, by simpa using h, by simp, by simp⟩

/-- **A merge into a list lets it grow.** -/
theorem grows_addAll : Grows name new items (addAll name new items).value := by
  induction new generalizing items with
  | nil => exact .same (by simp)
  | cons a new ih =>
    rw [addAll_cons]
    exact grows_add.trans ih

/-! ## The first item that a test accepts -/

variable {p q : α → Bool} {f : α → Merged α}

/-- The first item is merged into where it is, and the others are left
alone. -/
theorem first_eq (h : ∃ a ∈ items, p a) :
    ∃ before a after, items = before ++ a :: after ∧ (∀ b ∈ before, p b = false) ∧ p a ∧
      first p f items = (f a).within fun a => before ++ a :: after := by
  induction items with
  | nil => simp at h
  | cons b items ih =>
    cases hb : p b with
    | true => exact ⟨[], b, items, rfl, by simp, hb, by simp [first, hb]⟩
    | false =>
      obtain ⟨before, a, after, rfl, hbefore, ha, hfirst⟩ := ih (by simpa [hb] using h)
      refine ⟨b :: before, a, after, rfl, by simpa [hb] using hbefore, ha, ?_⟩
      rw [first, hb, if_neg Bool.false_ne_true, hfirst]
      rfl

/-- Where there is none, the first is the one put at the end. -/
theorem first_append_one (h : ∀ b ∈ items, p b = false) (ha : p a) :
    first p f (items ++ [a]) = (f a).within fun a => items ++ [a] := by
  induction items with
  | nil => simp [first, ha]
  | cons b items ih =>
    rw [List.cons_append, first, h b (by simp), if_neg Bool.false_ne_true,
      ih fun c hc => h c (by simp [hc])]
    rfl

end Merged

/-! ## Sites -/

namespace Site

/-- The local sites that the gateway of a site connects to; none without a
gateway. -/
def connections (s : Site) : List Reference := (s.gateway.map (·.items)).getD []

end Site

namespace Delta

/-- The local sites that a change asks for. -/
def localSites (d : Delta) : List LocalSite := (d.vpn.map (·.localSite)).toList

/-- The subnets that a change asks for, that of a gateway among them. -/
def siteSubnets (d : Delta) : List Subnet :=
  d.subnets ++ (d.vpn.map fun v => ⟨gatewaySubnet, v.gatewayPrefix⟩).toList

/-- The mentions of DNS servers that a change asks for. -/
def references (d : Delta) : List Reference := d.dnsServers.map (⟨·.name⟩)

/-- The connections that a change asks for. -/
def connections (d : Delta) : List Reference := (d.vpn.map fun v => ⟨v.localSite.name⟩).toList

/-- **A site that a change has extended**: what it is stays, and its lists grow
by what the change asks for. -/
structure ExtendsSite (d : Delta) (s s' : Site) : Prop where
  name : s'.name = s.name
  affinityGroup : s'.affinityGroup = s.affinityGroup
  addressSpace : s'.addressSpace = s.addressSpace
  subnets : Grows Subnet.name d.siteSubnets s.subnets s'.subnets
  dnsServers : Grows Reference.name d.references s.dnsServers s'.dnsServers
  gateway : s'.gateway.isSome = (s.gateway.isSome || d.vpn.isSome)
  connections : Grows Reference.name d.connections s.connections s'.connections

/-- **A topology that a change has extended.** Of the sites only the first of
the name is another than before; if there was none it was put at the end. -/
structure Extends (d : Delta) (t t' : Topology) : Prop where
  dnsServers : Grows DnsServer.name d.dnsServers t.dns.items t'.dns.items
  localSites : Grows LocalSite.name d.localSites t.localSites t'.localSites
  sites : ∃ before s s' after,
    (t.sites = before ++ s :: after ∨ t.sites = before ∧ s = d.newSite ∧ after = []) ∧
    t'.sites = before ++ s' :: after ∧
    (∀ x ∈ before, x.name ≠ d.site) ∧ s.name = d.site ∧ d.ExtendsSite s s'

variable {d : Delta} {s : Site} {t : Topology}

/-- The gateway is put there if there is none, and its list grows. -/
theorem grows_connections (v : Vpn) (gateway : Option Gateway) :
    ∃ g, (v.intoGateway gateway).value = some g ∧
      Grows Reference.name [⟨v.localSite.name⟩] ((gateway.map (·.items)).getD []) g.items := by
  cases gateway <;> exact ⟨_, rfl, Merged.grows_add⟩

/-- **A site is extended.** -/
theorem extends_intoSite : d.ExtendsSite s (d.intoSite s).value := by
  have hsubnets : Grows Subnet.name d.subnets s.subnets
      (Merged.addAll Subnet.name d.subnets s.subnets).value := Merged.grows_addAll
  have hreferences : Grows Reference.name d.references s.dnsServers
      (Merged.addAll Reference.name d.references s.dnsServers).value := Merged.grows_addAll
  cases hvpn : d.vpn with
  | none =>
    have hvalue : (d.intoSite s).value =
        { s with
          subnets := (Merged.addAll Subnet.name d.subnets s.subnets).value
          dnsServers := (Merged.addAll Reference.name d.references s.dnsServers).value } := by
      simp only [intoSite, hvpn]
      rfl
    rw [hvalue]
    exact {
      name := rfl
      affinityGroup := rfl
      addressSpace := rfl
      subnets := by simpa [siteSubnets, hvpn] using hsubnets
      dnsServers := hreferences
      gateway := by simp [hvpn]
      connections := .same (by simp [connections, hvpn]) }
  | some v =>
    obtain ⟨g, hgateway, hconnections⟩ := grows_connections v s.gateway
    have hvalue : (d.intoSite s).value =
        { s with
          subnets := (Merged.add Subnet.name ⟨gatewaySubnet, v.gatewayPrefix⟩
            (Merged.addAll Subnet.name d.subnets s.subnets).value).value
          dnsServers := (Merged.addAll Reference.name d.references s.dnsServers).value
          gateway := some g } := by
      simp only [intoSite, hvpn, ← hgateway]
      rfl
    rw [hvalue]
    exact {
      name := rfl
      affinityGroup := rfl
      addressSpace := rfl
      subnets := by simpa [siteSubnets, hvpn] using hsubnets.trans Merged.grows_add
      dnsServers := hreferences
      gateway := by simp [hvpn]
      connections := by
        rw [show d.connections = [⟨v.localSite.name⟩] by simp [connections, hvpn]]
        exact hconnections }

/-- What a merge makes of the sites. -/
theorem sites_into : (d.into t).value.sites =
    (Merged.first (·.name == d.site) d.intoSite
      (Merged.add Site.name d.newSite t.sites).value).value := rfl

/-- **A merge extends the topology**, and nothing else becomes of it. -/
theorem extends_into : d.Extends t (d.into t).value where
  dnsServers := Merged.grows_addAll
  localSites := Merged.grows_addAll
  sites := by
    rw [sites_into]
    by_cases h : d.site ∈ t.sites.map Site.name
    · obtain ⟨x, hx, heq⟩ := List.mem_map.1 h
      obtain ⟨before, s, after, hsplit, hbefore, hs, hfirst⟩ :=
        Merged.first_eq (p := (·.name == d.site)) (f := d.intoSite) ⟨x, hx, by simpa using heq⟩
      rw [Merged.add_eq_same (a := d.newSite) h, Merged.same, hfirst]
      exact ⟨before, s, _, after, .inl hsplit, rfl, by simpa using hbefore, by simpa using hs,
        extends_intoSite⟩
    · have hnone : ∀ x ∈ t.sites, (x.name == d.site) = false := by
        intro x hx
        have hne : x.name ≠ d.site := fun heq => h (heq ▸ List.mem_map_of_mem hx)
        simpa using hne
      rw [Merged.add_of_not_mem (a := d.newSite) h,
        Merged.first_append_one (f := d.intoSite) hnone (by simp [newSite])]
      exact ⟨t.sites, d.newSite, _, [], .inr ⟨rfl, rfl, rfl⟩, rfl, by simpa using hnone, rfl,
        extends_intoSite⟩

end Delta

end CloudOrchestration
