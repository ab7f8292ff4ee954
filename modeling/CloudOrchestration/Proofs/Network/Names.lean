import CloudOrchestration.Proofs.Network.Additions
/-!
# Names in a topology

A merge looks at names alone. The names of a topology stand in lists, its
rosters, and each roster grows by the names that the change brings for it
(`Delta.Extends.grows_names`). So distinct names stay distinct, and two changes
bring the same names in either order (`Delta.merges_commute`), though the lists
are ordered differently and other addresses may be found under the names.
-/

namespace CloudOrchestration

/-- A list of a site. -/
inductive Part where
  | subnets
  | references
  | connections
  deriving DecidableEq, Repr

/-- **A list of names in a topology.** Of the sites of one name the first
counts. -/
inductive Roster where
  | dnsServers
  | localSites
  | sites
  | within (site : String) (part : Part)
  deriving DecidableEq, Repr

namespace Site

/-- The names in a list of a site. -/
def names (s : Site) : Part → List String
  | .subnets => s.subnets.map (·.name)
  | .references => s.dnsServers.map (·.name)
  | .connections => s.connections.map (·.name)

end Site

namespace Topology

/-- The names of a roster; none where there is no such site. -/
def names (t : Topology) : Roster → List String
  | .dnsServers => t.dns.items.map (·.name)
  | .localSites => t.localSites.map (·.name)
  | .sites => t.sites.map (·.name)
  | .within site part => ((t.site? site).map (·.names part)).getD []

/-- Whether the first site of a name has a gateway. -/
def hasGateway (t : Topology) (site : String) : Bool := (t.site? site).any (·.gateway.isSome)

/-- **Two topologies in which the same exists.** -/
structure SameNames (t t' : Topology) : Prop where
  names : ∀ roster n, n ∈ t.names roster ↔ n ∈ t'.names roster
  gateways : ∀ site, t.hasGateway site = t'.hasGateway site

/-- The first site of a name, where the sites before have others. -/
theorem site?_eq {t : Topology} {before after : List Site} {s : Site} {name : String}
    (ht : t.sites = before ++ s :: after) (hbefore : ∀ x ∈ before, x.name ≠ name)
    (hs : s.name = name) : t.site? name = some s := by
  have hnone : before.find? (·.name == name) = none := by
    simpa using hbefore
  rw [site?, ht, List.find?_append, hnone, Option.none_or]
  exact List.find?_cons_of_pos (by simpa using hs)

end Topology

namespace Delta

/-- The names that a change brings for a list of its site. -/
def partNames (d : Delta) : Part → List String
  | .subnets => d.siteSubnets.map (·.name)
  | .references => d.references.map (·.name)
  | .connections => d.connections.map (·.name)

/-- **The names that a change brings** for a roster. -/
def names (d : Delta) : Roster → List String
  | .dnsServers => d.dnsServers.map (·.name)
  | .localSites => d.localSites.map (·.name)
  | .sites => [d.site]
  | .within site part => if site = d.site then d.partNames part else []

end Delta

/-- The names of a list that grows are a list that grows. -/
theorem Grows.names {α : Type} {name : α → String} {new items items' : List α}
    (h : Grows name new items items') :
    Grows id (new.map name) (items.map name) (items'.map name) := by
  obtain ⟨added, rfl, hadded⟩ := h
  refine ⟨added.map name, List.map_append, ?_, ?_, ?_, ?_⟩
  · intro n hn
    obtain ⟨a, ha, rfl⟩ := List.mem_map.1 hn
    exact List.mem_map_of_mem (hadded.offered a ha)
  · intro n hn
    obtain ⟨a, ha, rfl⟩ := List.mem_map.1 hn
    simpa using hadded.fresh a ha
  · simpa using hadded.once
  · intro n hn
    obtain ⟨a, ha, rfl⟩ := List.mem_map.1 hn
    simpa using hadded.complete a ha

namespace Delta

variable {d : Delta} {t t' : Topology} {name : String}

/-- Each list of a site that is extended grows. -/
theorem ExtendsSite.grows_names {s s' : Site} (h : d.ExtendsSite s s') (part : Part) :
    Grows id (d.partNames part) (s.names part) (s'.names part) := by
  cases part with
  | subnets => exact h.subnets.names
  | references => exact h.dnsServers.names
  | connections => exact h.connections.names

/-- The site of the change is the extension of what was there, or of a new
one. -/
theorem Extends.site?_self (h : d.Extends t t') :
    ∃ s', t'.site? d.site = some s' ∧ d.ExtendsSite ((t.site? d.site).getD d.newSite) s' := by
  obtain ⟨before, s, s', after, hold, hnew, hbefore, hname, hextends⟩ := h.sites
  refine ⟨s', Topology.site?_eq hnew hbefore (hextends.name.trans hname), ?_⟩
  obtain ht | ⟨ht, rfl, -⟩ := hold
  · rwa [Topology.site?_eq ht hbefore hname]
  · have hnone : t.site? d.site = none := by
      rw [Topology.site?, ht]
      simpa using hbefore
    rwa [hnone]

/-- Sites of other names are found as before. -/
theorem Extends.site?_other (h : d.Extends t t') (hne : name ≠ d.site) :
    t'.site? name = t.site? name := by
  obtain ⟨before, s, s', after, hold, hnew, hbefore, hname, hextends⟩ := h.sites
  have hs : (s.name == name) = false := by simpa [hname] using Ne.symm hne
  have hs' : (s'.name == name) = false := by rwa [hextends.name]
  have hskip : t'.site? name = (before ++ after).find? (·.name == name) := by
    rw [Topology.site?, hnew, List.find?_append, List.find?_cons_of_neg (by simp [hs']),
      List.find?_append]
  rw [hskip, Topology.site?]
  obtain ht | ⟨ht, -, rfl⟩ := hold
  · rw [ht, List.find?_append, List.find?_append, List.find?_cons_of_neg (by simp [hs])]
  · rw [ht, List.append_nil]

/-- The names of the sites. -/
theorem Extends.grows_sites (h : d.Extends t t') :
    Grows id [d.site] (t.sites.map (·.name)) (t'.sites.map (·.name)) := by
  obtain ⟨before, s, s', after, hold, hnew, hbefore, hname, hextends⟩ := h.sites
  have hnames : t'.sites.map (·.name) = (before ++ s :: after).map (·.name) := by
    simp [hnew, hextends.name]
  rw [hnames]
  obtain ht | ⟨ht, rfl, rfl⟩ := hold
  · rw [ht]
    exact .same (by simp [hname])
  · have hnot : d.site ∉ before.map (·.name) := fun hmem => by
      obtain ⟨x, hx, heq⟩ := List.mem_map.1 hmem
      exact hbefore x hx heq
    rw [ht]
    exact ⟨[d.site], by simp [hname], by simp, by simpa using hnot, by simp, by simp⟩

/-- **Every roster grows** by what the change brings for it. -/
theorem Extends.grows_names (h : d.Extends t t') (roster : Roster) :
    Grows id (d.names roster) (t.names roster) (t'.names roster) := by
  cases roster with
  | dnsServers => exact h.dnsServers.names
  | localSites => exact h.localSites.names
  | sites => exact h.grows_sites
  | within site part =>
    by_cases hsite : site = d.site
    · subst hsite
      obtain ⟨s', hs', hextends⟩ := h.site?_self
      have hgrows := hextends.grows_names part
      -- a new site has nothing in its lists yet
      have hbefore : t.names (.within d.site part) =
          ((t.site? d.site).getD d.newSite).names part := by
        rw [Topology.names]
        cases t.site? d.site with
        | some s => rfl
        | none => cases part <;> rfl
      rw [hbefore, Topology.names, hs', names, if_pos rfl]
      exact hgrows
    · rw [Topology.names, Topology.names, h.site?_other hsite, names, if_neg hsite]
      exact .same (by simp)

theorem Extends.mem_names (h : d.Extends t t') {roster : Roster} {n : String} :
    n ∈ t'.names roster ↔ n ∈ t.names roster ∨ n ∈ d.names roster := by
  simpa using (h.grows_names roster).mem_names

theorem Extends.hasGateway (h : d.Extends t t') (site : String) :
    t'.hasGateway site = (t.hasGateway site || (site == d.site && d.vpn.isSome)) := by
  by_cases hsite : site = d.site
  · subst hsite
    obtain ⟨s', hs', hextends⟩ := h.site?_self
    rw [Topology.hasGateway, hs', Topology.hasGateway]
    have hgateway := hextends.gateway
    cases hs : t.site? d.site with
    | some s => simpa [hs] using hgateway
    | none => simpa [hs, newSite] using hgateway
  · rw [Topology.hasGateway, h.site?_other hsite, Topology.hasGateway]
    simp [hsite]

/-! ## The whole merge -/

/-- **A merge is a conservative extension** that brings what the change asks
for: of each list the items that were there stay as they were and where they
were, what is added was missing and is asked for, and names that were distinct
stay so. -/
theorem merges_conservatively (d : Delta) (t : Topology) :
    d.Extends t (d.into t).value ∧
      ∀ roster, (t.names roster).Nodup → ((d.into t).value.names roster).Nodup := by
  refine ⟨extends_into, fun roster hnodup => ?_⟩
  have hgrows := extends_into.grows_names (d := d) (t := t) roster
  simpa using hgrows.nodup (by simpa using hnodup)

/-- Of two sites with one name the first gets what is missing. The change brings a
subnet twice, and the gateway's among its own; the names stay distinct. -/
theorem merges_conservatively_repeated :
    let site : Site := { name := "n", affinityGroup := "g", addressSpace := ⟨[]⟩ }
    let t : Topology := { sites := [{ site with subnets := [⟨"a", "p"⟩] }, site] }
    let d : Delta := {
      site := "n"
      affinityGroup := ""
      addressSpace := ""
      subnets := [⟨Delta.gatewaySubnet, "p"⟩, ⟨"b", "p"⟩, ⟨"b", "q"⟩]
      vpn := some {
        localSite := ⟨"l", {}, ""⟩
        gatewayPrefix := "q"
        gatewayKind := ""
        sharedKey := "" } }
    let subnets := Roster.within "n" .subnets
    (t.names subnets).Nodup ∧ ((d.into t).value.names subnets).Nodup ∧
      (d.into t).value.names subnets = ["a", Delta.gatewaySubnet, "b"] :=
  ⟨by decide, (merges_conservatively _ _).2 _ (by decide), by decide⟩

/-- **The order of two merges does not decide what exists.** -/
theorem merges_commute (d₁ d₂ : Delta) (t : Topology) :
    (d₂.into (d₁.into t).value).value.SameNames (d₁.into (d₂.into t).value).value where
  names roster n := by
    rw [extends_into.mem_names, extends_into.mem_names, extends_into.mem_names,
      extends_into.mem_names]
    exact or_right_comm
  gateways site := by
    rw [extends_into.hasGateway, extends_into.hasGateway, extends_into.hasGateway,
      extends_into.hasGateway]
    exact Bool.or_right_comm ..

end Delta

end CloudOrchestration
