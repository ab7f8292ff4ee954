import CloudOrchestration.Client.Networks
import CloudOrchestration.Proofs.Network.Names
/-!
# What the flag of a merge tells

A merge that says that it changes nothing changes nothing (`Delta.honest_into`),
and one that finds all names that it brings says so (`Delta.into_eq_same`). So
the flag tells whether the document is another than before, a second merge
finds nothing to add, and the document is written just if there is something to
write (`Delta.merges_exactly`).
-/

namespace CloudOrchestration

open Workflow

variable {α β γ : Type}

namespace Merged

variable {name : α → String} {new : List α} {p : α → Bool} {f : α → Merged α}

/-- After a part in which nothing was to be added, the next merge is given the
same whole. -/
theorem within_andThen {m : Merged α} {whole : α → β} {f : β → Merged γ} {a : α} {b : β}
    (hm : m = same a) (hwhole : whole a = b) : (m.within whole).andThen f = f b := by
  rw [hm, same_within, hwhole, same_andThen]

/-- **A merge that tells** when it makes something else of what it is given. -/
def Honest (f : α → Merged α) : Prop := ∀ a, (f a).changed = false → f a = same a

/-- Merges that change nothing together change nothing one by one. -/
theorem andThen_unchanged {m : Merged α} {whole : α → β} {f : β → Merged γ} {a : α} {b : β}
    (hm : m.changed = false → m = same a) (hwhole : whole a = b)
    (h : ((m.within whole).andThen f).changed = false) :
    (m.within whole).andThen f = f b ∧ (f b).changed = false := by
  have heq := within_andThen (f := f) (hm (Bool.or_eq_false_iff.1 h).1) hwhole
  exact ⟨heq, heq ▸ h⟩

theorem honest_add {a : α} : Honest (add name a) := by
  intro items h
  by_cases hmem : name a ∈ items.map name
  · exact add_eq_same hmem
  · rw [add_of_not_mem hmem] at h
    cases h

theorem honest_andThen {g : α → Merged α} (hf : Honest f) (hg : Honest g) :
    Honest fun a => (f a).andThen g := by
  intro a h
  have hwhole : (((f a).within id).andThen g).changed = false := h
  obtain ⟨heq, hunchanged⟩ := andThen_unchanged (hf a) rfl hwhole
  exact heq.trans (hg a hunchanged)

theorem honest_addAll : Honest (addAll name new) := by
  induction new with
  | nil => exact fun _ _ => rfl
  | cons a new ih =>
    intro items h
    rw [addAll_cons] at h ⊢
    exact honest_andThen honest_add ih items h

theorem honest_first (hf : Honest f) : Honest (first p f) := by
  intro items h
  induction items with
  | nil => rfl
  | cons a items ih =>
    rw [first] at h ⊢
    split
    next ha =>
      rw [if_pos ha] at h
      rw [hf a h]
      rfl
    next ha =>
      rw [if_neg ha] at h
      rw [ih h]
      rfl

end Merged

namespace Delta

open Merged

variable {d : Delta} {s : Site} {t : Topology} {v : Vpn}

/-! ## A merge that changes nothing -/

theorem honest_intoGateway : Honest v.intoGateway := by
  intro gateway h
  cases gateway with
  | none => cases h
  | some g =>
    have hadd : add Reference.name ⟨v.localSite.name⟩ g.items = same g.items :=
      honest_add g.items h
    rw [Vpn.intoGateway, same_andThen, hadd]
    rfl

theorem honest_vpn : Honest v.intoSite := by
  intro s h
  obtain ⟨heq, hgateway⟩ := andThen_unchanged (b := s) (honest_add _) rfl h
  rw [Vpn.intoSite, heq, honest_intoGateway _ hgateway]
  rfl

theorem honest_intoSite : Honest d.intoSite := by
  intro s h
  obtain ⟨hsubnets, h⟩ := andThen_unchanged (b := s) (honest_addAll _) rfl h
  obtain ⟨hreferences, h⟩ := andThen_unchanged (b := s) (honest_addAll _) rfl h
  rw [intoSite, hsubnets, hreferences]
  cases hvpn : d.vpn with
  | none => rfl
  | some v =>
    rw [hvpn] at h
    exact honest_vpn s h

/-- **A merge that says that it changes nothing** changes nothing. -/
theorem honest_into : Honest d.into := by
  intro t h
  obtain ⟨hservers, h⟩ := andThen_unchanged (b := t) (honest_addAll _) rfl h
  obtain ⟨hlocal, h⟩ := andThen_unchanged (b := t) (honest_addAll _) rfl h
  have hsites : (add Site.name d.newSite t.sites).andThen (first (·.name == d.site) d.intoSite) =
      same t.sites :=
    honest_andThen honest_add (honest_first honest_intoSite) t.sites h
  rw [into, hservers, hlocal, hsites]
  rfl

/-! ## A merge that finds everything there -/

/-- A connection that is there is one of a gateway, which is left as it is. -/
theorem intoGateway_eq_same (h : v.localSite.name ∈ s.connections.map Reference.name) :
    v.intoGateway s.gateway = same s.gateway := by
  cases hgateway : s.gateway with
  | none => simp [Site.connections, hgateway] at h
  | some g =>
    rw [Site.connections, hgateway] at h
    have hadd : add Reference.name ⟨v.localSite.name⟩ g.items = same g.items := add_eq_same h
    rw [Vpn.intoGateway, same_andThen, hadd]
    rfl

/-- A site in which all names are there is left as it is. -/
theorem intoSite_eq_same (h : ∀ part, ∀ n ∈ d.partNames part, n ∈ s.names part) :
    d.intoSite s = same s := by
  have hsubnets : ∀ a ∈ d.siteSubnets, a.name ∈ s.subnets.map Subnet.name := fun a ha =>
    h .subnets _ (List.mem_map_of_mem ha)
  have hreferences : ∀ a ∈ d.references, a.name ∈ s.dnsServers.map Reference.name := fun a ha =>
    h .references _ (List.mem_map_of_mem ha)
  have hconnections : ∀ a ∈ d.connections, a.name ∈ s.connections.map Reference.name := fun a ha =>
    h .connections _ (List.mem_map_of_mem ha)
  have hown : ∀ a ∈ d.subnets, a.name ∈ s.subnets.map Subnet.name := fun a ha =>
    hsubnets a (List.mem_append_left _ ha)
  refine (within_andThen (b := s) (addAll_eq_same hown) rfl).trans ?_
  refine (within_andThen (b := s) (addAll_eq_same hreferences) rfl).trans ?_
  cases hvpn : d.vpn with
  | none => rfl
  | some v =>
    have hsubnet : gatewaySubnet ∈ s.subnets.map Subnet.name :=
      hsubnets ⟨gatewaySubnet, v.gatewayPrefix⟩ (by simp [siteSubnets, hvpn])
    have hconnection : v.localSite.name ∈ s.connections.map Reference.name :=
      hconnections ⟨v.localSite.name⟩ (by simp [connections, hvpn])
    refine (within_andThen (b := s)
      (add_eq_same (a := (⟨gatewaySubnet, v.gatewayPrefix⟩ : Subnet)) hsubnet) rfl).trans ?_
    rw [intoGateway_eq_same hconnection]
    rfl

/-- **A topology in which all names are there** is left as it is. -/
theorem into_eq_same (h : ∀ roster, ∀ n ∈ d.names roster, n ∈ t.names roster) :
    d.into t = same t := by
  have hservers : ∀ a ∈ d.dnsServers, a.name ∈ t.dns.items.map DnsServer.name := fun a ha =>
    h .dnsServers _ (List.mem_map_of_mem ha)
  have hlocal : ∀ a ∈ d.localSites, a.name ∈ t.localSites.map LocalSite.name := fun a ha =>
    h .localSites _ (List.mem_map_of_mem ha)
  have hsite : d.site ∈ t.sites.map Site.name := h .sites _ (by simp [names])
  obtain ⟨x, hx, hname⟩ := List.mem_map.1 hsite
  obtain ⟨before, s, after, hsplit, hbefore, hs, hfirst⟩ :=
    first_eq (p := (·.name == d.site)) (f := d.intoSite) ⟨x, hx, by simpa using hname⟩
  have hfound : t.site? d.site = some s :=
    Topology.site?_eq hsplit (by simpa using hbefore) (by simpa using hs)
  have hparts : ∀ part, ∀ n ∈ d.partNames part, n ∈ s.names part := by
    intro part n hn
    simpa [Topology.names, hfound] using h (.within d.site part) n (by simpa [names] using hn)
  have hsites : (add Site.name d.newSite t.sites).andThen (first (·.name == d.site) d.intoSite) =
      same t.sites := by
    rw [add_eq_same (a := d.newSite) hsite, same_andThen, hfirst, intoSite_eq_same hparts,
      same_within, hsplit]
  refine (within_andThen (b := t) (addAll_eq_same hservers) rfl).trans ?_
  refine (within_andThen (b := t) (addAll_eq_same hlocal) rfl).trans ?_
  rw [hsites]
  rfl

/-! ## The document of the subscription -/

/-- What a merge has brought is there, so a second one finds nothing to
add. -/
theorem into_into (d : Delta) (t : Topology) :
    d.into (d.into t).value = same (d.into t).value :=
  into_eq_same fun _ _ hn => extends_into.mem_names.2 (.inr hn)

theorem value_eq_of_unchanged (h : (d.into t).changed = false) : (d.into t).value = t := by
  rw [honest_into t h]
  rfl

/-- **The flag tells whether the document is another than before.** -/
theorem changed_iff : (d.into t).changed ↔ (d.into t).value ≠ t := by
  constructor
  · intro hchanged hvalue
    -- nothing but what was there is there, and with that the flag would not be set
    have hthere : d.into t = same t := by
      have hagain := into_into d t
      rwa [hvalue] at hagain
    rw [hthere] at hchanged
    cases hchanged
  · intro hvalue
    cases hchanged : (d.into t).changed with
    | true => rfl
    | false => exact absurd (value_eq_of_unchanged hchanged) hvalue

end Delta

namespace Client

/-- Replace the topology by another, if it is another. -/
def writeIfNew (c : Client) (t t' : Topology) (deadline : Deadline) : Call Action :=
  if t' = t then pure .unchanged
  else do
    c.writeTopology t' deadline
    pure .update

end Client

namespace Delta

/-- **Merges are exact and idempotent.** The flag of a merge tells whether the
document is another than before, the same merge finds nothing to add to its own
result, and the call writes the document just if it is another than the one
that it has read. -/
theorem merges_exactly (d : Delta) (t : Topology) :
    ((d.into t).changed ↔ (d.into t).value ≠ t) ∧
      d.into (d.into t).value = .same (d.into t).value ∧
      ∀ (c : Client) (deadline : Deadline), c.mergeNetwork d deadline = (do
        let action ← Client.exclusively .network deadline do
          let t ← c.topology deadline
          c.writeIfNew t (d.into t).value deadline
        match d.vpn with
        | some vpn => c.connect d.site vpn deadline
        | none => pure ()
        pure action) := by
  refine ⟨changed_iff, into_into d t, fun c deadline => ?_⟩
  have hwrite : ∀ t, Client.unlessDone (!(d.into t).changed) .update
      (c.writeTopology (d.into t).value deadline) =
        c.writeIfNew t (d.into t).value deadline := by
    intro t
    cases hchanged : (d.into t).changed with
    | false =>
      rw [Client.writeIfNew, if_pos (value_eq_of_unchanged hchanged)]
      rfl
    | true =>
      rw [Client.writeIfNew, if_neg (changed_iff.1 hchanged)]
      rfl
  simp only [← hwrite]
  rfl

end Delta

end CloudOrchestration
