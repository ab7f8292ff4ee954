import CloudOrchestration.Document.Topology
/-!
# Merging into the topology

A change to the topology says what a site should contain. What is there
already, by name, is left as it is; what is missing is added at the end of
its list. `Merged` carries along whether anything was added, so that a merge
that finds nothing to add need not be written.
-/

namespace CloudOrchestration

/-- A value after a merge, and whether the merge changed it. -/
structure Merged (α : Type) where
  value : α
  changed : Bool
  deriving DecidableEq, Repr

namespace Merged

variable {α β : Type}

/-- Nothing to add. -/
def same (a : α) : Merged α := ⟨a, false⟩

/-- One merge after another. -/
def andThen (m : Merged α) (f : α → Merged β) : Merged β :=
  let r := f m.value
  ⟨r.value, m.changed || r.changed⟩

/-- A merge into a part of a whole. -/
def within (m : Merged α) (whole : α → β) : Merged β := ⟨whole m.value, m.changed⟩

/-- Add an item at the end, unless one of its name is there. -/
def add (name : α → String) (a : α) (items : List α) : Merged (List α) :=
  if items.any (name · == name a) then same items else ⟨items ++ [a], true⟩

/-- Add items one after another. -/
def addAll (name : α → String) (new items : List α) : Merged (List α) :=
  new.foldl (fun m a => m.andThen (add name a)) (same items)

/-- Merge into the first item that a test accepts. -/
def first (p : α → Bool) (f : α → Merged α) : List α → Merged (List α)
  | [] => same []
  | a :: rest => if p a then (f a).within (· :: rest) else (first p f rest).within (a :: ·)

end Merged

/-- A connection to a local site, to be added to a virtual site. -/
structure Vpn where
  localSite : LocalSite
  /-- The addresses of the subnet that the gateway needs. -/
  gatewayPrefix : String
  gatewayKind : String
  sharedKey : String
  deriving DecidableEq, Repr

/-- What a site should contain. Affinity group and address space count only
where the site is missing. -/
structure Delta where
  site : String
  affinityGroup : String
  addressSpace : String
  subnets : List Subnet := []
  dnsServers : List DnsServer := []
  vpn : Option Vpn := none
  deriving DecidableEq, Repr

namespace Delta

/-- The subnet that a gateway needs. -/
def gatewaySubnet : String := "GatewaySubnet"

/-- The site as it is added where it is missing. -/
def newSite (d : Delta) : Site :=
  { name := d.site, affinityGroup := d.affinityGroup, addressSpace := ⟨[d.addressSpace]⟩ }

end Delta

namespace Vpn

/-- A gateway, put there if there is none, with its connection to the local
site. -/
def intoGateway (v : Vpn) (gateway : Option Gateway) : Merged (Option Gateway) :=
  let found : Merged Gateway :=
    match gateway with
    | some g => .same g
    | none => ⟨{}, true⟩
  found.andThen fun g =>
    (Merged.add Reference.name ⟨v.localSite.name⟩ g.items).within fun connections =>
      some ⟨connections⟩

/-- The subnet and the gateway of a connection. -/
def intoSite (v : Vpn) (s : Site) : Merged Site :=
  ((Merged.add Subnet.name ⟨Delta.gatewaySubnet, v.gatewayPrefix⟩ s.subnets).within
    fun subnets => { s with subnets }).andThen fun s =>
  (v.intoGateway s.gateway).within fun gateway => { s with gateway }

end Vpn

namespace Delta

/-- Merge what the site itself should contain. -/
def intoSite (d : Delta) (s : Site) : Merged Site :=
  ((Merged.addAll Subnet.name d.subnets s.subnets).within fun subnets =>
    { s with subnets }).andThen fun s =>
  ((Merged.addAll Reference.name (d.dnsServers.map (⟨·.name⟩)) s.dnsServers).within fun dnsServers =>
    { s with dnsServers }).andThen fun s =>
  match d.vpn with
  | some v => v.intoSite s
  | none => .same s

/-- **Merge a change into the topology.** DNS servers and the local site are
added for the whole subscription, the rest to the first site of the name,
which is added if there is none. -/
def into (d : Delta) (t : Topology) : Merged Topology :=
  ((Merged.addAll DnsServer.name d.dnsServers t.dns.items).within fun servers =>
    { t with dns := ⟨servers⟩ }).andThen fun t =>
  ((Merged.addAll LocalSite.name (d.vpn.map (·.localSite)).toList t.localSites).within
    fun localSites => { t with localSites }).andThen fun t =>
  ((Merged.add Site.name d.newSite t.sites).andThen
    (Merged.first (·.name == d.site) d.intoSite)).within fun sites => { t with sites }

end Delta

namespace Topology

/-- The topology with a subnet added at the end of the first site of a
name. -/
def addSubnet (t : Topology) (site : String) (subnet : Subnet) : Topology :=
  t.modifySite site fun s => { s with subnets := s.subnets ++ [subnet] }

/-- The topology without the subnets of a name in the first site of a
name. -/
def removeSubnet (t : Topology) (site subnet : String) : Topology :=
  t.modifySite site fun s => { s with subnets := s.subnets.filter (·.name != subnet) }

/-- The topology without the sites of a name. -/
def removeSite (t : Topology) (site : String) : Topology :=
  { t with sites := t.sites.filter (·.name != site) }

end Topology

end CloudOrchestration
