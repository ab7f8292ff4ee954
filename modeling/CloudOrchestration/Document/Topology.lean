import CloudOrchestration.Document.Listing
/-!
# The network topology

A subscription has one document that describes all of its networks: the DNS
servers, the sites on the far side of a gateway and the virtual sites. It can
be replaced only as a whole. Sites are looked up by name, and of several with
one name the first counts.
-/

namespace CloudOrchestration

structure DnsServer where
  name : String
  address : String
  deriving DecidableEq, Repr

instance : Document DnsServer where
  encode s := .object [Document.member "Name" s.name, Document.member "IpAddress" s.address]
  decode v := do
    let ms ← v.fields? ["Name", "IpAddress"]
    return {
      name := ← ms.required "Name"
      address := ← ms.required "IpAddress" }

abbrev Dns := Listing "DnsServers" DnsServer

abbrev AddressSpace := Listing "AddressPrefixes" String

/-- A site on the far side of a gateway. -/
structure LocalSite where
  name : String
  addressSpace : AddressSpace
  gatewayAddress : String
  deriving DecidableEq, Repr

instance : Document LocalSite where
  encode s := .object [
    Document.member "Name" s.name,
    Document.member "AddressSpace" s.addressSpace,
    Document.member "VpnGatewayAddress" s.gatewayAddress]
  decode v := do
    let ms ← v.fields? ["Name", "AddressSpace", "VpnGatewayAddress"]
    return {
      name := ← ms.required "Name"
      addressSpace := ← ms.defaulted "AddressSpace" {}
      gatewayAddress := ← ms.defaulted "VpnGatewayAddress" "" }

structure Subnet where
  name : String
  addressPrefix : String
  deriving DecidableEq, Repr

instance : Document Subnet where
  encode s := .object [
    Document.member "Name" s.name,
    Document.member "AddressPrefix" s.addressPrefix]
  decode v := do
    let ms ← v.fields? ["Name", "AddressPrefix"]
    return {
      name := ← ms.required "Name"
      addressPrefix := ← ms.required "AddressPrefix" }

/-- A mention of something by its name. -/
structure Reference where
  name : String
  deriving DecidableEq, Repr

instance : Document Reference where
  encode r := .object [Document.member "Name" r.name]
  decode v := do return ⟨← (← v.fields? ["Name"]).required "Name"⟩

/-- A gateway, as far as the topology describes it: the local sites it
connects to. -/
abbrev Gateway := Listing "ConnectionsToLocalNetwork" Reference

/-- A virtual site. -/
structure Site where
  name : String
  affinityGroup : String
  addressSpace : AddressSpace
  subnets : List Subnet := []
  dnsServers : List Reference := []
  gateway : Option Gateway := none
  deriving DecidableEq, Repr

namespace Site

instance : Document Site where
  encode s := .object [
    Document.member "Name" s.name,
    Document.member "AffinityGroup" s.affinityGroup,
    Document.member "AddressSpace" s.addressSpace,
    Document.member "Subnets" s.subnets,
    Document.member "DnsServersRef" s.dnsServers,
    Document.memberIfSome "Gateway" s.gateway]
  decode v := do
    let ms ← v.fields? [
      "Name", "AffinityGroup", "AddressSpace", "Subnets", "DnsServersRef", "Gateway"]
    return {
      name := ← ms.required "Name"
      affinityGroup := ← ms.defaulted "AffinityGroup" ""
      addressSpace := ← ms.defaulted "AddressSpace" {}
      subnets := ← ms.defaulted "Subnets" []
      dnsServers := ← ms.defaulted "DnsServersRef" []
      gateway := ← ms.optional "Gateway" }

/-- The first subnet of a name. -/
def subnet? (s : Site) (name : String) : Option Subnet :=
  s.subnets.find? (·.name == name)

end Site

structure Topology where
  dns : Dns := {}
  localSites : List LocalSite := []
  sites : List Site := []
  deriving DecidableEq, Repr

namespace Topology

instance : Document Topology where
  encode t := .object [
    Document.member "Dns" t.dns,
    Document.member "LocalNetworkSites" t.localSites,
    Document.member "VirtualNetworkSites" t.sites]
  decode v := do
    let ms ← v.fields? ["Dns", "LocalNetworkSites", "VirtualNetworkSites"]
    return {
      dns := ← ms.defaulted "Dns" {}
      localSites := ← ms.defaulted "LocalNetworkSites" []
      sites := ← ms.defaulted "VirtualNetworkSites" [] }

/-- The first site of a name. -/
def site? (t : Topology) (name : String) : Option Site :=
  t.sites.find? (·.name == name)

/-- Change the first item that a test accepts. -/
def modifyFirst {α : Type} (p : α → Bool) (f : α → α) : List α → List α
  | [] => []
  | a :: rest => if p a then f a :: rest else a :: modifyFirst p f rest

/-- The topology with its first site of a name changed. -/
def modifySite (t : Topology) (name : String) (f : Site → Site) : Topology :=
  { t with sites := modifyFirst (·.name == name) f t.sites }

end Topology

end CloudOrchestration
