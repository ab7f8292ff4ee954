import CloudOrchestration.Proofs.Client.Steps
/-!
# Calls that change networks

The five calls that change the topology, as one type, and what each of them
makes of the document. What they do to gateways besides leaves the document
alone (`onlyAsks_connect`, `onlyAsks_removeGateway`).
-/

namespace CloudOrchestration

/-- A call that changes the topology. -/
inductive NetworkCall where
  | merge (delta : Delta)
  | ensureSite (name affinityGroup addressSpace : String)
  | addSubnet (site subnet addressPrefix : String)
  | removeSubnet (site subnet : String)
  | deleteSite (name : String)
  deriving DecidableEq, Repr

namespace NetworkCall

/-- The call itself. -/
def run (c : Client) (deadline : Deadline) : NetworkCall → Call Action
  | merge delta => c.mergeNetwork delta deadline
  | ensureSite name affinityGroup addressSpace =>
    c.ensureSite name affinityGroup addressSpace deadline
  | addSubnet site subnet addressPrefix => c.addSubnet site subnet addressPrefix deadline
  | removeSubnet site subnet => c.removeSubnet site subnet deadline
  | deleteSite name => c.deleteSite name deadline

/-- **What a call makes of the topology**, where it writes it. -/
def transform : NetworkCall → Topology → Topology
  | merge delta, t => (delta.into t).value
  | ensureSite name affinityGroup addressSpace, t =>
    (Delta.into { site := name, affinityGroup, addressSpace } t).value
  | addSubnet site subnet addressPrefix, t => t.addSubnet site ⟨subnet, addressPrefix⟩
  | removeSubnet site subnet, t => t.removeSubnet site subnet
  | deleteSite name, t => t.removeSite name

end NetworkCall

open Workflow Channel

variable {c : Client} {deadline : Deadline} {network : String}

/-- A request that does not change the topology. -/
def Request.SparesTopology (q : Request) : Prop := q.isMutating → q.path ≠ Path.topology

theorem sparesTopology_read (path : String) : (Request.read path).SparesTopology :=
  fun h => nomatch h

/-- A request for something else. -/
def Request.IsAside (q : Request) : Prop := q.path ≠ Path.topology

theorem Request.IsAside.sparesTopology {q : Request} (h : q.IsAside) : q.SparesTopology := fun _ => h

theorem isAside_gateway : (Request.read (Path.gateway network)).IsAside :=
  (Path.topology_ne_gateway network).symm

theorem isAside_operation (id : String) : (Request.read (operationPath id)).IsAside :=
  Path.operationPath_ne_topology id

namespace Client

theorem onlyAsks_createGateway {vpn : Vpn} :
    OnlyAsks Request.IsAside (c.createGateway network vpn deadline) :=
  onlyAsks_bind (onlyAsks_create isAside_operation (Path.topology_ne_gateway network).symm)
    fun _ => onlyAsks_awaitGateway isAside_gateway

theorem onlyAsks_gatewayIs {state : GatewayState} :
    OnlyAsks Request.IsAside (c.gatewayIs network state deadline) :=
  onlyAsks_bind (onlyAsks_gateway? isAside_gateway) fun _ => onlyAsks_done _

/-- **Setting up a connection is aside of the topology.** -/
theorem onlyAsks_connect_aside {vpn : Vpn} :
    OnlyAsks Request.IsAside (c.connect network vpn deadline) := by
  have hkey : OnlyAsks Request.IsAside (c.channel.create
      (Path.sharedKey network vpn.localSite.name) (SharedKey.mk vpn.sharedKey) deadline) :=
    onlyAsks_create isAside_operation (Path.topology_ne_sharedKey network _).symm
  have hrest : OnlyAsks Request.IsAside (do
      if ← c.gatewayIs network .provisioned deadline then
        c.channel.create (Path.sharedKey network vpn.localSite.name)
          (SharedKey.mk vpn.sharedKey) deadline) := by
    refine onlyAsks_bind onlyAsks_gatewayIs fun present => ?_
    split
    · exact hkey
    · exact onlyAsks_done _
  refine onlyAsks_bind onlyAsks_gatewayIs fun absent => ?_
  cases absent with
  | true => exact onlyAsks_bind onlyAsks_createGateway fun _ => hrest
  | false => exact hrest

/-- Setting up a connection does not touch the topology. -/
theorem onlyAsks_connect {vpn : Vpn} :
    OnlyAsks Request.SparesTopology (c.connect network vpn deadline) :=
  onlyAsks_connect_aside.mono fun _ => Request.IsAside.sparesTopology

/-- Taking down a gateway does not touch the topology. -/
theorem onlyAsks_removeGateway :
    OnlyAsks Request.SparesTopology (c.removeGateway network deadline) := by
  refine OnlyAsks.mono (p := Request.IsAside) ?_ fun _ => Request.IsAside.sparesTopology
  refine onlyAsks_bind (onlyAsks_gateway? isAside_gateway) fun found => ?_
  cases found with
  | none => exact onlyAsks_done _
  | some info =>
    dsimp only
    split
    · exact onlyAsks_bind (onlyAsks_remove isAside_operation (Path.topology_ne_gateway network).symm)
        fun _ => onlyAsks_awaitNoGateway isAside_gateway
    · exact onlyAsks_done _

end Client

end CloudOrchestration
