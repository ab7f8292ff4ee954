import CloudOrchestration.Client.Lifecycle
import CloudOrchestration.Network.Merge
/-!
# Networks

Every change to the topology reads the whole document, changes it and writes
it back under the network lock; where there is nothing to change it is not
written. Gateways are set up and taken down outside of the lock.
-/

namespace CloudOrchestration

namespace Client

open Workflow

/-- Replace the topology. The document goes as plain text, whatever the wire
format. -/
def writeTopology (c : Client) (t : Topology) (deadline : Deadline) : Call Unit :=
  c.channel.replace Path.topology t .plain deadline

/-! ## Gateways -/

/-- Create the gateway of a network where it has none yet, and wait until it
is set up. -/
def createGateway (c : Client) (network : String) (vpn : Vpn) (deadline : Deadline) :
    Call Unit := do
  c.channel.create (Path.gateway network) (GatewayOrder.mk vpn.gatewayKind) deadline
  c.awaitGateway network deadline

/-- Whether the gateway of a network is seen in a state. -/
def gatewayIs (c : Client) (network : String) (state : GatewayState) (deadline : Deadline) :
    Call Bool := do
  return (← c.gateway? network deadline).any (·.state == state)

/-- **Set up the gateway of a network and its key.** Each step is taken only
if the gateway is seen in the state for it; in any other it is left out. -/
def connect (c : Client) (network : String) (vpn : Vpn) (deadline : Deadline) : Call Unit := do
  if ← c.gatewayIs network .notProvisioned deadline then
    c.createGateway network vpn deadline
  if ← c.gatewayIs network .provisioned deadline then
    c.channel.create (Path.sharedKey network vpn.localSite.name) (SharedKey.mk vpn.sharedKey)
      deadline

/-! ## Changes to the topology -/

/-- **Merge a change into the topology.** The answer tells whether the
document was written; the connection of the change is set up afterwards in
either case. -/
def mergeNetwork (c : Client) (delta : Delta) (deadline : Deadline) : Call Action := do
  let action ← exclusively .network deadline do
    let merged := delta.into (← c.topology deadline)
    unlessDone (!merged.changed) .update (c.writeTopology merged.value deadline)
  match delta.vpn with
  | some vpn => c.connect delta.site vpn deadline
  | none => pure ()
  pure action

/-- Create a site if it is missing. -/
def ensureSite (c : Client) (name affinityGroup addressSpace : String) (deadline : Deadline) :
    Call Action := do
  match ← c.mergeNetwork { site := name, affinityGroup, addressSpace } deadline with
  | .unchanged => pure .unchanged
  | _ => pure .create

/-- Add a subnet to a site, which has to exist. -/
def addSubnet (c : Client) (site subnet addressPrefix : String) (deadline : Deadline) :
    Call Action :=
  exclusively .network deadline do
    let topology ← c.topology deadline
    match topology.site? site with
    | none => fail (.invalidState (.noSite site))
    | some found =>
      unlessDone (found.subnet? subnet).isSome .update
        (c.writeTopology (topology.addSubnet site ⟨subnet, addressPrefix⟩) deadline)

/-- Remove the subnets of a name from a site, if it exists. -/
def removeSubnet (c : Client) (site subnet : String) (deadline : Deadline) : Call Action :=
  exclusively .network deadline do
    let topology ← c.topology deadline
    match topology.site? site with
    | none => pure .unchanged
    | some found =>
      unlessDone (found.subnet? subnet).isNone .update
        (c.writeTopology (topology.removeSubnet site subnet) deadline)

/-- Take down the gateway of a network, if it has one. -/
def removeGateway (c : Client) (network : String) (deadline : Deadline) : Call Unit := do
  match ← c.gateway? network deadline with
  | some info =>
    if info.state != .notProvisioned then
      c.channel.remove (Path.gateway network) deadline
      c.awaitNoGateway network deadline
  | none => pure ()

/-- **Delete a site**, after its gateway. -/
def deleteSite (c : Client) (name : String) (deadline : Deadline) : Call Action := do
  if ((← c.topology deadline).site? name).isNone then pure .unchanged
  else
    c.removeGateway name deadline
    exclusively .network deadline do
      let topology ← c.topology deadline
      unlessDone (topology.site? name).isNone .delete
        (c.writeTopology (topology.removeSite name) deadline)

end Client

end CloudOrchestration
