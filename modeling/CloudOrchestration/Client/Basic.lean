import CloudOrchestration.Channel.Operation
import CloudOrchestration.Client.Path
import CloudOrchestration.Document.AffinityGroup
import CloudOrchestration.Document.CloudService
import CloudOrchestration.Document.Disk
import CloudOrchestration.Document.Gateway
import CloudOrchestration.Document.StorageAccount
import CloudOrchestration.Document.Topology
import CloudOrchestration.Settings.Basic
/-!
# The client, and what it reads

A client is its settings and a wire format; the locks and the tracked
accounts that its calls share belong to the world they run in. This file
holds the calls that only read.
-/

namespace CloudOrchestration

/-- The client of one subscription. -/
structure Client where
  settings : Settings
  wire : Wire

namespace Client

open Workflow

def channel (c : Client) : Channel := ⟨c.wire, c.settings.cadence⟩

def interval (c : Client) : Nat := c.channel.interval

/-- The name of the cloud service of a role for which none was given. -/
def generatedServiceName (c : Client) (role : String) : String :=
  c.settings.servicePrefix ++ role

def affinityGroups (c : Client) (deadline : Deadline) : Call AffinityGroups :=
  c.channel.get Path.affinityGroups deadline

def storageAccounts (c : Client) (deadline : Deadline) : Call StorageAccounts :=
  c.channel.get Path.storageAccounts deadline

def cloudServices (c : Client) (deadline : Deadline) : Call CloudServices :=
  c.channel.get Path.cloudServices deadline

/-- A cloud service, with its deployments if `detail` asks for them. -/
def cloudService? (c : Client) (name : String) (detail : Bool) (deadline : Deadline) :
    Call (Option CloudService) := do
  let path := if detail then Path.cloudServiceDetail name else Path.cloudService name
  let found : Option CloudService ← c.channel.getOptional path deadline
  return found.map (·.labelled)

/-- A deployment at a path of a cloud service. -/
def deploymentAt? (c : Client) (service path : String) (deadline : Deadline) :
    Call (Option Deployment) := do
  let found : Option Deployment ← c.channel.getOptional path deadline
  return found.map (·.foundIn service)

/-- The deployment in a slot of a cloud service. -/
def deploymentInSlot? (c : Client) (service slot : String) (deadline : Deadline) :
    Call (Option Deployment) :=
  c.deploymentAt? service (Path.slot service slot) deadline

/-- The deployment of a name. -/
def deployment? (c : Client) (service name : String) (deadline : Deadline) :
    Call (Option Deployment) :=
  c.deploymentAt? service (Path.deployment service name) deadline

/-- Whether a deployment has an instance with the address, and lies in the
network of the client if that has one. -/
def owns (c : Client) (address : String) (d : Deployment) : Bool :=
  let inNetwork :=
    match c.settings.network with
    | some network => d.network == some network
    | none => true
  inNetwork && (d.instanceAt? address).isSome

/-- Look through cloud services for the deployment that owns an address. -/
def findOwner (c : Client) (address : String) (deadline : Deadline) :
    List CloudService → Call (Option Deployment)
  | [] => pure none
  | listed :: rest => do
    let service ← c.cloudService? listed.name true deadline
    match service.bind (·.deployments.find? (c.owns address)) with
    | some d => pure (some d)
    | none => findOwner c address deadline rest

/-- **The deployment that owns an address**: the first in the order of the
listing and of the documents. -/
def deploymentOwning? (c : Client) (address : String) (deadline : Deadline) :
    Call (Option Deployment) := do
  c.findOwner address deadline (← c.cloudServices deadline).items

def disks (c : Client) (deadline : Deadline) : Call Disks := c.channel.get Path.disks deadline

def disk? (c : Client) (name : String) (deadline : Deadline) : Call (Option Disk) := do
  return (← c.disks deadline).find? name

/-- The topology; empty where none was ever written. -/
def topology (c : Client) (deadline : Deadline) : Call Topology := do
  return (← c.channel.getOptional Path.topology deadline).getD {}

def gateway? (c : Client) (network : String) (deadline : Deadline) : Call (Option GatewayInfo) :=
  c.channel.getOptional (Path.gateway network) deadline

/-- Whether an address is free in a network. -/
def availability (c : Client) (network address : String) (deadline : Deadline) :
    Call Availability :=
  c.channel.get (Path.availability network address) deadline

end Client

end CloudOrchestration
