import CloudOrchestration.Action
import CloudOrchestration.Client.Waiting
import CloudOrchestration.Document.ServiceOrder
/-!
# Creating and deleting

Each call looks first whether the state it is to bring about holds already,
and asks the provider for a change only if it does not. The action it answers
tells which of the two it was.
-/

namespace CloudOrchestration

namespace Client

open Workflow

/-- Do something unless it is done already. -/
def unlessDone (isDone : Bool) (action : Action) (change : Call Unit) : Call Action :=
  if isDone then pure .unchanged
  else do
    change
    pure action

/-! ## Affinity groups -/

def ensureAffinityGroup (c : Client) (name location : String) (deadline : Deadline) :
    Call Action := do
  let groups ← c.affinityGroups deadline
  unlessDone (groups.contains name) .create
    (c.channel.create Path.affinityGroups (AffinityGroup.mk name name location) deadline)

def deleteAffinityGroup (c : Client) (name : String) (deadline : Deadline) : Call Action := do
  let groups ← c.affinityGroups deadline
  unlessDone (!groups.contains name) .delete
    (c.channel.remove (Path.affinityGroup name) deadline)

/-! ## Storage accounts -/

/-- Create a storage account and track it. -/
def ensureStorageAccount (c : Client) (affinityGroup name : String) (deadline : Deadline) :
    Call Action := do
  let accounts ← c.storageAccounts deadline
  unlessDone (accounts.contains name) .create do
    c.channel.create Path.storageAccounts (ServiceOrder.mk name name affinityGroup) deadline
    track name

/-- Delete a storage account, which is not tracked afterwards, whether it was
there or not. -/
def deleteStorageAccount (c : Client) (name : String) (deadline : Deadline) : Call Action := do
  let accounts ← c.storageAccounts deadline
  let action ← unlessDone (!accounts.contains name) .delete
    (c.channel.remove (Path.storageAccount name) deadline)
  untrack name
  pure action

/-! ## Cloud services -/

/-- Create a cloud service, without waiting until it is set up. -/
def submitCloudService (c : Client) (affinityGroup name : String) (deadline : Deadline) :
    Call Action := do
  let services ← c.cloudServices deadline
  unlessDone (services.contains name) .create
    (c.channel.create Path.cloudServices (ServiceOrder.mk name name affinityGroup) deadline)

/-- Create a cloud service and wait until it is set up. -/
def ensureCloudService (c : Client) (affinityGroup name : String) (deadline : Deadline) :
    Call Action := do
  let action ← c.submitCloudService affinityGroup name deadline
  if action = .create then c.awaitCreated name deadline
  pure action

/-- Whether some slot of a cloud service is taken; they are looked at in
order, up to the first that is. -/
def isOccupied (c : Client) (service : String) (deadline : Deadline) : List String → Call Bool
  | [] => pure false
  | slot :: rest => do
    if (← c.deploymentInSlot? service slot deadline).isSome then pure true
    else isOccupied c service deadline rest

/-- **Delete a cloud service that holds no deployment.** While a slot is
taken the call does nothing. -/
def deleteCloudService (c : Client) (name : String) (deadline : Deadline) : Call Action := do
  if !(← c.cloudServices deadline).contains name then pure .unchanged
  else
    let occupied ← c.isOccupied name deadline [Deployment.production, Deployment.staging]
    unlessDone occupied .delete (c.channel.remove (Path.cloudService name) deadline)

/-! ## Disks -/

/-- Delete a disk, and the file behind it if `media` says so. -/
def deleteDisk (c : Client) (name : String) (media : Bool) (deadline : Deadline) :
    Call Action := do
  let found ← c.disk? name deadline
  unlessDone found.isNone .delete
    (c.channel.remove (if media then Path.diskWithMedia name else Path.disk name) deadline)

/-- Change the label of a disk, which has to exist. -/
def relabelDisk (c : Client) (name label : String) (deadline : Deadline) : Call Action := do
  match ← c.disk? name deadline with
  | none => fail (.notFound (.disk name))
  | some disk =>
    unlessDone (disk.label == some label) .update
      (c.channel.replace (Path.disk name) (DiskLabel.mk name label) c.wire.contentType deadline)

/-! ## Deployments and roles -/

/-- Hold a lock over a body for as long as the deadline allows to wait for
it. -/
def exclusively {α : Type} (domain : Domain) (deadline : Deadline) (body : Call α) : Call α := do
  holding domain (deadline.remaining (← now)) body

def deleteDeployment (c : Client) (service deployment : String) (deadline : Deadline) :
    Call Action :=
  exclusively .general deadline do
    let found ← c.deployment? service deployment deadline
    unlessDone found.isNone .delete
      (c.channel.remove (Path.deployment service deployment) deadline)

def deleteRole (c : Client) (service deployment role : String) (deadline : Deadline) :
    Call Action :=
  exclusively .general deadline do
    let found ← c.deployment? service deployment deadline
    unlessDone (found.bind (·.role? role)).isNone .delete
      (c.channel.remove (Path.role service deployment role) deadline)

end Client

end CloudOrchestration
