import CloudOrchestration.Client.Lifecycle
/-!
# Taking machines down

A machine is deleted together with its disks. If it shares its deployment
with others only its role goes; otherwise the whole deployment does, and the
storage accounts of the client with it. Once the cloud service has been seen
to, what is left behind of disks and accounts does not make the call fail.
-/

namespace CloudOrchestration

namespace Client

open Workflow

/-- Delete a disk, and the file behind it, once it is free. -/
def deleteReleasedDisk (c : Client) (disk : String) (deadline : Deadline) : Call Unit := do
  c.awaitDetached disk deadline
  let _ ← c.deleteDisk disk true deadline

/-- The deployment, its cloud service, and the role that owns an address. -/
def machineOwning (c : Client) (address : String) (deadline : Deadline) :
    Call (Deployment × String × Role) := do
  match ← c.deploymentOwning? address deadline with
  | none => fail (.notFound (.deploymentAt address))
  | some d =>
    match d.service with
    | none => fail (.protocol (.noService d.name))
    | some service =>
      match (d.instanceAt? address).bind fun i => d.role? i.role with
      | none => fail (.notFound (.roleAt address d.name))
      | some role => pure (d, service, role)

/-- **Delete the machine that owns an address**, with its disks. -/
def deleteMachineAt (c : Client) (address : String) (deadline : Deadline) : Call Unit := do
  let (d, service, role) ← c.machineOwning address deadline
  let isShared := 2 ≤ d.roles.length
  if isShared then
    let _ ← c.deleteRole service d.name role.name deadline
  else
    let _ ← c.deleteDeployment service d.name deadline
  let _ ← c.deleteCloudService service deadline
  role.diskNames.forM fun disk => regardless (c.deleteReleasedDisk disk deadline)
  unless isShared do
    (← tracked).forM fun account => regardless (c.deleteStorageAccount account deadline)

/-- **Delete a deployment**, its cloud service and every disk attached to
it. -/
def deleteMachinesOf (c : Client) (service deployment : String) (deadline : Deadline) :
    Call Unit := do
  let disks := ((← c.disks deadline).attachedTo service).map (·.name)
  if disks.isEmpty then fail (.invalidState (.noDisks service))
  else
    let _ ← c.deleteDeployment service deployment deadline
    let _ ← c.deleteCloudService service deadline
    disks.forM fun disk => c.deleteReleasedDisk disk deadline

end Client

end CloudOrchestration
