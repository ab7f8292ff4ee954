import CloudOrchestration.Client.Basic
/-!
# Waiting for resources

What each wait looks at, and how it judges what it sees. The judgements on
machines and gateways are functions of their state alone.
-/

namespace CloudOrchestration

/-- The state of what is not there. -/
def notThere : String := "NotFound"

/-- What the status of an instance says about its getting ready. -/
def RoleInstance.readiness (status : String) : Readiness Unit :=
  if status = ready then .ready ()
  else if status ∈ failedStatuses then .stuck s!"role instance is in status {status}"
  else .pending status

namespace GatewayInfo

/-- What the state of a gateway says about its being set up. -/
def setUp : Option GatewayState → Readiness Unit
  | some .provisioned => .ready ()
  | some .deprovisioning => .stuck "gateway is being deprovisioned"
  | some state => .pending state.text
  | none => .stuck "virtual network has no gateway"

/-- What the state of a gateway says about its being taken down. -/
def takenDown : Option GatewayState → Readiness Unit
  | none | some .notProvisioned => .ready ()
  | some .provisioning => .stuck "gateway is being provisioned"
  | some state => .pending state.text

end GatewayInfo

namespace Client

open Workflow

variable {α β : Type}

/-- Wait for a state at the client's interval. -/
def await (c : Client) (deadline : Deadline) (what : String) (look : Call α)
    (judge : α → Readiness β) : Call β :=
  awaitState deadline c.interval what look judge

/-! ## Deployments and machines -/

def runningReadiness : Option Deployment → Readiness Deployment
  | some d => if d.status = Deployment.running then .ready d else .pending d.status
  | none => .pending notThere

def awaitRunning (c : Client) (service deployment : String) (deadline : Deadline) :
    Call Deployment :=
  c.await deadline s!"deployment {deployment} to be {Deployment.running}"
    (c.deployment? service deployment deadline) runningReadiness

/-- The judgement on the instance of a role; the deployment is what a wait
for it ends with. -/
def roleReadiness (role : String) (found : Option Deployment) : Readiness Deployment :=
  match found with
  | none => .pending notThere
  | some d =>
    match d.instance? role with
    | none => .pending notThere
    | some i =>
      match RoleInstance.readiness i.status with
      | .ready _ => .ready d
      | .pending state => .pending state
      | .stuck reason => .stuck reason

def awaitRole (c : Client) (service deployment role : String) (deadline : Deadline) :
    Call Deployment :=
  c.await deadline s!"role {role} to be {RoleInstance.ready}"
    (c.deployment? service deployment deadline) (roleReadiness role)

/-! ## Disks -/

/-- A disk is free once it is attached to no role; it must not be gone. -/
def detachedReadiness : Option Disk → Readiness Unit
  | none => .stuck "disk does not exist"
  | some d =>
    match d.attachedTo with
    | some a => .pending s!"attached to {a.role}"
    | none => .ready ()

def awaitDetached (c : Client) (disk : String) (deadline : Deadline) : Call Unit :=
  c.await deadline s!"disk {disk} to detach" (c.disk? disk deadline) detachedReadiness

def attachedReadiness : Option DataDisk → Readiness DataDisk
  | some d => .ready d
  | none => .pending notThere

/-- Only a disk that is not there is waited for. -/
theorem eq_none_of_attachedReadiness {found : Option DataDisk}
    (h : ∃ state, attachedReadiness found = .pending state) : found = none := by
  obtain ⟨state, hpending⟩ := h
  cases found with
  | none => rfl
  | some d => cases hpending

def awaitAttached (c : Client) (service deployment role : String) (lun : UInt8)
    (deadline : Deadline) : Call DataDisk :=
  c.await deadline s!"data disk at LUN {lun} of role {role}"
    (c.channel.getOptional (Path.dataDisk service deployment role lun) deadline)
    attachedReadiness

/-! ## Cloud services and gateways -/

def createdReadiness : Option CloudService → Readiness Unit
  | some s => if s.status = CloudService.created then .ready () else .pending s.status
  | none => .pending notThere

def awaitCreated (c : Client) (service : String) (deadline : Deadline) : Call Unit :=
  c.await deadline s!"cloud service {service} to be {CloudService.created}"
    (c.cloudService? service false deadline) createdReadiness

def awaitGateway (c : Client) (network : String) (deadline : Deadline) : Call Unit :=
  c.await deadline s!"gateway of {network} to be provisioned" (c.gateway? network deadline)
    fun found => GatewayInfo.setUp (found.map (·.state))

def awaitNoGateway (c : Client) (network : String) (deadline : Deadline) : Call Unit :=
  c.await deadline s!"gateway of {network} to be deprovisioned" (c.gateway? network deadline)
    fun found => GatewayInfo.takenDown (found.map (·.state))

end Client

end CloudOrchestration
