import CloudOrchestration.Client.Descriptor
import CloudOrchestration.Client.Networks
/-!
# Provisioning a machine

Where the machine goes is found out, and the machine submitted, under the
general lock, so that no two machines are submitted at the same time. The
lock is given up once the submission is settled; the machine boots outside of
it. If a step fails after the cloud service was made for this machine, the
service is deleted again, and the fault is that of the failed step whatever
becomes of the deletion.

A `Saga` is a call that keeps what it has settled when it fails.
-/

namespace CloudOrchestration

/-- What provisioning has settled so far. -/
structure Progress where
  descriptor : Descriptor
  /-- The cloud service that was made for this machine. -/
  created : Option String := none

/-- A call with progress that a fault does not undo. -/
abbrev Saga := ExceptT Fault (StateT Progress Call)

namespace Saga

variable {α : Type}

/-- A step of the saga. -/
def step (w : Call α) : Saga α := ExceptT.mk (StateT.lift w.attempt)

/-- Write down progress. -/
def note (f : Progress → Progress) : Saga Unit := ExceptT.lift (modify f)

/-- Settle something about the machine. -/
def settle (f : Descriptor → Descriptor) : Saga Unit :=
  note fun p => { p with descriptor := f p.descriptor }

/-- What is known about the machine so far. -/
def descriptor : Saga Descriptor := do return (← get).descriptor

/-- Run the saga for a machine: how it ended, and its progress. -/
def start (s : Saga α) (d : Descriptor) : Call (Except Fault α × Progress) :=
  (ExceptT.run s).run { descriptor := d }

end Saga

/-- How a machine is submitted. -/
inductive Submission where
  /-- As a role of a deployment that is there. -/
  | role
  /-- With a deployment of its own. -/
  | deployment
  deriving DecidableEq, Repr

namespace Client

open Workflow

/-! ## Where the machine goes -/

/-- Find the deployment for a machine whose cloud service is there. -/
def placeInService (c : Client) (service slot : String) (deadline : Deadline) :
    Saga Submission := do
  match ← Saga.step (c.deploymentInSlot? service slot deadline) with
  | some existing =>
    Saga.settle fun d => { d with deployment := some existing.name }
    return .role
  | none =>
    Saga.settle fun d => { d with deployment := some service }
    return .deployment

/-- Make the cloud service of a machine, unless it has come to be
meanwhile. -/
def placeInNewService (c : Client) (service affinityGroup : String) (deadline : Deadline) :
    Saga Submission := do
  let action ← Saga.step (c.submitCloudService affinityGroup service deadline)
  if action = .create then
    Saga.note fun p => { p with created := some service }
    Saga.step (c.awaitCreated service deadline)
  Saga.settle fun d => { d with deployment := some service }
  return .deployment

/-- Settle the cloud service and the deployment of a machine. -/
def place (c : Client) (service : String) (deadline : Deadline) : Saga Submission := do
  let d ← Saga.descriptor
  let found ← Saga.step (c.cloudService? service false deadline)
  let submission ←
    if found.isSome then c.placeInService service d.slot deadline
    else c.placeInNewService service d.affinityGroup deadline
  Saga.settle fun d => { d with service := some service }
  return submission

/-! ## The address -/

/-- The network of a machine. -/
def networkOf (c : Client) (d : Descriptor) : Option String := d.network <|> c.settings.network

/-- The first candidate that is free in a network. -/
def firstAvailable (c : Client) (network : String) (deadline : Deadline) :
    List String → Call (Option String)
  | [] => pure none
  | address :: rest => do
    if (← c.availability network address deadline).isAvailable then pure (some address)
    else firstAvailable c network deadline rest

/-- **An address for a machine**: the first candidate that is free, in a
subnet that exists. -/
def reserveAddress (c : Client) (d : Descriptor) (deadline : Deadline) : Call String := do
  match c.networkOf d with
  | none => fail (.invalidState .noNetwork)
  | some network =>
    match ← c.firstAvailable network deadline d.candidates with
    | none => fail (.invalidState (.noFreeAddress d.candidates network))
    | some address =>
      let subnet := d.subnet.getD ""
      let site := (← c.topology deadline).site? network
      if (site.bind (·.subnet? subnet)).isNone then
        fail (.invalidState (.noSubnet subnet network))
      else pure address

/-! ## Submitting -/

/-- The name of the deployment of a machine in a cloud service. -/
def deploymentName (d : Descriptor) (service : String) : String := d.deployment.getD service

/-- Send what has been settled. -/
def submitMachine (c : Client) (d : Descriptor) (service : String) (submission : Submission)
    (deadline : Deadline) : Call Unit :=
  let name := deploymentName d service
  let role := d.toRole service
  match submission with
  | .role => c.channel.create (Path.roles service name) role deadline
  | .deployment =>
    c.channel.create (Path.deployments service)
      (NewDeployment.mk name d.slot name [role] (c.networkOf d)) deadline

/-- The cloud service that a machine goes to. -/
def serviceOf (c : Client) (d : Descriptor) : String :=
  d.service.getD (c.generatedServiceName d.role)

/-- Settle where the machine goes and submit it; ends with the cloud
service. -/
def resolveAndSubmit (c : Client) (deadline : Deadline) : Saga String := do
  let service := c.serviceOf (← Saga.descriptor)
  let submission ← c.place service deadline
  unless (← Saga.descriptor).candidates.isEmpty do
    let address ← Saga.step (c.reserveAddress (← Saga.descriptor) deadline)
    Saga.settle fun d => { d with address := some address }
  Saga.step (c.submitMachine (← Saga.descriptor) service submission deadline)
  return service

/-! ## The machine -/

/-- Wait until a submitted machine is up, and attach its data disk. -/
def awaitMachine (c : Client) (d : Descriptor) (service : String) (deadline : Deadline) :
    Call Machine := do
  let name := deploymentName d service
  let _ ← c.awaitRunning service name deadline
  let deployment ← c.awaitRole service name d.role deadline
  match d.dataDiskGb with
  | some sizeGb =>
    let _ ← c.addDataDisk service name d.role d.storageAccount sizeGb deadline
  | none => pure ()
  match deployment.instance? d.role with
  | none => fail (.invalidState (.roleGone d.role name))
  | some i =>
    pure {
      role := i.role
      service
      deployment := name
      privateAddress := i.address
      publicAddress := (deployment.role? d.role).bind (·.publicAddress?) }

/-- Delete the cloud service that was made for a machine; whatever comes of
it is passed over. -/
def compensate (c : Client) (created : Option String) (deadline : Deadline) : Call Unit :=
  match created with
  | some service => regardless (c.deleteCloudService service deadline)
  | none => pure ()

/-- **Provision a machine** and wait until it is up. Along with the end comes
the descriptor with what was settled, also where the end is a fault. -/
def provision (c : Client) (d : Descriptor) (deadline : Deadline) :
    Call (Except Fault Machine × Descriptor) := do
  let headroom := c.settings.cadence.headroom.toNat
  let start ← now
  match deadline.budgetAfter start headroom with
  | none =>
    pure (.error (.lockTimeout (.noHeadroom d.role (deadline.remaining start) headroom)), d)
  | some budget =>
    match ← (holding .general budget ((c.resolveAndSubmit deadline).start d)).attempt with
    | .error fault => pure (.error fault, d)
    | .ok (submitted, progress) =>
      let outcome ← match submitted with
        | .ok service => (c.awaitMachine progress.descriptor service deadline).attempt
        | .error fault => pure (.error fault)
      match outcome with
      | .ok machine => pure (.ok machine, progress.descriptor)
      | .error fault =>
        c.compensate progress.created deadline
        pure (.error fault, progress.descriptor)

end Client

end CloudOrchestration
