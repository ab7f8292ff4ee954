import CloudOrchestration.Client.Teardown
import CloudOrchestration.Proofs.Lifecycle.Effects
/-!
# What a client offers

Everything that can be asked of a client and takes a deadline, as one type:
reads, waits, the calls that create and delete, those on networks and data
disks, and the three that bring up and take down machines. What holds of every
call is a statement about `Operation`.
-/

namespace CloudOrchestration

/-- A call that only reads. -/
inductive Query where
  | affinityGroups
  | storageAccounts
  | cloudServices
  | cloudService (name : String) (detail : Bool)
  | deploymentInSlot (service slot : String)
  | deployment (service name : String)
  | deploymentOwning (address : String)
  | disks
  | disk (name : String)
  | topology
  | gateway (network : String)
  | availability (network address : String)
  | dataDisk (service deployment role : String) (lun : UInt8)
  deriving DecidableEq, Repr

namespace Query

/-- What is read. -/
@[reducible] def Answer : Query → Type
  | affinityGroups => AffinityGroups
  | storageAccounts => StorageAccounts
  | cloudServices => CloudServices
  | cloudService _ _ => Option CloudService
  | deploymentInSlot _ _ | deployment _ _ | deploymentOwning _ => Option Deployment
  | disks => Disks
  | disk _ => Option Disk
  | topology => Topology
  | gateway _ => Option GatewayInfo
  | availability _ _ => Availability
  | dataDisk _ _ _ _ => Option DataDisk

/-- The call itself. -/
def run (c : Client) (deadline : Deadline) : (q : Query) → Call q.Answer
  | affinityGroups => c.affinityGroups deadline
  | storageAccounts => c.storageAccounts deadline
  | cloudServices => c.cloudServices deadline
  | cloudService name detail => c.cloudService? name detail deadline
  | deploymentInSlot service slot => c.deploymentInSlot? service slot deadline
  | deployment service name => c.deployment? service name deadline
  | deploymentOwning address => c.deploymentOwning? address deadline
  | disks => c.disks deadline
  | disk name => c.disk? name deadline
  | topology => c.topology deadline
  | gateway network => c.gateway? network deadline
  | availability network address => c.availability network address deadline
  | dataDisk service name role lun => c.dataDisk? service name role lun deadline

end Query

/-- A call that waits for a resource. -/
inductive Wait where
  | running (service deployment : String)
  | role (service deployment role : String)
  | detached (disk : String)
  | attached (service deployment role : String) (lun : UInt8)
  | created (service : String)
  | gateway (network : String)
  | noGateway (network : String)
  deriving DecidableEq, Repr

namespace Wait

/-- What a wait ends with. -/
@[reducible] def Answer : Wait → Type
  | running _ _ | role _ _ _ => Deployment
  | attached _ _ _ _ => DataDisk
  | detached _ | created _ | gateway _ | noGateway _ => Unit

/-- The call itself. -/
def run (c : Client) (deadline : Deadline) : (w : Wait) → Call w.Answer
  | running service deployment => c.awaitRunning service deployment deadline
  | role service deployment name => c.awaitRole service deployment name deadline
  | detached disk => c.awaitDetached disk deadline
  | attached service deployment name lun => c.awaitAttached service deployment name lun deadline
  | created service => c.awaitCreated service deadline
  | gateway network => c.awaitGateway network deadline
  | noGateway network => c.awaitNoGateway network deadline

end Wait

/-- **A call of the client.** -/
inductive Operation where
  | query (q : Query)
  | wait (w : Wait)
  | lifecycle (call : LifecycleCall)
  | network (call : NetworkCall)
  | disk (call : DiskCall)
  | provision (d : Descriptor)
  | deleteMachineAt (address : String)
  | deleteMachinesOf (service deployment : String)

namespace Operation

/-- What a call answers. -/
@[reducible] def Answer : Operation → Type
  | query q => q.Answer
  | wait w => w.Answer
  | lifecycle _ | network _ => Action
  | disk _ => DiskAnswer
  | provision _ => Except Fault Machine × Descriptor
  | deleteMachineAt _ | deleteMachinesOf _ _ => Unit

/-- The call itself. -/
def run (c : Client) (deadline : Deadline) : (op : Operation) → Call op.Answer
  | query q => q.run c deadline
  | wait w => w.run c deadline
  | lifecycle call => call.run c deadline
  | network call => call.run c deadline
  | disk call => call.run c deadline
  | provision d => c.provision d deadline
  | deleteMachineAt address => c.deleteMachineAt address deadline
  | deleteMachinesOf service deployment => c.deleteMachinesOf service deployment deadline

/-- The call along with what it is, for calls of different kinds to run
together. -/
def call (c : Client) (deadline : Deadline) (op : Operation) :
    Call ((op : Operation) × op.Answer) :=
  (⟨op, ·⟩) <$> op.run c deadline

end Operation

end CloudOrchestration
