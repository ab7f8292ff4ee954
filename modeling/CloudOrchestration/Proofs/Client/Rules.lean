import CloudOrchestration.Proofs.Channel.Timing
import CloudOrchestration.Proofs.Client.Operations
import CloudOrchestration.Proofs.Provisioning.Saga
import CloudOrchestration.Proofs.Workflow.Accounts
/-!
# Every call heeds the rules

A call of the client does at every branch what any rule for its deadline allows
(`heeds_operation`): it asks, sleeps no longer than to the deadline, and waits for a
lock within it. So it keeps to its deadline (`punctual_operation`). Of the tracked
accounts a rule need not allow anything, and most calls have nothing to do with them;
three do (`Operation.tendsAccounts`).
-/

namespace CloudOrchestration

open Workflow Channel

variable {α β : Type} {c : Client} {deadline : Deadline}
variable {rule : Rule deadline Request (Except Fault Response)}

/-! ## Sagas -/

namespace Saga

/-- A saga that heeds a rule, whatever its progress. -/
def Heeds (rule : Rule deadline Request (Except Fault Response)) (s : Saga α) : Prop :=
  ∀ p, (s.resume p).Heeds rule

theorem heeds_step {w : Call α} (hw : w.Heeds rule) : Heeds rule (step w) :=
  fun _ => heeds_bind (heeds_attempt hw) fun _ => heeds_done _

theorem heeds_pure (a : α) : Heeds rule (pure a : Saga α) := fun _ => heeds_done _

theorem heeds_note (f : Progress → Progress) : Heeds rule (note f) :=
  fun _ => heeds_done _

theorem heeds_descriptor : Heeds rule descriptor := fun _ => heeds_done _

theorem Heeds.bind {s : Saga α} {f : α → Saga β} (hs : Heeds rule s)
    (hf : ∀ a, Heeds rule (f a)) : Heeds rule (s >>= f) := by
  intro p
  rw [resume_bind]
  refine heeds_bind (hs p) fun x => ?_
  obtain ⟨r, p'⟩ := x
  cases r with
  | ok a => exact hf a p'
  | error fault => exact heeds_done _

end Saga

/-- Whether a call is on storage accounts. -/
def Operation.tendsAccounts : Operation → Bool
  | lifecycle (.ensureStorageAccount _ _) | lifecycle (.deleteStorageAccount _)
  | deleteMachineAt _ => true
  | _ => false

namespace Client

variable {service deployment role name network : String}

/-! ## The ways of the client -/

/-- **The budget for a lock ends at the deadline.** -/
theorem heeds_exclusively {domain : Domain} {body : Call α} (hbody : body.Heeds rule) :
    (exclusively domain deadline body).Heeds rule :=
  fun _ => heedsFrom_now_bind (heedsFrom_holding (Nat.le_refl _) hbody)

theorem heeds_unlessDone {isDone : Bool} {action : Action} {change : Call Unit}
    (hchange : change.Heeds rule) :
    (unlessDone isDone action change).Heeds rule := by
  cases isDone with
  | true => exact heeds_done _
  | false => exact heeds_bind hchange fun _ => heeds_done _

/-! ## Reads -/

theorem heeds_cloudService? {detail : Bool} :
    (c.cloudService? name detail deadline).Heeds rule :=
  heeds_bind heeds_getOptional fun _ => heeds_done _

theorem heeds_deploymentAt? {path : String} :
    (c.deploymentAt? service path deadline).Heeds rule :=
  heeds_bind heeds_getOptional fun _ => heeds_done _

theorem heeds_findOwner {address : String} (services : List CloudService) :
    (c.findOwner address deadline services).Heeds rule := by
  induction services with
  | nil => exact heeds_done _
  | cons listed rest ih =>
    refine heeds_bind heeds_cloudService? fun service => ?_
    split
    · exact heeds_done _
    · exact ih

theorem heeds_deploymentOwning? {address : String} :
    (c.deploymentOwning? address deadline).Heeds rule :=
  heeds_bind heeds_get fun _ => heeds_findOwner _

theorem heeds_disk? : (c.disk? name deadline).Heeds rule :=
  heeds_bind heeds_get fun _ => heeds_done _

theorem heeds_topology : (c.topology deadline).Heeds rule :=
  heeds_bind heeds_getOptional fun _ => heeds_done _

theorem heeds_dataDisk? {lun : UInt8} :
    (c.dataDisk? service deployment role lun deadline).Heeds rule :=
  heeds_bind (heeds_ofExcept _) fun _ => heeds_getOptional

theorem heeds_query (q : Query) : (q.run c deadline).Heeds rule := by
  cases q with
  | affinityGroups | storageAccounts | cloudServices | disks | availability => exact heeds_get
  | cloudService => exact heeds_cloudService?
  | deploymentInSlot | deployment => exact heeds_deploymentAt?
  | deploymentOwning => exact heeds_deploymentOwning?
  | disk => exact heeds_disk?
  | topology => exact heeds_topology
  | gateway => exact heeds_getOptional
  | dataDisk => exact heeds_dataDisk?

/-! ## Waits -/

theorem heeds_wait (w : Wait) : (w.run c deadline).Heeds rule := by
  cases w with
  | running | role => exact heeds_awaitState heeds_deploymentAt?
  | detached => exact heeds_awaitState heeds_disk?
  | created => exact heeds_awaitState heeds_cloudService?
  | attached | gateway | noGateway => exact heeds_awaitState heeds_getOptional

/-! ## Creating and deleting -/

theorem heeds_submitCloudService {affinityGroup : String} :
    (c.submitCloudService affinityGroup name deadline).Heeds rule :=
  heeds_bind heeds_get fun _ => heeds_unlessDone heeds_create

/-- So does the look at every slot. -/
theorem heeds_isOccupied (slots : List String) :
    (c.isOccupied service deadline slots).Heeds rule := by
  induction slots with
  | nil => exact heeds_done _
  | cons slot rest ih =>
    refine heeds_bind heeds_deploymentAt? fun found => ?_
    split
    · exact heeds_done _
    · exact ih

theorem heeds_deleteCloudService :
    (c.deleteCloudService name deadline).Heeds rule := by
  refine heeds_bind heeds_get fun services => ?_
  split
  · exact heeds_done _
  · exact heeds_bind (heeds_isOccupied _) fun _ => heeds_unlessDone heeds_remove

theorem heeds_deleteStorageAccount (haccounts : rule.AllowsAccounts) :
    (c.deleteStorageAccount name deadline).Heeds rule := by
  refine heeds_bind heeds_get fun accounts => ?_
  refine heeds_bind (heeds_unlessDone heeds_remove) fun action => ?_
  exact heeds_bind (heeds_effect fun t => haccounts t _ rfl) fun _ => heeds_done _

theorem heeds_deleteDisk {media : Bool} :
    (c.deleteDisk name media deadline).Heeds rule :=
  heeds_bind heeds_disk? fun _ => heeds_unlessDone heeds_remove

theorem heeds_deleteDeployment :
    (c.deleteDeployment service deployment deadline).Heeds rule :=
  heeds_exclusively (heeds_bind heeds_deploymentAt? fun _ =>
    heeds_unlessDone heeds_remove)

theorem heeds_deleteRole :
    (c.deleteRole service deployment role deadline).Heeds rule :=
  heeds_exclusively (heeds_bind heeds_deploymentAt? fun _ =>
    heeds_unlessDone heeds_remove)

/-! ## Data disks -/

theorem heeds_submitDataDisk {disk : DataDisk} :
    (c.submitDataDisk service deployment role disk deadline).Heeds rule :=
  heeds_bind heeds_create fun _ => heeds_wait (.attached service deployment role disk.lun)

theorem heeds_detachDataDiskUnlocked {lun : UInt8} :
    (c.detachDataDiskUnlocked service deployment role lun deadline).Heeds rule := by
  refine heeds_bind heeds_dataDisk? fun found => ?_
  cases found with
  | none => exact heeds_done _
  | some disk =>
    refine heeds_bind heeds_remove fun _ => ?_
    split
    next name _ => exact heeds_bind (heeds_wait (.detached name)) fun _ => heeds_done _
    · exact heeds_done _

theorem heeds_detachDataDisk {lun : UInt8} :
    (c.detachDataDisk service deployment role lun deadline).Heeds rule := by
  rw [detachDataDisk_eq]
  exact heeds_detachDataDiskUnlocked

theorem heeds_addDataDisk {account : String} {sizeGb : UInt32} :
    (c.addDataDisk service deployment role account sizeGb deadline).Heeds rule :=
  heeds_exclusively (heeds_bind (heeds_effect rule.draw) fun _ => heeds_submitDataDisk)

theorem heeds_disk (call : DiskCall) : (call.run c deadline).Heeds rule := by
  cases call with
  | add service deployment role account sizeGb =>
    exact heeds_bind heeds_addDataDisk fun _ => heeds_done _
  | attach service deployment role disk lun =>
    refine heeds_bind (heeds_bind (heeds_ofExcept _) fun _ => ?_) fun _ => heeds_done _
    exact heeds_exclusively heeds_submitDataDisk
  | create service deployment role account file sizeGb =>
    refine heeds_bind (heeds_exclusively ?_) fun _ => heeds_done _
    refine heeds_bind heeds_dataDisk? fun found => ?_
    split
    · exact heeds_fail _
    · refine heeds_bind heeds_submitDataDisk fun attached => ?_
      split
      · exact heeds_fail _
      · exact heeds_bind heeds_detachDataDiskUnlocked fun _ => heeds_done _
  | detach service deployment role lun =>
    exact heeds_bind heeds_detachDataDisk fun _ => heeds_done _

/-- Two of these calls are on storage accounts. -/
theorem heeds_lifecycle (call : LifecycleCall)
    (haccounts : (Operation.lifecycle call).tendsAccounts → rule.AllowsAccounts) :
    (call.run c deadline).Heeds rule := by
  cases call with
  | ensureAffinityGroup name location =>
    exact heeds_bind heeds_get fun _ => heeds_unlessDone heeds_create
  | deleteAffinityGroup name =>
    exact heeds_bind heeds_get fun _ => heeds_unlessDone heeds_remove
  | ensureStorageAccount affinityGroup name =>
    exact heeds_bind heeds_get fun _ => heeds_unlessDone
      (heeds_bind heeds_create fun _ => heeds_effect fun t => haccounts rfl t _ rfl)
  | deleteStorageAccount name => exact heeds_deleteStorageAccount (haccounts rfl)
  | ensureCloudService affinityGroup name =>
    refine heeds_bind heeds_submitCloudService fun action => ?_
    split
    · exact heeds_bind (heeds_wait (.created name)) fun _ => heeds_done _
    · exact heeds_done _
  | deleteCloudService name => exact heeds_deleteCloudService
  | deleteDisk name media => exact heeds_deleteDisk
  | relabelDisk name label =>
    refine heeds_bind heeds_disk? fun found => ?_
    cases found with
    | none => exact heeds_fail _
    | some disk => exact heeds_unlessDone heeds_replace
  | deleteDeployment service deployment => exact heeds_deleteDeployment
  | deleteRole service deployment role => exact heeds_deleteRole
  | detachDataDisk service deployment role lun => exact heeds_detachDataDisk

/-! ## Networks -/

theorem heeds_connect {vpn : Vpn} : (c.connect network vpn deadline).Heeds rule := by
  have hseen : ∀ state, (c.gatewayIs network state deadline).Heeds rule := fun _ =>
    heeds_bind heeds_getOptional fun _ => heeds_done _
  have hkey : Workflow.Heeds rule (do
      if ← c.gatewayIs network .provisioned deadline then
        c.channel.create (Path.sharedKey network vpn.localSite.name)
          (SharedKey.mk vpn.sharedKey) deadline) := by
    refine heeds_bind (hseen _) fun present => ?_
    split
    · exact heeds_create
    · exact heeds_done _
  refine heeds_bind (hseen _) fun absent => ?_
  cases absent with
  | true =>
    exact heeds_bind (heeds_bind heeds_create fun _ => heeds_wait (.gateway network))
      fun _ => hkey
  | false => exact hkey

theorem heeds_removeGateway : (c.removeGateway network deadline).Heeds rule := by
  refine heeds_bind heeds_getOptional fun found => ?_
  cases found with
  | none => exact heeds_done _
  | some info =>
    dsimp only
    split
    · exact heeds_bind heeds_remove fun _ => heeds_wait (.noGateway network)
    · exact heeds_done _

theorem heeds_mergeNetwork {delta : Delta} :
    (c.mergeNetwork delta deadline).Heeds rule := by
  refine heeds_bind (heeds_exclusively (heeds_bind heeds_topology fun _ =>
    heeds_unlessDone heeds_replace)) fun action => ?_
  cases delta.vpn with
  | none => exact heeds_done _
  | some vpn => exact heeds_bind heeds_connect fun _ => heeds_done _

theorem heeds_network (call : NetworkCall) : (call.run c deadline).Heeds rule := by
  cases call with
  | merge delta => exact heeds_mergeNetwork
  | ensureSite name affinityGroup addressSpace =>
    refine heeds_bind heeds_mergeNetwork fun action => ?_
    cases action <;> exact heeds_done _
  | addSubnet site subnet addressPrefix =>
    refine heeds_exclusively (heeds_bind heeds_topology fun t => ?_)
    split
    · exact heeds_fail _
    · exact heeds_unlessDone heeds_replace
  | removeSubnet site subnet =>
    refine heeds_exclusively (heeds_bind heeds_topology fun t => ?_)
    split
    · exact heeds_done _
    · exact heeds_unlessDone heeds_replace
  | deleteSite name =>
    refine heeds_bind heeds_topology fun t => ?_
    split
    · exact heeds_done _
    · refine heeds_bind heeds_removeGateway fun _ => ?_
      exact heeds_exclusively (heeds_bind heeds_topology fun _ =>
        heeds_unlessDone heeds_replace)

/-! ## Machines -/

theorem heeds_firstAvailable (candidates : List String) :
    (c.firstAvailable network deadline candidates).Heeds rule := by
  induction candidates with
  | nil => exact heeds_done _
  | cons address rest ih =>
    refine heeds_bind heeds_get fun availability => ?_
    split
    · exact heeds_done _
    · exact ih

theorem heeds_reserveAddress {d : Descriptor} :
    (c.reserveAddress d deadline).Heeds rule := by
  unfold reserveAddress
  split
  · exact heeds_fail _
  · refine heeds_bind (heeds_firstAvailable _) fun found => ?_
    cases found with
    | none => exact heeds_fail _
    | some address =>
      refine heeds_bind heeds_topology fun t => ?_
      dsimp only
      split
      · exact heeds_fail _
      · exact heeds_done _

theorem heeds_submitMachine {d : Descriptor} {submission : Submission} :
    (c.submitMachine d service submission deadline).Heeds rule := by
  cases submission <;> exact heeds_create

theorem heeds_place : Saga.Heeds rule (c.place service deadline) := by
  have hdeployment : Saga.Heeds rule (do
      Saga.settle fun d => { d with deployment := some service }
      return Submission.deployment) :=
    (Saga.heeds_note _).bind fun _ => Saga.heeds_pure _
  have hinService : ∀ slot, Saga.Heeds rule (c.placeInService service slot deadline) := by
    intro slot
    refine (Saga.heeds_step heeds_deploymentAt?).bind fun existing => ?_
    cases existing with
    | some _ => exact (Saga.heeds_note _).bind fun _ => Saga.heeds_pure _
    | none => exact hdeployment
  have hinNewService : ∀ affinityGroup,
      Saga.Heeds rule (c.placeInNewService service affinityGroup deadline) := by
    intro affinityGroup
    refine (Saga.heeds_step heeds_submitCloudService).bind fun action => ?_
    split
    · refine (Saga.heeds_note _).bind fun _ => ?_
      exact (Saga.heeds_step (heeds_wait (.created service))).bind fun _ => hdeployment
    · exact hdeployment
  refine Saga.heeds_descriptor.bind fun d => ?_
  refine (Saga.heeds_step heeds_cloudService?).bind fun found => ?_
  have hend : ∀ submission : Submission, Saga.Heeds rule (do
      Saga.settle fun d => { d with service := some service }
      return submission) := fun _ =>
    (Saga.heeds_note _).bind fun _ => Saga.heeds_pure _
  cases found with
  | some _ => exact (hinService _).bind hend
  | none => exact (hinNewService _).bind hend

/-- **The saga heeds the rule**, also where it fails. -/
theorem heeds_resolveAndSubmit : Saga.Heeds rule (c.resolveAndSubmit deadline) := by
  have hsubmit : ∀ service submission, Saga.Heeds rule (do
      Saga.step (c.submitMachine (← Saga.descriptor) service submission deadline)
      return service) := fun _ _ =>
    Saga.heeds_descriptor.bind fun _ =>
      (Saga.heeds_step heeds_submitMachine).bind fun _ => Saga.heeds_pure _
  refine Saga.heeds_descriptor.bind fun d => ?_
  refine heeds_place.bind fun submission => ?_
  refine Saga.heeds_descriptor.bind fun d' => ?_
  cases d'.candidates.isEmpty with
  | true => exact hsubmit _ _
  | false =>
    refine Saga.heeds_descriptor.bind fun d'' => ?_
    refine (Saga.heeds_step heeds_reserveAddress).bind fun address => ?_
    exact (Saga.heeds_note _).bind fun _ => hsubmit _ _

theorem heeds_awaitMachine {d : Descriptor} :
    (c.awaitMachine d service deadline).Heeds rule := by
  refine heeds_bind (heeds_wait (.running service _)) fun _ => ?_
  refine heeds_bind (heeds_wait (.role service _ d.role)) fun deployment => ?_
  cases d.dataDiskGb with
  | some sizeGb =>
    refine heeds_bind heeds_addDataDisk fun _ => ?_
    split
    · exact heeds_fail _
    · exact heeds_done _
  | none =>
    dsimp only
    split
    · exact heeds_fail _
    · exact heeds_done _

theorem heeds_compensate {created : Option String} :
    (c.compensate created deadline).Heeds rule := by
  cases created with
  | none => exact heeds_done _
  | some service => exact heeds_regardless heeds_deleteCloudService

/-- Its budget for the lock leaves even the headroom free. -/
theorem heeds_provision {d : Descriptor} : (c.provision d deadline).Heeds rule := by
  intro t
  refine heedsFrom_now_bind ?_
  split
  · trivial
  next budget hbudget =>
    obtain ⟨-, -, hsum⟩ := Deadline.budgetAfter_eq_some_iff.1 hbudget
    have hle : budget ≤ deadline.remaining t := hsum ▸ Nat.le_add_right ..
    have hsubmit : (holding .general budget
        ((c.resolveAndSubmit deadline).start d)).HeedsFrom rule t :=
      heedsFrom_holding hle (heeds_resolveAndSubmit _)
    refine heedsFrom_bind (heedsFrom_attempt hsubmit) fun submitted t' _ => ?_
    have hfailed : ∀ (fault : Fault) (progress : Progress), Workflow.Heeds rule (do
        c.compensate progress.created deadline
        pure (.error fault, progress.descriptor) : Call (Except Fault Machine × Descriptor)) :=
      fun _ _ => heeds_bind heeds_compensate fun _ => heeds_done _
    cases submitted with
    | error fault => trivial
    | ok x =>
      obtain ⟨submitted, progress⟩ := x
      cases submitted with
      | error fault => exact hfailed fault progress t'
      | ok service =>
        refine heeds_bind (heeds_attempt heeds_awaitMachine) (fun outcome => ?_) t'
        cases outcome with
        | ok machine => exact heeds_done _
        | error fault => exact hfailed fault progress

theorem heeds_deleteReleasedDisk {disk : String} :
    (c.deleteReleasedDisk disk deadline).Heeds rule :=
  heeds_bind (heeds_wait (.detached disk)) fun _ =>
    heeds_bind heeds_deleteDisk fun _ => heeds_done _

theorem heeds_machineOwning {address : String} :
    (c.machineOwning address deadline).Heeds rule := by
  refine heeds_bind heeds_deploymentOwning? fun found => ?_
  cases found with
  | none => exact heeds_fail _
  | some d =>
    dsimp only
    split
    · exact heeds_fail _
    · split
      · exact heeds_fail _
      · exact heeds_done _

/-- Whatever disks and accounts are left behind, each is tried as the rule allows. -/
theorem heeds_deleteMachineAt {address : String} (haccounts : rule.AllowsAccounts) :
    (c.deleteMachineAt address deadline).Heeds rule := by
  have hdisks : ∀ disks : List String, Workflow.Heeds rule (disks.forM fun disk =>
      regardless (c.deleteReleasedDisk disk deadline)) := fun _ =>
    heeds_forM fun _ => heeds_regardless heeds_deleteReleasedDisk
  have htries : ∀ accounts : List String, Workflow.Heeds rule (accounts.forM
      fun account => regardless (c.deleteStorageAccount account deadline)) := fun _ =>
    heeds_forM fun _ => heeds_regardless (heeds_deleteStorageAccount haccounts)
  refine heeds_bind heeds_machineOwning fun x => ?_
  obtain ⟨d, service, role⟩ := x
  dsimp only
  split
  · refine heeds_bind heeds_deleteRole fun _ => ?_
    refine heeds_bind heeds_deleteCloudService fun _ => ?_
    exact heeds_bind (hdisks _) fun _ => heeds_done _
  · refine heeds_bind heeds_deleteDeployment fun _ => ?_
    refine heeds_bind heeds_deleteCloudService fun _ => ?_
    refine heeds_bind (hdisks _) fun _ => ?_
    exact heeds_bind (heeds_effect fun t => haccounts t _ rfl) htries

theorem heeds_deleteMachinesOf :
    (c.deleteMachinesOf service deployment deadline).Heeds rule := by
  refine heeds_bind heeds_get fun disks => ?_
  dsimp only
  split
  · exact heeds_fail _
  · refine heeds_bind heeds_deleteDeployment fun _ => ?_
    refine heeds_bind heeds_deleteCloudService fun _ => ?_
    exact heeds_forM fun _ => heeds_deleteReleasedDisk

/-- **Every call heeds the rule**, if that allows the calls on accounts what they do. -/
theorem heeds_operation (op : Operation) (haccounts : op.tendsAccounts → rule.AllowsAccounts) :
    (op.run c deadline).Heeds rule := by
  cases op with
  | query q => exact heeds_query q
  | wait w => exact heeds_wait w
  | lifecycle call => exact heeds_lifecycle call haccounts
  | network call => exact heeds_network call
  | disk call => exact heeds_disk call
  | provision d => exact heeds_provision
  | deleteMachineAt address => exact heeds_deleteMachineAt (haccounts rfl)
  | deleteMachinesOf service deployment => exact heeds_deleteMachinesOf

/-- **Every call keeps to its deadline.** -/
theorem punctual_operation (op : Operation) : (op.run c deadline).Punctual deadline :=
  punctual_iff.2 (heeds_operation op fun _ => Rule.allowsAccounts_punctual)

/-- **Most calls spare the tracked accounts.** -/
theorem sparing_operation {op : Operation} (h : op.tendsAccounts = false) :
    (op.run c deadline).Heeds (.sparing deadline) :=
  heeds_operation op fun htends => absurd htends (by simp [h])

end Client

end CloudOrchestration
