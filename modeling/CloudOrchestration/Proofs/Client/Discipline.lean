import CloudOrchestration.Proofs.Network.Calls
import CloudOrchestration.Proofs.Provisioning.Monitored
import CloudOrchestration.Proofs.Schedule.Sections
/-!
# The client keeps the discipline of locks

No call of the client waits for a lock while it holds one, and each gives
back what it has obtained, however it ends. So the locks exclude whatever the
order of steps, and no two calls can wait for each other.
-/

namespace CloudOrchestration

open Workflow Channel

variable {α β : Type} {c : Client} {deadline : Deadline} {p : Request → Prop}

/-- A request can go unanswered. -/
instance : Inhabited (Except Fault Response) := ⟨.error (.connection "")⟩

/-- **A call that keeps the discipline of locks** and holds none in the end. -/
def Disciplined (w : Call α) : Prop := Obeys lockDiscipline none w fun _ held => held = none

theorem disciplined_of_onlyAsks {w : Call α} (hw : OnlyAsks p w) : Disciplined w :=
  obeys_of_onlyAsks hw fun _ _ _ => rfl

theorem disciplined_done (a : α) : Disciplined (done a : Call α) :=
  disciplined_of_onlyAsks (onlyAsks_done (p := fun _ => True) a)

theorem disciplined_fail (fault : Fault) : Disciplined (fail fault : Call α) :=
  disciplined_of_onlyAsks (onlyAsks_fail (p := fun _ => True) fault)

theorem disciplined_bind {w : Call α} {f : α → Call β} (hw : Disciplined w)
    (hf : ∀ a, Disciplined (f a)) : Disciplined (w.bind f) := by
  refine obeys_bind hw ?_ fun _ _ h => h
  rintro a _ rfl
  exact hf a

/-- A lock may be held over what only asks. -/
theorem disciplined_holding {d : Domain} {budget : Nat} {body : Call α} (hbody : OnlyAsks p body) :
    Disciplined (holding d budget body) := by
  refine obeys_holding rfl ?_ ⟨none, rfl, rfl⟩
  refine (obeys_of_onlyAsks hbody fun _ _ _ => rfl).mono fun o held hheld => ?_
  exact ⟨none, by simp [hheld, lockDiscipline], rfl⟩

theorem disciplined_exclusively {d : Domain} {body : Call α} (hbody : OnlyAsks p body) :
    Disciplined (Client.exclusively d deadline body) :=
  obeys_now_bind fun _ => disciplined_holding hbody

/-! ## Guarded calls -/

/-- **A guarded call** has one section under the lock of a domain, and asks
for nothing outside of it. -/
structure Guarded (domain : Domain) (w : Call α) : Prop where
  disciplined : Disciplined w
  oneSection : Obeys (sectioned domain fun _ => False) .before w fun _ _ => True

section Guarded

variable {domain : Domain}

theorem guarded_exclusively {body : Call α} (hbody : OnlyAsks p body) :
    Guarded domain (Client.exclusively domain deadline body) where
  disciplined := disciplined_exclusively hbody
  oneSection := obeys_now_bind fun _ => (obeys_section hbody).mono fun _ _ _ => trivial

theorem guarded_fail (fault : Fault) : Guarded domain (fail fault : Call α) where
  disciplined := disciplined_fail fault
  oneSection := obeys_fail trivial

theorem guarded_map {w : Call α} (f : α → β) (hw : Guarded domain w) :
    Guarded domain (f <$> w) where
  disciplined := disciplined_bind hw.disciplined fun _ => disciplined_done _
  oneSection := obeys_bind hw.oneSection (fun _ _ _ => obeys_done trivial) fun _ _ _ => trivial

end Guarded

/-- A request of any kind. -/
def Request.Any (_ : Request) : Prop := True

namespace Client

/-! ## Networks -/

theorem onlyAsks_writeTopology {t : Topology} :
    OnlyAsks Request.Any (c.writeTopology t deadline) :=
  onlyAsks_replace (fun _ => trivial) trivial

/-- A part that reads the topology and may write it. -/
theorem onlyAsks_topology_bind {f : Topology → Call α} (hf : ∀ t, OnlyAsks Request.Any (f t)) :
    OnlyAsks Request.Any (c.topology deadline >>= f) :=
  onlyAsks_bind (onlyAsks_topology trivial) hf

theorem disciplined_mergeNetwork {delta : Delta} : Disciplined (c.mergeNetwork delta deadline) := by
  refine disciplined_bind (disciplined_exclusively (onlyAsks_topology_bind fun t =>
    onlyAsks_unlessDone onlyAsks_writeTopology)) fun action => ?_
  cases delta.vpn with
  | none => exact disciplined_done _
  | some vpn =>
    exact disciplined_bind (disciplined_of_onlyAsks onlyAsks_connect) fun _ => disciplined_done _

/-- **The calls on networks keep the discipline of locks.** -/
theorem disciplined_network (call : NetworkCall) :
    Disciplined (call.run c deadline) := by
  cases call with
  | merge delta => exact disciplined_mergeNetwork
  | ensureSite name affinityGroup addressSpace =>
    refine disciplined_bind disciplined_mergeNetwork fun action => ?_
    cases action <;> exact disciplined_done _
  | addSubnet site subnet addressPrefix =>
    refine disciplined_exclusively (onlyAsks_topology_bind fun t => ?_)
    split
    · exact onlyAsks_fail _
    · exact onlyAsks_unlessDone onlyAsks_writeTopology
  | removeSubnet site subnet =>
    refine disciplined_exclusively (onlyAsks_topology_bind fun t => ?_)
    split
    · exact onlyAsks_done _
    · exact onlyAsks_unlessDone onlyAsks_writeTopology
  | deleteSite name =>
    refine disciplined_bind (disciplined_of_onlyAsks (onlyAsks_topology (p := Request.Any) trivial))
      fun t => ?_
    split
    · exact disciplined_done _
    · refine disciplined_bind (disciplined_of_onlyAsks onlyAsks_removeGateway) fun _ => ?_
      exact disciplined_exclusively (onlyAsks_topology_bind fun t =>
        onlyAsks_unlessDone onlyAsks_writeTopology)

end Client

/-! ## Provisioning -/

/-- A request that deletes nothing. -/
def Request.Keeps (q : Request) : Prop := q.method ≠ .delete

theorem keeps_read (path : String) : (Request.read path).Keeps := (nomatch ·)

namespace Saga

/-- A saga that touches no lock, and deletes nothing. -/
def LeavesLocks (s : Saga α) : Prop := ∀ p, OnlyAsks Request.Keeps (s.resume p)

theorem leavesLocks_step {w : Call α} (hw : OnlyAsks Request.Keeps w) : LeavesLocks (step w) :=
  fun _ => onlyAsks_bind (onlyAsks_attempt hw) fun _ => onlyAsks_done _

theorem leavesLocks_quiet {w : Call α} (hw : OnlyAsks Request.IsQuiet w) :
    LeavesLocks (step w) :=
  leavesLocks_step (hw.mono fun _ hq => hq.1)

theorem leavesLocks_pure (a : α) : LeavesLocks (pure a : Saga α) := fun _ => onlyAsks_done _

theorem leavesLocks_note (f : Progress → Progress) : LeavesLocks (note f) := fun _ =>
  onlyAsks_done _

theorem leavesLocks_descriptor : LeavesLocks descriptor := fun _ => onlyAsks_done _

theorem leavesLocks_bind {s : Saga α} {f : α → Saga β} (hs : LeavesLocks s)
    (hf : ∀ a, LeavesLocks (f a)) : LeavesLocks (s >>= f) := by
  intro p
  rw [resume_bind]
  refine onlyAsks_bind (hs p) fun x => ?_
  obtain ⟨r, p'⟩ := x
  cases r with
  | ok a => exact hf a p'
  | error fault => exact onlyAsks_done _

end Saga

namespace Client

open Saga

variable {service : String} {d : Descriptor}

theorem onlyAsks_submitCloudService {affinityGroup : String} :
    OnlyAsks Request.Keeps (c.submitCloudService affinityGroup service deadline) :=
  onlyAsks_bind (onlyAsks_get (keeps_read _)) fun _ =>
    onlyAsks_unlessDone (onlyAsks_create (fun _ => keeps_read _) fun h => nomatch h)

theorem leavesLocks_place : LeavesLocks (c.place service deadline) := by
  have hend : ∀ submission : Submission, LeavesLocks (do
      Saga.settle fun d => { d with service := some service }
      return submission) := fun _ =>
    leavesLocks_bind (leavesLocks_note _) fun _ => leavesLocks_pure _
  have hnew : LeavesLocks (do
      Saga.settle fun d => { d with deployment := some service }
      return Submission.deployment) :=
    leavesLocks_bind (leavesLocks_note _) fun _ => leavesLocks_pure _
  refine leavesLocks_bind leavesLocks_descriptor fun d => ?_
  refine leavesLocks_bind (leavesLocks_quiet (onlyAsks_cloudService? isQuiet_read)) fun found => ?_
  cases found with
  | some _ =>
    have hslot : OnlyAsks Request.IsQuiet (c.deploymentInSlot? service d.slot deadline) :=
      onlyAsks_deploymentAt? (isQuiet_read _)
    refine leavesLocks_bind (leavesLocks_bind (leavesLocks_quiet hslot) fun existing => ?_) hend
    cases existing <;> exact leavesLocks_bind (leavesLocks_note _) fun _ => leavesLocks_pure _
  | none =>
    refine leavesLocks_bind (leavesLocks_bind (leavesLocks_step onlyAsks_submitCloudService)
      fun action => ?_) hend
    split
    · exact leavesLocks_bind (leavesLocks_note _) fun _ =>
        leavesLocks_bind (leavesLocks_quiet (onlyAsks_awaitCreated isQuiet_read)) fun _ => hnew
    · exact hnew

theorem leavesLocks_resolveAndSubmit : LeavesLocks (c.resolveAndSubmit deadline) := by
  have hsubmit : ∀ service submission, LeavesLocks (do
      Saga.step (c.submitMachine (← Saga.descriptor) service submission deadline)
      return service) := fun _ _ =>
    leavesLocks_bind leavesLocks_descriptor fun _ =>
      leavesLocks_bind (leavesLocks_quiet onlyAsks_submitMachine) fun _ => leavesLocks_pure _
  refine leavesLocks_bind leavesLocks_descriptor fun d => ?_
  refine leavesLocks_bind leavesLocks_place fun submission => ?_
  refine leavesLocks_bind leavesLocks_descriptor fun d' => ?_
  cases d'.candidates.isEmpty with
  | true => exact hsubmit _ _
  | false =>
    exact leavesLocks_bind leavesLocks_descriptor fun _ =>
      leavesLocks_bind (leavesLocks_quiet (onlyAsks_reserveAddress isQuiet_read)) fun _ =>
        leavesLocks_bind (leavesLocks_note _) fun _ => hsubmit _ _

theorem onlyAsks_submitted : OnlyAsks Request.Keeps (c.submitted d deadline) := by
  rw [← strictly_resolveAndSubmit]
  exact onlyAsks_bind (leavesLocks_resolveAndSubmit _) fun _ =>
    onlyAsks_bind (onlyAsks_ofExcept _) fun _ => onlyAsks_done _

theorem disciplined_awaitMachine : Disciplined (c.awaitMachine d service deadline) := by
  rw [awaitMachine_eq]
  refine disciplined_bind (disciplined_of_onlyAsks
    (onlyAsks_awaitRunning (p := Request.Any) trivial)) fun _ => ?_
  refine disciplined_bind (disciplined_of_onlyAsks
    (onlyAsks_awaitRole (p := Request.Any) trivial)) fun deployment => ?_
  have hend : Disciplined (ofExcept (machineIn d service deployment) : Call Machine) :=
    disciplined_of_onlyAsks (onlyAsks_ofExcept (p := Request.Any) _)
  cases d.dataDiskGb with
  | some sizeGb =>
    have hdisk : Disciplined (c.addDataDisk service (deploymentName d service) d.role
        d.storageAccount sizeGb deadline) :=
      disciplined_exclusively (p := Request.Any) (onlyAsks_bind onlyAsks_draw fun _ =>
        onlyAsks_submitDataDisk (fun _ => trivial) trivial trivial)
    exact disciplined_bind hdisk fun _ => hend
  | none => exact hend

theorem onlyAsks_deleteCloudService {p : Request → Prop} (hread : ∀ path, p (.read path))
    (hdelete : p (deletionOf service)) : OnlyAsks p (c.deleteCloudService service deadline) := by
  refine onlyAsks_bind (onlyAsks_get (hread _)) fun services => ?_
  split
  · exact onlyAsks_done _
  · exact onlyAsks_bind (onlyAsks_isOccupied (fun _ => hread _) _) fun _ =>
      onlyAsks_unlessDone (onlyAsks_remove (fun _ => hread _) hdelete)

theorem disciplined_uncompensated : Disciplined (c.uncompensated d deadline) := by
  refine obeys_now_bind fun start => ?_
  split
  · exact disciplined_fail _
  · exact disciplined_bind (disciplined_holding onlyAsks_submitted) fun _ =>
      disciplined_bind disciplined_awaitMachine fun _ => disciplined_done _

/-- **Provisioning keeps the discipline of locks.** -/
theorem disciplined_provision : Disciplined (c.provision d deadline) := by
  have hsubmit : ∀ budget,
      Disciplined (holding .general budget ((c.resolveAndSubmit deadline).start d)) :=
    fun _ => disciplined_holding (leavesLocks_resolveAndSubmit _)
  have hdelete : OnlyAsks Request.Any (c.deleteCloudService (c.serviceOf d) deadline) :=
    onlyAsks_deleteCloudService (fun _ => trivial) trivial
  exact obeys_provision_of rfl rfl
    (fun budget => (hsubmit budget).mono fun _ _ hheld => ⟨fun _ _ => hheld, hheld⟩)
    (fun _ _ => disciplined_awaitMachine) (disciplined_of_onlyAsks hdelete)

end Client

end CloudOrchestration
