import CloudOrchestration.Proofs.Client.Operations
import CloudOrchestration.Proofs.Provisioning.Legs
import CloudOrchestration.Proofs.Provisioning.Serial
/-!
# One lock at a time

Every call of the client keeps the discipline of locks
(`disciplined_operation`): it asks for no lock while it holds one, and holds
none in the end. So a call that holds a lock is never one that waits, and calls
that run together cannot wait for each other in a circle. A machine that boots,
or that is cleaned up after, holds no lock meanwhile (`lockSafe`).
-/

namespace CloudOrchestration

open Workflow Channel Schedule

variable {c : Client} {deadline : Deadline} {p : Request → Prop}

namespace Client

/-! ## Calls that touch no lock -/

theorem onlyAsks_findOwner {address : String} (hread : ∀ path, p (.read path))
    (services : List CloudService) :
    OnlyAsks p (c.findOwner address deadline services) := by
  induction services with
  | nil => exact onlyAsks_done _
  | cons listed rest ih =>
    refine onlyAsks_bind (onlyAsks_cloudService? hread) fun service => ?_
    split
    · exact onlyAsks_done _
    · exact ih

theorem onlyAsks_deploymentOwning? {address : String} (hread : ∀ path, p (.read path)) :
    OnlyAsks p (c.deploymentOwning? address deadline) :=
  onlyAsks_bind (onlyAsks_get (hread _)) fun _ => onlyAsks_findOwner hread _

theorem onlyAsks_disk? {name : String} (hread : ∀ path, p (.read path)) :
    OnlyAsks p (c.disk? name deadline) :=
  onlyAsks_bind (onlyAsks_get (hread _)) fun _ => onlyAsks_done _

/-- Reads show nothing but their requests. -/
theorem onlyAsks_query (hread : ∀ path, p (.read path)) (q : Query) :
    OnlyAsks p (q.run c deadline) := by
  cases q with
  | affinityGroups | storageAccounts | cloudServices | disks | availability =>
    exact onlyAsks_get (hread _)
  | cloudService => exact onlyAsks_cloudService? hread
  | deploymentInSlot | deployment => exact onlyAsks_deploymentAt? (hread _)
  | deploymentOwning => exact onlyAsks_deploymentOwning? hread
  | disk => exact onlyAsks_disk? hread
  | topology => exact onlyAsks_topology (hread _)
  | gateway => exact onlyAsks_gateway? (hread _)
  | dataDisk => exact onlyAsks_dataDisk? (hread _)

/-- So do waits. -/
theorem onlyAsks_wait (hread : ∀ path, p (.read path)) (w : Wait) :
    OnlyAsks p (w.run c deadline) := by
  cases w with
  | running => exact onlyAsks_awaitRunning (hread _)
  | role => exact onlyAsks_awaitRole (hread _)
  | detached => exact onlyAsks_awaitDetached (hread _)
  | attached => exact onlyAsks_awaitState (onlyAsks_getOptional (hread _))
  | created => exact onlyAsks_awaitCreated hread
  | gateway => exact onlyAsks_awaitGateway (hread _)
  | noGateway => exact onlyAsks_awaitNoGateway (hread _)

theorem onlyAsks_deleteStorageAccount {name : String} (hread : ∀ path, p (.read path))
    (hdelete : p { method := .delete, path := Path.storageAccount name }) :
    OnlyAsks p (c.deleteStorageAccount name deadline) := by
  have hremove : OnlyAsks p (c.channel.remove (Path.storageAccount name) deadline) :=
    onlyAsks_remove (fun _ => hread _) hdelete
  refine onlyAsks_bind (onlyAsks_get (hread _)) fun accounts => ?_
  refine onlyAsks_bind (onlyAsks_unlessDone hremove) fun action => ?_
  exact onlyAsks_bind (onlyAsks_effect fun _ => rfl) fun _ => onlyAsks_done _

theorem onlyAsks_deleteDisk {name : String} {media : Bool} (hread : ∀ path, p (.read path))
    (hdelete : p {
      method := .delete
      path := if media then Path.diskWithMedia name else Path.disk name }) :
    OnlyAsks p (c.deleteDisk name media deadline) :=
  onlyAsks_bind (onlyAsks_disk? hread) fun _ =>
    onlyAsks_unlessDone (onlyAsks_remove (fun _ => hread _) hdelete)

theorem onlyAsks_deleteReleasedDisk {disk : String} (hread : ∀ path, p (.read path))
    (hdelete : p { method := .delete, path := Path.diskWithMedia disk }) :
    OnlyAsks p (c.deleteReleasedDisk disk deadline) :=
  onlyAsks_bind (onlyAsks_awaitDetached (hread _)) fun _ =>
    onlyAsks_bind (onlyAsks_deleteDisk hread hdelete) fun _ => onlyAsks_done _

theorem onlyAsks_machineOwning {address : String} (hread : ∀ path, p (.read path)) :
    OnlyAsks p (c.machineOwning address deadline) := by
  refine onlyAsks_bind (onlyAsks_deploymentOwning? hread) fun found => ?_
  cases found with
  | none => exact onlyAsks_fail _
  | some d =>
    cases hservice : d.service with
    | none =>
      simp only [hservice]
      exact onlyAsks_fail _
    | some service =>
      simp only [hservice]
      split
      · exact onlyAsks_fail _
      · exact onlyAsks_done _

/-! ## All calls -/

theorem disciplined_lifecycle (call : LifecycleCall) : Disciplined (call.run c deadline) := by
  cases call with
  | ensureAffinityGroup name location =>
    exact disciplined_of_onlyAsks (p := Request.Any) (onlyAsks_bind (onlyAsks_get trivial)
      fun _ => onlyAsks_unlessDone (onlyAsks_create (fun _ => trivial) trivial))
  | deleteAffinityGroup name =>
    exact disciplined_of_onlyAsks (p := Request.Any) (onlyAsks_bind (onlyAsks_get trivial)
      fun _ => onlyAsks_unlessDone (onlyAsks_remove (fun _ => trivial) trivial))
  | ensureStorageAccount affinityGroup name =>
    exact disciplined_of_onlyAsks (p := Request.Any) (onlyAsks_bind (onlyAsks_get trivial)
      fun _ => onlyAsks_unlessDone (onlyAsks_bind
        (onlyAsks_create (fun _ => trivial) trivial) fun _ =>
          onlyAsks_effect fun _ => rfl))
  | deleteStorageAccount name =>
    exact disciplined_of_onlyAsks
      (onlyAsks_deleteStorageAccount (p := Request.Any) (fun _ => trivial) trivial)
  | ensureCloudService affinityGroup name =>
    refine disciplined_bind (disciplined_of_onlyAsks onlyAsks_submitCloudService) fun action => ?_
    split
    · exact disciplined_bind (disciplined_of_onlyAsks
        (onlyAsks_awaitCreated (p := Request.Any) fun _ => trivial)) fun _ => disciplined_done _
    · exact disciplined_done _
  | deleteCloudService name =>
    exact disciplined_of_onlyAsks
      (onlyAsks_deleteCloudService (p := Request.Any) (fun _ => trivial) trivial)
  | deleteDisk name media =>
    exact disciplined_of_onlyAsks
      (onlyAsks_deleteDisk (p := Request.Any) (fun _ => trivial) trivial)
  | relabelDisk name label =>
    refine disciplined_of_onlyAsks (p := Request.Any)
      (onlyAsks_bind (onlyAsks_disk? fun _ => trivial) fun found => ?_)
    cases found with
    | none => exact onlyAsks_fail _
    | some disk => exact onlyAsks_unlessDone (onlyAsks_replace (fun _ => trivial) trivial)
  | deleteDeployment service deployment => exact guarded_deleteDeployment.disciplined
  | deleteRole service deployment role => exact guarded_deleteRole.disciplined
  | detachDataDisk service deployment role lun =>
    exact disciplined_of_onlyAsks
      (onlyAsks_detachDataDisk (p := Request.Any) (fun _ => trivial) trivial)

theorem disciplined_deleteMachineAt {address : String} :
    Disciplined (c.deleteMachineAt address deadline) := by
  have hservice : ∀ service, Disciplined (c.deleteCloudService service deadline) := fun _ =>
    disciplined_of_onlyAsks
      (onlyAsks_deleteCloudService (p := Request.Any) (fun _ => trivial) trivial)
  have hdisks : ∀ disks : List String, Disciplined (disks.forM fun disk =>
      regardless (c.deleteReleasedDisk disk deadline)) := fun _ =>
    disciplined_of_onlyAsks (p := Request.Any) (onlyAsks_forM fun _ =>
      onlyAsks_regardless (onlyAsks_deleteReleasedDisk (fun _ => trivial) trivial))
  have haccounts : ∀ accounts : List String, Disciplined (accounts.forM fun account =>
      regardless (c.deleteStorageAccount account deadline)) := fun _ =>
    disciplined_of_onlyAsks (p := Request.Any) (onlyAsks_forM fun _ =>
      onlyAsks_regardless (onlyAsks_deleteStorageAccount (fun _ => trivial) trivial))
  have htracked : Disciplined (tracked : Call (List String)) :=
    disciplined_of_onlyAsks (onlyAsks_effect (p := Request.Any) fun _ => rfl)
  refine disciplined_bind (disciplined_of_onlyAsks
    (onlyAsks_machineOwning (p := Request.Any) fun _ => trivial)) fun x => ?_
  obtain ⟨d, service, role⟩ := x
  dsimp only
  split
  · -- the deployment has other machines, and only the role goes
    refine disciplined_bind guarded_deleteRole.disciplined fun _ => ?_
    refine disciplined_bind (hservice service) fun _ => ?_
    exact disciplined_bind (hdisks _) fun _ => disciplined_done _
  · refine disciplined_bind guarded_deleteDeployment.disciplined fun _ => ?_
    refine disciplined_bind (hservice service) fun _ => ?_
    refine disciplined_bind (hdisks _) fun _ => ?_
    exact disciplined_bind htracked haccounts

theorem disciplined_deleteMachinesOf {service deployment : String} :
    Disciplined (c.deleteMachinesOf service deployment deadline) := by
  refine disciplined_bind (disciplined_of_onlyAsks (onlyAsks_get (p := Request.Any) trivial))
    fun disks => ?_
  dsimp only
  split
  · exact disciplined_fail _
  · refine disciplined_bind guarded_deleteDeployment.disciplined fun _ => ?_
    refine disciplined_bind (disciplined_of_onlyAsks
      (onlyAsks_deleteCloudService (p := Request.Any) (fun _ => trivial) trivial)) fun _ => ?_
    exact disciplined_of_onlyAsks (p := Request.Any) (onlyAsks_forM fun _ =>
      onlyAsks_deleteReleasedDisk (fun _ => trivial) trivial)

/-- **Every call keeps the discipline of locks.** -/
theorem disciplined_operation (op : Operation) : Disciplined (op.run c deadline) := by
  cases op with
  | query q =>
    exact disciplined_of_onlyAsks (onlyAsks_query (p := Request.Any) (fun _ => trivial) q)
  | wait w => exact disciplined_of_onlyAsks (onlyAsks_wait (p := Request.Any) (fun _ => trivial) w)
  | lifecycle call => exact disciplined_lifecycle call
  | network call => exact disciplined_network call
  | disk call => exact disciplined_diskCall call
  | provision d => exact disciplined_provision
  | deleteMachineAt address => exact disciplined_deleteMachineAt
  | deleteMachinesOf service deployment => exact disciplined_deleteMachinesOf

end Client

/-! ## What the discipline gives -/

section Discipline

variable {α : Type} {w : Call α} {h h₁ h₂ : History Request (Except Fault Response)}
variable {o : Except Fault α}

/-- **Locks are taken one at a time** along a history. -/
structure TakesLocksSingly (h : History Request (Except Fault Response)) : Prop where
  /-- While a lock is held none is asked for. -/
  free_of_acquire : ∀ {h₁ h₂ : History Request (Except Fault Response)} {domain budget answer},
    h = h₁ ++ ⟨.acquire domain budget, answer⟩ :: h₂ → ∀ d, Sight.holds d h₁.sights = false
  /-- At no point are two of them held. -/
  unique : ∀ {h₁ h₂ : History Request (Except Fault Response)} {d d'}, h = h₁ ++ h₂ →
    Sight.holds d h₁.sights → Sight.holds d' h₁.sights → d = d'
  /-- In the end none is held. -/
  free : ∀ d, Sight.holds d h.sights = false

theorem Disciplined.takesLocksSingly (hw : Disciplined w) (hr : Runs w h o) :
    TakesLocksSingly h where
  free_of_acquire := by
    rintro h₁ h₂ domain budget answer rfl d
    obtain ⟨held, hafter, -⟩ := hw _ o hr
    rw [History.sights_append, Monitor.after_append, Option.bind_eq_some_iff] at hafter
    obtain ⟨held₁, hbefore, hafter⟩ := hafter
    rw [holds_eq_of_after hbefore]
    -- the discipline allows neither answer to one who holds a lock
    cases held₁ with
    | none => rfl
    | some d' => cases answer <;> simp [lockDiscipline] at hafter
  unique := by
    rintro h₁ h₂ d d' rfl hd hd'
    obtain ⟨held, hafter, -⟩ := hw _ o hr
    rw [History.sights_append] at hafter
    obtain ⟨held₁, hbefore⟩ := Monitor.after_prefix hafter
    rw [holds_eq_of_after hbefore, decide_eq_true_eq] at hd hd'
    rw [hd] at hd'
    exact Option.some.inj hd'
  free := by
    intro d
    obtain ⟨held, hafter, rfl⟩ := hw h o hr
    rw [holds_eq_of_after hafter]
    rfl

end Discipline

/-! ## Calls that run together -/

section AnyOrder

variable {σ α : Type} {server : Server σ Request (Except Fault Response)} {w : World σ}
variable {workflows : List (Call α)} {s : Schedule σ Request (Except Fault Response) α}
variable {d : Domain} {i j : Nat}

/-- The lock a strand waits for. -/
def Strand.awaited? {Q R : Type} : Strand Q R α → Option Domain
  | .waiting d _ _ => some d
  | .running _ _ | .ended _ _ => none

theorem Strand.eq_waiting_of_awaited? {Q R : Type} {strand : Strand Q R α}
    (h : strand.awaited? = some d) : ∃ expiry next, strand = .waiting d expiry next := by
  cases strand with
  | waiting d' expiry next =>
    cases h
    exact ⟨expiry, next, rfl⟩
  | running t rest => cases h
  | ended t o => cases h

/-- One call waits for a lock that another holds. -/
def Schedule.WaitsFor (s : Schedule σ Request (Except Fault Response) α) (i j : Nat) : Prop :=
  ∃ d expiry next, s.strands[i]? = some (.waiting d expiry next) ∧
    Sight.holds d (sightsOf j s.seen)

/-- **Deadlock**: each of some calls waits for another of them. -/
def Schedule.Deadlocked (s : Schedule σ Request (Except Fault Response) α) : Prop :=
  ∃ calls : List Nat, calls ≠ [] ∧ ∀ i ∈ calls, ∃ j ∈ calls, s.WaitsFor i j

/-- **Who holds a lock is on its way**: it has not ended, and waits for no
lock. -/
theorem running_of_holds (hall : ∀ wf ∈ workflows, Disciplined wf)
    (hr : Reaches server (Schedule.start w workflows) s)
    (hholds : Sight.holds d (sightsOf i s.seen)) :
    ∃ t rest, s.strands[i]? = some (.running t rest) := by
  have hacquired : .acquired d ∈ sightsOf i s.seen := Sight.acquired_of_holds hholds
  obtain ⟨⟨n, x⟩, hx, hn⟩ := List.mem_filterMap.1 hacquired
  have hin : n = i := by
    split at hn
    next hin => exact hin
    next => cases hn
  have hlt : i < workflows.length := hin ▸ hr.lt_of_mem_seen hx
  obtain ⟨strand, h, hstrand, hat, hsights⟩ := hr.strand (List.getElem?_eq_getElem hlt)
  have hdisciplined : Disciplined workflows[i] := hall _ (List.getElem_mem hlt)
  rw [← hsights] at hholds
  cases hat with
  | running hl => exact ⟨_, _, hstrand⟩
  | @waiting domain budget expiry next hl =>
    -- it would ask for a lock while it holds one
    obtain ⟨rest, o, hrun⟩ := exists_runs (.perform (.acquire domain budget) next)
    have hsingly := hdisciplined.takesLocksSingly (hl.runs hrun)
    obtain ⟨answer, rest', rfl, -⟩ := runs_perform.1 hrun
    rw [hsingly.free_of_acquire rfl d] at hholds
    cases hholds
  | ended hrun =>
    rw [(hdisciplined.takesLocksSingly hrun).free d] at hholds
    cases hholds

theorem not_deadlocked (hall : ∀ wf ∈ workflows, Disciplined wf)
    (hr : Reaches server (Schedule.start w workflows) s) : ¬ s.Deadlocked := by
  rintro ⟨calls, hcalls, hwaits⟩
  obtain ⟨i, hi⟩ := List.exists_mem_of_ne_nil calls hcalls
  obtain ⟨j, hj, d, expiry, next, -, hholds⟩ := hwaits i hi
  obtain ⟨k, -, d', expiry', next', hwaiting, -⟩ := hwaits j hj
  obtain ⟨t, rest, hrunning⟩ := running_of_holds hall hr hholds
  rw [hrunning] at hwaiting
  cases hwaiting

end AnyOrder

/-! ## The whole client -/

/-- The call of an operation keeps the discipline. -/
theorem disciplined_call (op : Operation) : Disciplined (op.call c deadline) :=
  disciplined_bind (Client.disciplined_operation op) fun _ => disciplined_done _

/-- The discipline of locks, of a whole client. -/
structure Client.LockSafe (c : Client) : Prop where
  /-- Every call takes locks one at a time and keeps none, whatever it is
  answered, whether it obtains the locks or not, and however it ends. -/
  singly : ∀ {op : Operation} {deadline h o}, Runs (op.run c deadline) h o → TakesLocksSingly h
  /-- Of calls that run together one that holds a lock is on its way, and none
  wait for each other in a circle. -/
  together : ∀ {σ : Type} {server : Server σ Request (Except Fault Response)} {w : World σ}
    {calls : List (Operation × Deadline)} {s},
    Reaches server (Schedule.start w (calls.map fun x => x.1.call c x.2)) s →
      (∀ {i d}, Sight.holds d (sightsOf i s.seen) →
        ∃ t rest, s.strands[i]? = some (.running t rest)) ∧ ¬ s.Deadlocked
  /-- Provisioning is in legs, and holds no lock at any point of the wait for the
  deployment, of the wait for the role, and of the clean-up. -/
  unlocked : ∀ {d : Descriptor} {deadline h o}, Runs (c.provision d deadline) h o →
    ∃ t rest legs, h = ⟨.now, t⟩ :: rest ∧ InLegs c d deadline Leg.all rest legs ∧
      ∀ {before after : Legs} {leg part l domain}, legs = before ++ (leg, part) :: after →
        leg ∈ [Leg.running, Leg.ready, Leg.cleanup] → l <+: part →
          Sight.holds domain (History.sights (⟨.now, t⟩ :: (before.history ++ l))) = false

/-- **Every client keeps the discipline of locks.** -/
theorem lockSafe (c : Client) : c.LockSafe where
  singly hr := (Client.disciplined_operation _).takesLocksSingly hr
  together {_ _ _ calls _} hr := by
    have hall : ∀ wf ∈ calls.map fun x => x.1.call c x.2, Disciplined wf :=
      List.forall_mem_map.2 fun x _ => disciplined_call x.1
    exact ⟨fun hholds => running_of_holds hall hr hholds, not_deadlocked hall hr⟩
  unlocked hr := by
    obtain ⟨t, rest, legs, heq, hl⟩ := Client.exists_inLegs_provision hr
    refine ⟨t, rest, legs, heq, hl, fun {_ _ leg _ _ _} hlegs hleg hpart => ?_⟩
    have hunlocked : leg.isUnlocked := by
      cases leg <;> simp_all [Leg.isUnlocked]
    exact hl.free_of_isUnlocked hlegs hunlocked hpart _

/-! ## A deletion that waits for a machine -/

/-- The two machines of the race, and a deployment to be deleted. -/
def crossing : List (Operation × Deadline) :=
  Client.racers.map (fun x => (.provision x.1, x.2)) ++
    [(.lifecycle (.deleteDeployment "w" "w"), ⟨400000⟩)]

/-- All of them on their way: the second machine is being submitted. -/
def crossed :
    Schedule Script Request (Except Fault Response) ((op : Operation) × op.Answer) :=
  (Schedule.start { server := Client.racingScript }
    (crossing.map fun x => x.1.call plainClient x.2)).advance Script.respond 24

/-- The deletion waits for the second machine, which is on its way; and a run of
provisioning that is cleaned up after is in legs. -/
theorem lockSafe_crossed : crossed.WaitsFor 2 1 ∧
    (∃ t rest, crossed.strands[1]? = some (.running t rest)) ∧ ¬ crossed.Deadlocked ∧
    TakesLocksSingly Client.faded.1 ∧
    ∃ t rest legs, Client.faded.1 = ⟨.now, t⟩ :: rest ∧
      InLegs plainClient (plainDescriptor "r") ⟨400000⟩ Leg.all rest legs := by
  have hholds : Sight.holds .general (sightsOf 1 crossed.seen) = true := by decide +kernel
  have hwaits : crossed.strands[2]?.bind Strand.awaited? = some .general := by decide +kernel
  have hreaches : Reaches Script.respond (Schedule.start { server := Client.racingScript }
      (crossing.map fun x => x.1.call plainClient x.2)) crossed := Reaches.start.advance 24
  have hrun : Runs (plainClient.provision (plainDescriptor "r") ⟨400000⟩) Client.faded.1
      Client.faded.2 := runs_alone ..
  obtain ⟨hrunning, hdeadlock⟩ := (lockSafe plainClient).together hreaches
  obtain ⟨t, rest, legs, heq, hlegs, -⟩ := (lockSafe plainClient).unlocked hrun
  refine ⟨?_, hrunning hholds, hdeadlock, ?_, t, rest, legs, heq, hlegs⟩
  · obtain ⟨strand, hstrand, hawaited⟩ := Option.bind_eq_some_iff.1 hwaits
    obtain ⟨expiry, next, rfl⟩ := Strand.eq_waiting_of_awaited? hawaited
    exact ⟨.general, expiry, next, hstrand, hholds⟩
  · have hcall : Runs (Operation.run plainClient ⟨400000⟩ (.provision (plainDescriptor "r")))
        Client.faded.1 Client.faded.2 := hrun
    exact (lockSafe plainClient).singly hcall

end CloudOrchestration
