import CloudOrchestration.Proofs.DataDisks.Exclusion
import CloudOrchestration.Proofs.Lifecycle.Courses
/-!
# What the calls of the lifecycle do

Eleven calls create, change or delete one resource each, if it is not as it
should be already. Each takes the course of its intent (`LifecycleCall.follows`),
whatever it is answered. So what it answers tells what was accepted of it
(`LifecycleCall.effect_of_answer`).
-/

namespace CloudOrchestration

open Workflow Channel Intent

variable {c : Client} {deadline : Deadline}
variable {h : History Request (Except Fault Response)}

/-- A call that creates, changes or deletes one resource. -/
inductive LifecycleCall where
  | ensureAffinityGroup (name location : String)
  | deleteAffinityGroup (name : String)
  | ensureStorageAccount (affinityGroup name : String)
  | deleteStorageAccount (name : String)
  | ensureCloudService (affinityGroup name : String)
  | deleteCloudService (name : String)
  | deleteDisk (name : String) (media : Bool)
  | relabelDisk (name label : String)
  | deleteDeployment (service deployment : String)
  | deleteRole (service deployment role : String)
  | detachDataDisk (service deployment role : String) (lun : UInt8)
  deriving DecidableEq, Repr

namespace LifecycleCall

/-- The call itself. -/
def run (c : Client) (deadline : Deadline) : LifecycleCall → Call Action
  | ensureAffinityGroup name location => c.ensureAffinityGroup name location deadline
  | deleteAffinityGroup name => c.deleteAffinityGroup name deadline
  | ensureStorageAccount affinityGroup name => c.ensureStorageAccount affinityGroup name deadline
  | deleteStorageAccount name => c.deleteStorageAccount name deadline
  | ensureCloudService affinityGroup name => c.ensureCloudService affinityGroup name deadline
  | deleteCloudService name => c.deleteCloudService name deadline
  | deleteDisk name media => c.deleteDisk name media deadline
  | relabelDisk name label => c.relabelDisk name label deadline
  | deleteDeployment service deployment => c.deleteDeployment service deployment deadline
  | deleteRole service deployment role => c.deleteRole service deployment role deadline
  | detachDataDisk service deployment role lun =>
    c.detachDataDisk service deployment role lun deadline

/-- The intent to delete what lies at a path. -/
def deletion (target path : String) (isThere : Response → Except Fault Bool) : Intent :=
  { action := .delete, change := { method := .delete, path := target }, path, isThere }

/-- The intent to create something by sending a document. -/
def creation {α : Type} [Document α] (c : Client) (path : String) (a : α)
    (isThere : Response → Except Fault Bool) : Intent :=
  { action := .create, change := c.channel.sending .post path a c.wire.contentType, path, isThere }

/-- Whether an answer to the look at all disks shows the one of a name. -/
def showsDisk (c : Client) (name : String) (r : Response) : Except Fault Bool :=
  (c.channel.document r).map fun disks : Disks => (disks.find? name).isSome

/-- **What a call is to bring about.** -/
def intent (c : Client) : LifecycleCall → Intent
  | ensureAffinityGroup name location =>
    creation c Path.affinityGroups (AffinityGroup.mk name name location) fun r =>
      (c.channel.document r).map fun groups : AffinityGroups => groups.contains name
  | deleteAffinityGroup name =>
    deletion (Path.affinityGroup name) Path.affinityGroups fun r =>
      (c.channel.document r).map fun groups : AffinityGroups => groups.contains name
  | ensureStorageAccount affinityGroup name =>
    creation c Path.storageAccounts (ServiceOrder.mk name name affinityGroup) fun r =>
      (c.channel.document r).map fun accounts : StorageAccounts => accounts.contains name
  | deleteStorageAccount name =>
    deletion (Path.storageAccount name) Path.storageAccounts fun r =>
      (c.channel.document r).map fun accounts : StorageAccounts => accounts.contains name
  | ensureCloudService affinityGroup name =>
    creation c Path.cloudServices (ServiceOrder.mk name name affinityGroup) fun r =>
      (c.channel.document r).map fun services : CloudServices => services.contains name
  | deleteCloudService name =>
    { deletion (Path.cloudService name) Path.cloudServices fun r =>
        (c.channel.document r).map fun services : CloudServices => services.contains name with
      slots := [Deployment.production, Deployment.staging].map (Path.slot name) }
  | deleteDisk name media =>
    deletion (if media then Path.diskWithMedia name else Path.disk name) Path.disks
      (showsDisk c name)
  | relabelDisk name label =>
    { action := .update
      change := c.channel.sending .put (Path.disk name) (DiskLabel.mk name label) c.wire.contentType
      path := Path.disks
      isThere := showsDisk c name }
  | deleteDeployment service deployment =>
    deletion (Path.deployment service deployment) (Path.deployment service deployment) fun r =>
      (c.channel.optionalDocument r).map fun found : Option Deployment => found.isSome
  | deleteRole service deployment role =>
    deletion (Path.role service deployment role) (Path.deployment service deployment) fun r =>
      (c.channel.optionalDocument r).map fun found : Option Deployment =>
        (found.bind (·.role? role)).isSome
  | detachDataDisk service deployment role lun =>
    deletion (Path.dataDisk service deployment role lun)
      (Path.dataDisk service deployment role lun) fun r =>
        (c.channel.optionalDocument r).map fun found : Option DataDisk => found.isSome

end LifecycleCall

namespace Client

/-! ## Looks -/

theorem asks_get {α : Type} [Document α] {path : String} :
    Asks Request.IsRead (c.channel.get path deadline : Call α) :=
  (onlyAsks_get (isRead_read _)).asks

theorem asks_deploymentAt? {service path : String} :
    Asks Request.IsRead (c.deploymentAt? service path deadline) :=
  (onlyAsks_deploymentAt? (isRead_read _)).asks

theorem asks_disk? {name : String} : Asks Request.IsRead (c.disk? name deadline) :=
  asks_bind asks_get fun _ => (onlyAsks_done _).asks

/-- What is told from a document is told from an answer. -/
theorem told_of_runs_get {α β : Type} [Document α] {path : String} {a : α} (f : α → β)
    (hr : Runs (c.channel.get path deadline) h (.ok a)) :
    ∃ r, (.read path, .ok r) ∈ h.asked ∧ (c.channel.document r).map f = .ok (f a) := by
  obtain ⟨r, hx, hdocument⟩ := shown_of_runs_get hr
  exact ⟨r, hx, congrArg (Except.map f) hdocument⟩

/-- A disk is looked for in a listing. -/
theorem listed_of_runs_disk? {name : String} {found : Option Disk}
    (hr : Runs (c.disk? name deadline) h (.ok found)) :
    ∃ (r : Response) (disks : Disks), (.read Path.disks, .ok r) ∈ h.asked ∧
      c.channel.document r = .ok disks ∧ disks.find? name = found := by
  obtain ⟨disks, h₁, h₂, rfl, hget, hr⟩ := runs_bind_ok.1 hr
  obtain ⟨rfl, hfound⟩ := runs_done.1 hr
  cases hfound
  obtain ⟨r, hx, hdocument⟩ := shown_of_runs_get hget
  exact ⟨r, disks, by simpa using hx, hdocument, rfl⟩

theorem told_of_runs_disk? {name : String} {found : Option Disk}
    (hr : Runs (c.disk? name deadline) h (.ok found)) :
    ∃ r, (.read Path.disks, .ok r) ∈ h.asked ∧
      LifecycleCall.showsDisk c name r = .ok found.isSome := by
  obtain ⟨r, disks, hx, hdocument, rfl⟩ := listed_of_runs_disk? hr
  exact ⟨r, hx, by rw [LifecycleCall.showsDisk, hdocument]; rfl⟩

theorem shown_of_runs_deploymentAt? {service path : String} {found : Option Deployment}
    (hr : Runs (c.deploymentAt? service path deadline) h (.ok found)) :
    ∃ r, ∃ shown : Option Deployment, (.read path, .ok r) ∈ h.asked ∧
      c.channel.optionalDocument r = .ok shown ∧ found = shown.map (·.foundIn service) := by
  obtain ⟨shown, h₁, h₂, rfl, hget, hr⟩ := runs_bind_ok.1 hr
  obtain ⟨rfl, hfound⟩ := runs_done.1 hr
  cases hfound
  obtain ⟨r, hx, hdocument⟩ := shown_of_runs_getOptional hget
  exact ⟨r, shown, by simpa using hx, hdocument, rfl⟩

/-- What does not depend on where a deployment was found is told from an
answer. -/
theorem told_of_runs_deploymentAt? {β : Type} {service path : String} {found : Option Deployment}
    (f : Option Deployment → β) (hf : ∀ shown, f (shown.map (·.foundIn service)) = f shown)
    (hr : Runs (c.deploymentAt? service path deadline) h (.ok found)) :
    ∃ r, (.read path, .ok r) ∈ h.asked ∧ (c.channel.optionalDocument r).map f = .ok (f found) := by
  obtain ⟨r, shown, hx, hdocument, rfl⟩ := shown_of_runs_deploymentAt? hr
  refine ⟨r, hx, (congrArg (Except.map f) hdocument).trans ?_⟩
  rw [hf]
  rfl

/-- A cloud service that is not occupied was seen to have empty slots. -/
theorem vacant_of_runs_isOccupied {service : String} {slots : List String}
    (hr : Runs (c.isOccupied service deadline slots) h (.ok false)) :
    ∀ slot ∈ slots, ∃ r, (.read (Path.slot service slot), .ok r) ∈ h.asked ∧
      (c.channel.optionalDocument r : Except Fault (Option Deployment)) = .ok none := by
  induction slots generalizing h with
  | nil => simp
  | cons slot rest ih =>
    obtain ⟨found, h₁, h₂, rfl, hlook, hr⟩ := runs_bind_ok.1 hr
    split at hr
    · obtain ⟨-, hx⟩ := runs_done.1 hr
      cases hx
    next hempty =>
      obtain ⟨r, shown, hx, hdocument, rfl⟩ := shown_of_runs_deploymentAt? hlook
      have hnone : shown = none := by simpa using hempty
      subst hnone
      simp only [History.asked_append, List.forall_mem_cons]
      refine ⟨⟨r, List.mem_append_left _ hx, hdocument⟩, fun slot hslot => ?_⟩
      obtain ⟨r, hx, hdocument⟩ := ih hr slot hslot
      exact ⟨r, List.mem_append_right _ hx, hdocument⟩

/-! ## The calls -/

section Calls

variable {name : String}

theorem follows_ensureAffinityGroup {location : String} :
    (LifecycleCall.intent c (.ensureAffinityGroup name location)).Follows c []
      (c.ensureAffinityGroup name location deadline) :=
  follows_look_unlessDone rfl asks_get
    (fun _ _ hr => told_of_runs_get (AffinityGroups.contains · name) hr) (fun _ hdone => hdone)
    fun _ _ hr => runs_create hr

theorem follows_deleteAffinityGroup :
    (LifecycleCall.intent c (.deleteAffinityGroup name)).Follows c []
      (c.deleteAffinityGroup name deadline) :=
  follows_look_unlessDone rfl asks_get
    (fun _ _ hr => told_of_runs_get (AffinityGroups.contains · name) hr)
    (fun _ hdone => Bool.not_eq_eq_eq_not.1 hdone) fun _ _ hr => runs_remove hr

/-- An account that was created is tracked, which nobody sees. -/
theorem follows_ensureStorageAccount {affinityGroup : String} :
    (LifecycleCall.intent c (.ensureStorageAccount affinityGroup name)).Follows c []
      (c.ensureStorageAccount affinityGroup name deadline) := by
  refine follows_look_unlessDone rfl asks_get
    (fun _ _ hr => told_of_runs_get (StorageAccounts.contains · name) hr) (fun _ hdone => hdone)
    fun h r hr => ?_
  obtain ⟨u, h₁, h₂, rfl, hcreate, hr⟩ | ⟨fault, rfl, hcreate⟩ := runs_bind.1 hr
  · obtain ⟨u', rfl, rfl⟩ := runs_effect.1 hr
    have hasked : History.asked (h₁ ++ [⟨.track name, u'⟩]) = h₁.asked := by simp
    rw [hasked]
    exact runs_create hcreate
  · exact runs_create hcreate

/-- Afterwards the account is not tracked, which nobody sees either. -/
theorem follows_deleteStorageAccount :
    (LifecycleCall.intent c (.deleteStorageAccount name)).Follows c []
      (c.deleteStorageAccount name deadline) := by
  have hdelete : (LifecycleCall.intent c (.deleteStorageAccount name)).Follows c []
      ((c.storageAccounts deadline).bind fun accounts =>
        unlessDone (!accounts.contains name) .delete
          (c.channel.remove (Path.storageAccount name) deadline)) :=
    follows_look_unlessDone rfl asks_get
      (fun _ _ hr => told_of_runs_get (StorageAccounts.contains · name) hr)
      (fun _ hdone => Bool.not_eq_eq_eq_not.1 hdone) fun _ _ hr => runs_remove hr
  have huntrack : ∀ {action h o}, Runs ((untrack name).bind fun _ => (done action : Call Action))
      h o → h.asked = [] ∧ o = .ok action := by
    intro action h o hr
    obtain ⟨u, rest, rfl, hend⟩ := runs_effect_bind.1 hr
    obtain ⟨rfl, rfl⟩ := runs_done.1 hend
    exact ⟨rfl, rfl⟩
  have hall := hdelete.andThen (f := fun action => (untrack name).bind fun _ => done action)
    (fun action h o hr x hx => by rw [(huntrack hr).1] at hx; cases hx)
    fun action h action' hr => Except.ok.inj (huntrack hr).2
  rwa [Workflow.bind_assoc] at hall

theorem follows_ensureCloudService {affinityGroup : String} :
    (LifecycleCall.intent c (.ensureCloudService affinityGroup name)).Follows c []
      (c.ensureCloudService affinityGroup name deadline) := by
  have hsubmit : (LifecycleCall.intent c (.ensureCloudService affinityGroup name)).Follows c []
      (c.submitCloudService affinityGroup name deadline) :=
    follows_look_unlessDone rfl asks_get
      (fun _ _ hr => told_of_runs_get (CloudServices.contains · name) hr) (fun _ hdone => hdone)
      fun _ _ hr => runs_create hr
  refine hsubmit.andThen (fun action => ?_) fun action h action' hr => ?_
  · split
    · exact asks_bind (onlyAsks_awaitCreated isRead_read).asks fun _ => (onlyAsks_done _).asks
    · exact (onlyAsks_done _).asks
  · split at hr
    · obtain ⟨_, _, _, -, -, hend⟩ := runs_bind_ok.1 hr
      exact Except.ok.inj (runs_done.1 hend).2
    · exact Except.ok.inj (runs_done.1 hr).2

/-- A cloud service is deleted where it is listed and its slots are empty. -/
theorem follows_deleteCloudService :
    (LifecycleCall.intent c (.deleteCloudService name)).Follows c []
      (c.deleteCloudService name deadline) := by
  refine follows_look not_mutates_nil asks_get fun h₁ services hlist hreads₁ => ?_
  obtain ⟨r, hx, htold⟩ := told_of_runs_get (CloudServices.contains · name) hlist
  cases hlisted : services.contains name with
  | false => exact follows_unchanged hreads₁
  | true =>
    have hslots : Asks Request.IsRead
        (c.isOccupied name deadline [Deployment.production, Deployment.staging]) :=
      (onlyAsks_isOccupied (fun _ => isRead_read _) _).asks
    refine follows_look hreads₁ hslots fun h₂ occupied hlook hreads₂ => ?_
    refine follows_unlessDone hreads₂ (fun h r hr => runs_remove hr) ?_
    rintro rfl
    refine ⟨⟨r, List.mem_append_left _ hx, htold.trans (congrArg Except.ok hlisted)⟩, ?_⟩
    intro path hpath
    obtain ⟨slot, hslot, rfl⟩ := List.mem_map.1 hpath
    obtain ⟨r, hx, hnone⟩ := vacant_of_runs_isOccupied hlook slot hslot
    exact ⟨r, List.mem_append_right _ hx, hnone⟩

theorem follows_deleteDisk {media : Bool} :
    (LifecycleCall.intent c (.deleteDisk name media)).Follows c []
      (c.deleteDisk name media deadline) :=
  follows_look_unlessDone rfl asks_disk? (fun _ _ hr => told_of_runs_disk? hr)
    (fun _ hdone => Option.isNone_eq_false_iff.1 hdone) fun _ _ hr => runs_remove hr

/-- A disk that is not there is a fault. -/
theorem follows_relabelDisk {label : String} :
    (LifecycleCall.intent c (.relabelDisk name label)).Follows c []
      (c.relabelDisk name label deadline) := by
  refine follows_look not_mutates_nil asks_disk? fun h found hlook hreads => ?_
  cases found with
  | none => exact follows_fail hreads _
  | some disk =>
    obtain ⟨r, hx, htold⟩ := told_of_runs_disk? hlook
    exact follows_unlessDone hreads (fun h r hr => runs_replace hr) fun _ =>
      ⟨⟨r, hx, htold⟩, fun slot hslot => nomatch hslot⟩

theorem follows_deleteDeployment {service : String} :
    (LifecycleCall.intent c (.deleteDeployment service name)).Follows c []
      (c.deleteDeployment service name deadline) :=
  follows_exclusively (follows_look_unlessDone rfl asks_deploymentAt?
    (fun _ _ hr => told_of_runs_deploymentAt? Option.isSome (fun _ => Option.isSome_map) hr)
    (fun _ hdone => Option.isNone_eq_false_iff.1 hdone) fun _ _ hr => runs_remove hr)

theorem follows_deleteRole {service role : String} :
    (LifecycleCall.intent c (.deleteRole service name role)).Follows c []
      (c.deleteRole service name role deadline) := by
  -- that a deployment was found in its service leaves its roles
  have hrole : ∀ shown : Option Deployment,
      ((shown.map (·.foundIn service)).bind (·.role? role)).isSome =
        (shown.bind (·.role? role)).isSome := by
    intro shown
    cases shown <;> rfl
  exact follows_exclusively (follows_look_unlessDone rfl asks_deploymentAt?
    (fun _ _ hr => told_of_runs_deploymentAt? (fun found => (found.bind (·.role? role)).isSome)
      hrole hr)
    (fun _ hdone => Option.isNone_eq_false_iff.1 hdone) fun _ _ hr => runs_remove hr)

theorem shown_of_runs_dataDisk? {service deployment role : String} {lun : UInt8}
    {found : Option DataDisk}
    (hr : Runs (c.dataDisk? service deployment role lun deadline) h (.ok found)) :
    ∃ r, (.read (Path.dataDisk service deployment role lun), .ok r) ∈ h.asked ∧
      c.channel.optionalDocument r = .ok found := by
  obtain ⟨u, h₁, h₂, rfl, hcheck, hget⟩ := runs_bind_ok.1 hr
  obtain ⟨rfl, -⟩ := runs_ofExcept.1 hcheck
  exact shown_of_runs_getOptional hget

/-- After the removal there is only the wait for the disk to be free. -/
theorem follows_detachDataDisk {service deployment role : String} {lun : UInt8} :
    (LifecycleCall.intent c (.detachDataDisk service deployment role lun)).Follows c []
      (c.detachDataDisk service deployment role lun deadline) := by
  rw [detachDataDisk_eq]
  have hlook : Asks Request.IsRead (c.dataDisk? service deployment role lun deadline) :=
    (onlyAsks_dataDisk? (isRead_read _)).asks
  refine follows_look not_mutates_nil hlook fun h found hr hreads => ?_
  cases found with
  | none => exact follows_unchanged hreads
  | some disk =>
    obtain ⟨r, hx, hdocument⟩ := shown_of_runs_dataDisk? hr
    refine follows_change hreads ⟨⟨r, hx, congrArg (Except.map _) hdocument⟩, nofun⟩
      (fun h r hr => runs_remove hr) ?_ fun h action hr => ?_
    · cases disk.diskName with
      | some name =>
        exact asks_bind (onlyAsks_awaitDetached (isRead_read _)).asks fun _ =>
          (onlyAsks_done _).asks
      | none => exact (onlyAsks_done _).asks
    · cases hname : disk.diskName with
      | some name =>
        rw [hname] at hr
        obtain ⟨_, _, _, -, -, hend⟩ := runs_bind_ok.1 hr
        exact Except.ok.inj (runs_done.1 hend).2
      | none =>
        rw [hname] at hr
        exact Except.ok.inj (runs_done.1 hr).2

end Calls

end Client

namespace LifecycleCall

variable {call : LifecycleCall} {o : Except Fault Action}

/-- **Every call takes the course of its intent.** -/
theorem follows (call : LifecycleCall) : (call.intent c).Follows c [] (call.run c deadline) := by
  cases call with
  | ensureAffinityGroup => exact Client.follows_ensureAffinityGroup
  | deleteAffinityGroup => exact Client.follows_deleteAffinityGroup
  | ensureStorageAccount => exact Client.follows_ensureStorageAccount
  | deleteStorageAccount => exact Client.follows_deleteStorageAccount
  | ensureCloudService => exact Client.follows_ensureCloudService
  | deleteCloudService => exact Client.follows_deleteCloudService
  | deleteDisk => exact Client.follows_deleteDisk
  | relabelDisk => exact Client.follows_relabelDisk
  | deleteDeployment => exact Client.follows_deleteDeployment
  | deleteRole => exact Client.follows_deleteRole
  | detachDataDisk => exact Client.follows_detachDataDisk

theorem isMutating_change (call : LifecycleCall) : (call.intent c).change.isMutating := by
  cases call <;> rfl

theorem action_ne_unchanged (call : LifecycleCall) : (call.intent c).action ≠ .unchanged := by
  cases call <;> exact nofun

/-- **The effect of a call is what it answers**, whatever it is answered
itself. If it says that nothing was to do it has changed nothing. If it says
that it has made its change then one request was accepted, for that change: the
resource was seen to call for it before, and its operation to succeed after. If
it fails one request was accepted at most. -/
theorem effect_of_answer (hr : Runs (call.run c deadline) h o) :
    (o = .ok .unchanged → ¬ Mutates h.asked) ∧
      (∀ action, o = .ok action → action ≠ .unchanged →
        action = (call.intent c).action ∧ (call.intent c).Effected c h.asked) ∧
      ∀ fault, o = .error fault → (acceptedChanges h.asked).length ≤ 1 := by
  have hcourse : (call.intent c).Course c h.asked o := follows call h o hr
  exact ⟨hcourse.not_mutates (action_ne_unchanged call),
    fun _ => hcourse.effected (isMutating_change call),
    fun _ _ => hcourse.length_acceptedChanges_le⟩

/-! ## A cloud service that is deleted -/

/-- A provider with one cloud service, which holds no deployment. -/
def idleScript : Script := [
  ((.get, Path.cloudServices), [Script.listing ["w"]]),
  ((.delete, Path.cloudService "w"), [.accepts "1"]),
  Script.operationDone "1"]

/-- The run of its deletion. -/
def clearing : History Request (Except Fault Response) × Except Fault Action :=
  ((deleteCloudService "w").run plainClient ⟨400000⟩).alone Script.respond idleScript 0

/-- It answers that the service was deleted, and so it was. -/
theorem effect_of_answer_clearing : clearing.2 = .ok .delete ∧
    ((deleteCloudService "w").intent plainClient).Effected plainClient clearing.1.asked := by
  have hend : clearing.2 = .ok .delete := by decide +kernel
  have hr : Runs ((deleteCloudService "w").run plainClient ⟨400000⟩) clearing.1 clearing.2 :=
    runs_alone ..
  obtain ⟨-, hchanged, -⟩ := effect_of_answer hr
  obtain ⟨-, heffected⟩ := hchanged .delete hend nofun
  exact ⟨hend, heffected⟩

end LifecycleCall

end CloudOrchestration
