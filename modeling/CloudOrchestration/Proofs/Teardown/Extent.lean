import CloudOrchestration.Proofs.Teardown.Removal
import CloudOrchestration.Proofs.Teardown.Steps
/-!
# How far a teardown goes

The machine at an address is looked up, removed, its cloud service deleted if that
is empty, and then its disks and, if it was alone in its deployment, the tracked
storage accounts. The first three steps end the whole when they fail, and what
comes after them is not begun; disks and accounts are all tried, whatever comes of
the others, and make no difference to the end (`Client.teardown_extent`).
-/

namespace CloudOrchestration

open Workflow Channel

namespace Client

variable {c : Client} {address service : String} {deadline : Deadline} {d : Deployment}
variable {role : Role} {h : History Request (Except Fault Response)}

/-- **The removal of a machine** that was looked up: what looked it up only read, and
showed it; and nothing was changed but what the removal is of. -/
structure Removes (c : Client) (address : String) (deadline : Deadline) (d : Deployment)
    (service : String) (role : Role) (looking removing : History Request (Except Fault Response))
    (r : Except Fault Action) : Prop where
  reads : ¬ Mutates looking.asked
  found : ∃ (name : String) (shown : Response),
    (.read (Path.cloudServiceDetail name), .ok shown) ∈ looking.asked ∧
      c.Shows address shown d service role
  ran : Runs (c.removeMachine d service role deadline) removing r
  mutatesOnly : MutatesOnly (removalOf d service role) removing.asked

/-- A disk is tried, whatever comes of it. -/
def TriesDisk (c : Client) (deadline : Deadline) (disk : String)
    (h : History Request (Except Fault Response)) : Prop :=
  ∃ r, Runs (c.deleteReleasedDisk disk deadline) h r ∧ c.Attempts disk h.asked r

/-- So is a storage account. -/
def TriesAccount (c : Client) (deadline : Deadline) (account : String)
    (h : History Request (Except Fault Response)) : Prop :=
  (∃ r, Runs (c.deleteStorageAccount account deadline) h r) ∧ DeletesAccount account h.asked

/-- **What becomes of the storage accounts**: a machine that was alone in its
deployment takes the tracked ones with it, each of which is tried. -/
inductive ClearsAccounts (c : Client) (deadline : Deadline) (d : Deployment) (role : Role) :
    History Request (Except Fault Response) → Prop where
  | shared (hshared : 2 ≤ d.roles.length) : ClearsAccounts c deadline d role []
  | alone {accounts : List String} {hs : List (History Request (Except Fault Response))}
      (halone : d.roles = [role])
      (htries : List.Forall₂ (c.TriesAccount deadline) accounts hs) :
      ClearsAccounts c deadline d role (⟨.tracked, accounts⟩ :: hs.flatten)

/-- **The extent of a teardown**, and its end. -/
inductive TakesDown (c : Client) (address : String) (deadline : Deadline) :
    History Request (Except Fault Response) → Except Fault Unit → Prop where
  /-- There is no such machine, or it could not be looked up. -/
  | notFound {looking : History Request (Except Fault Response)} {fault : Fault}
      (hran : Runs (c.machineOwning address deadline) looking (.error fault))
      (hreads : ¬ Mutates looking.asked) : TakesDown c address deadline looking (.error fault)
  | notRemoved {d : Deployment} {service : String} {role : Role}
      {looking removing : History Request (Except Fault Response)} {fault : Fault}
      (hremoves : c.Removes address deadline d service role looking removing (.error fault)) :
      TakesDown c address deadline (looking ++ removing) (.error fault)
  /-- The machine is removed, but the step after it has failed. -/
  | notEmptied {d : Deployment} {service : String} {role : Role}
      {looking removing emptying : History Request (Except Fault Response)} {action : Action}
      {fault : Fault}
      (hremoves : c.Removes address deadline d service role looking removing (.ok action))
      (hran : Runs (c.deleteCloudService service deadline) emptying (.error fault))
      (hempties : c.DeletesService service emptying.asked) :
      TakesDown c address deadline (looking ++ removing ++ emptying) (.error fault)
  /-- Every disk of the machine is tried in its order, and then the accounts. -/
  | takenDown {d : Deployment} {service : String} {role : Role}
      {looking removing emptying clearing : History Request (Except Fault Response)}
      {hs : List (History Request (Except Fault Response))} {action action' : Action}
      (hremoves : c.Removes address deadline d service role looking removing (.ok action))
      (hran : Runs (c.deleteCloudService service deadline) emptying (.ok action'))
      (hempties : c.DeletesService service emptying.asked)
      (hdisks : List.Forall₂ (c.TriesDisk deadline) role.diskNames hs)
      (haccounts : c.ClearsAccounts deadline d role clearing) :
      TakesDown c address deadline (looking ++ removing ++ emptying ++ hs.flatten ++ clearing)
        (.ok ())

/-- **A removal changes nothing but the machine.** -/
theorem mutatesOnly_of_removeMachine {o : Except Fault Action}
    (hr : Runs (c.removeMachine d service role deadline) h o) :
    MutatesOnly (removalOf d service role) h.asked := by
  unfold removeMachine removalOf at *
  split at hr
  next hshared =>
    have hcourse : (LifecycleCall.intent c (.deleteRole service d.name role.name)).Course c
        h.asked o := follows_deleteRole h o hr
    rw [if_pos hshared]
    exact hcourse.mutatesOnly
  next halone =>
    have hcourse : (LifecycleCall.intent c (.deleteDeployment service d.name)).Course c
        h.asked o := follows_deleteDeployment h o hr
    rw [if_neg halone]
    exact hcourse.mutatesOnly

/-- The accounts are cleared once the disks are. -/
theorem clearsAccounts_of_runs {r : Response} {o : Except Fault Unit}
    (hshows : c.Shows address r d service role)
    (hr : Runs (unless 2 ≤ d.roles.length do
      (← tracked).forM fun account => regardless (c.deleteStorageAccount account deadline)) h o) :
    o = .ok () ∧ c.ClearsAccounts deadline d role h := by
  split at hr
  next hshared =>
    obtain ⟨rfl, rfl⟩ := runs_done.1 hr
    exact ⟨rfl, .shared hshared⟩
  next halone =>
    obtain ⟨accounts, rest, rfl, hloop⟩ := runs_effect_bind.1 hr
    obtain ⟨rfl, hs, rfl, htries⟩ := runs_forM_regardless hloop
    refine ⟨rfl, .alone (hshows.roles_eq (Nat.lt_of_not_le halone)) (htries.imp ?_)⟩
    rintro account h ⟨r, hdelete⟩
    exact ⟨⟨r, hdelete⟩, deletesAccount_of_runs hdelete⟩

/-- **How far a teardown goes**, whatever it is answered. -/
theorem teardown_extent {o : Except Fault Unit}
    (hr : Runs (c.deleteMachineAt address deadline) h o) : c.TakesDown address deadline h o := by
  have hlooks : ∀ {h o}, Runs (c.machineOwning address deadline) h o → ¬ Mutates h.asked :=
    fun hr => not_mutates_of_asks (onlyAsks_machineOwning isRead_read).asks hr
  rw [deleteMachineAt_eq] at hr
  obtain ⟨⟨d, service, role⟩, looking, h₁, rfl, hlook, hr⟩ | ⟨fault, rfl, hlook⟩ := runs_bind.1 hr
  case inr => exact .notFound hlook (hlooks hlook)
  obtain ⟨name, shown, hfound, hshows⟩ := shown_of_runs_machineOwning hlook
  have hremoves : ∀ {removing r}, Runs (c.removeMachine d service role deadline) removing r →
      c.Removes address deadline d service role looking removing r := fun hremove =>
    ⟨hlooks hlook, ⟨name, shown, hfound, hshows⟩, hremove, mutatesOnly_of_removeMachine hremove⟩
  obtain ⟨action, removing, h₂, rfl, hremove, hr⟩ | ⟨fault, rfl, hremove⟩ := runs_bind.1 hr
  case inr => exact .notRemoved (hremoves hremove)
  obtain ⟨action', emptying, h₃, rfl, hempty, hr⟩ | ⟨fault, rfl, hempty⟩ := runs_bind.1 hr
  case inr =>
    rw [← List.append_assoc]
    exact .notEmptied (hremoves hremove) hempty (deletesService_of_runs hempty)
  obtain ⟨_, h₄, clearing, rfl, hdisks, hclear⟩ | ⟨fault, -, hdisks⟩ := runs_bind.1 hr
  case inr => cases (runs_forM_regardless hdisks).1
  obtain ⟨-, hs, rfl, htries⟩ := runs_forM_regardless hdisks
  obtain ⟨rfl, haccounts⟩ := clearsAccounts_of_runs hshows hclear
  have hall : List.Forall₂ (c.TriesDisk deadline) role.diskNames hs := by
    refine htries.imp ?_
    rintro disk h ⟨r, htry⟩
    exact ⟨r, htry, attempts_of_runs htry⟩
  simp only [← List.append_assoc]
  exact .takenDown (hremoves hremove) hempty (deletesService_of_runs hempty) hall haccounts

/-! ## A disk that cannot be deleted -/

/-- A provider with a machine that is alone in its deployment. It refuses to delete
the first disk of the machine, and does not know the second. -/
def clingingScript : Script :=
  let disk (name : String) : Json := .obj [("DiskName", .str name)]
  let machine : Json := .obj [("RoleName", .str "r"), ("OSVirtualHardDisk", disk "o"),
    ("DataVirtualHardDisks", .arr [disk "x"])]
  let deployment : Json := .obj [("Name", .str "b"), ("RoleList", .arr [machine]),
    ("RoleInstanceList", .arr [.obj [("RoleName", .str "r"), ("IpAddress", .str "a")]])]
  [((.get, Path.cloudServices), [Script.listing ["w"], Script.listing []]),
    ((.get, Path.cloudServiceDetail "w"),
      [.shows (.obj [("ServiceName", .str "w"), ("Deployments", .arr [deployment])])]),
    ((.get, Path.deployment "w" "b"), [.shows (.obj [("Name", .str "b")])]),
    ((.delete, Path.deployment "w" "b"), [.accepts "1"]),
    Script.operationDone "1",
    ((.get, Path.disks), [.shows (.obj [("Disks", .arr [.obj [("Name", .str "o")]])])]),
    ((.delete, Path.diskWithMedia "o"), [.refuses 500])]

/-- The run of a teardown against it. -/
def torn : History Request (Except Fault Response) × Except Fault Unit :=
  (plainClient.deleteMachineAt "a" ⟨400000⟩).alone Script.respond clingingScript 0

/-- The machine is taken down for all that. -/
theorem teardown_extent_torn :
    plainClient.TakesDown "a" ⟨400000⟩ torn.1 torn.2 ∧
      torn.1.asked.map (fun x => (x.1.method, x.1.path)) = [
        (.get, Path.cloudServices), (.get, Path.cloudServiceDetail "w"),
        (.get, Path.deployment "w" "b"), (.delete, Path.deployment "w" "b"),
        (.get, operationPath "1"),
        (.get, Path.cloudServices),
        (.get, Path.disks), (.get, Path.disks), (.delete, Path.diskWithMedia "o"),
        (.get, Path.disks)] ∧
      torn.2 = .ok () := by
  have hr : Runs (plainClient.deleteMachineAt "a" ⟨400000⟩) torn.1 torn.2 := runs_alone ..
  exact ⟨teardown_extent hr, by decide +kernel⟩

end Client

end CloudOrchestration
