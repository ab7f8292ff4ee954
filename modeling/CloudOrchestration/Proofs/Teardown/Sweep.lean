import CloudOrchestration.Proofs.Client.Scripts
import CloudOrchestration.Proofs.Teardown.Steps
/-!
# Taking a whole deployment down

Which disks are to go is settled before anything is deleted: those that a listing
shows attached to the cloud service. Without any the call changes nothing. With
some, the deployment goes, then the cloud service if it is empty, and then the
disks in their order. Here, unlike where a single machine is taken down, the first
step that fails ends the whole with its fault, and nothing is deleted after it
(`Client.sweeps_in_order`).
-/

namespace CloudOrchestration

open Workflow Channel

namespace Client

variable {c : Client} {service deployment : String} {deadline : Deadline}
variable {h : History Request (Except Fault Response)}

/-- **The names of the disks to go**, in the order of the listing. -/
def attachedNames (disks : Disks) (service : String) : List String :=
  (disks.attachedTo service).map (·.name)

/-- **The listing that settles the disks**: nothing is changed, and the last answer
shows all disks, those to go among them. -/
structure SettlesDisks (c : Client) (service : String) (names : List String)
    (asked : List Asked) : Prop where
  reads : ¬ Mutates asked
  shown : ∃ (r : Response) (disks : Disks), Reads Path.disks asked (.ok r) ∧
    c.channel.document r = .ok disks ∧ attachedNames disks service = names

/-- **The step that deletes a deployment**: nothing else is changed, and that once at
most. -/
structure DeletesDeployment (c : Client) (service deployment : String) (deadline : Deadline)
    (h : History Request (Except Fault Response)) (r : Except Fault Action) : Prop where
  ran : Runs (c.deleteDeployment service deployment deadline) h r
  mutatesOnly :
    MutatesOnly { method := .delete, path := Path.deployment service deployment } h.asked
  once : (acceptedChanges h.asked).length ≤ 1

/-- **Up to the disks**: those to go are settled, and there are some; the deployment
and the cloud service have been seen to. -/
structure ComesToDisks (c : Client) (service deployment : String) (deadline : Deadline)
    (names : List String) (listing removing emptying : History Request (Except Fault Response)) :
    Prop where
  settles : c.SettlesDisks service names listing.asked
  ne_nil : names ≠ []
  removes : ∃ action, c.DeletesDeployment service deployment deadline removing (.ok action)
  ran : ∃ action, Runs (c.deleteCloudService service deadline) emptying (.ok action)
  empties : c.DeletesService service emptying.asked

/-- An attempt to delete a disk ended well. -/
def DeletesDisk (c : Client) (disk : String) (h : History Request (Except Fault Response)) : Prop :=
  c.Attempts disk h.asked (.ok ())

/-- **The sweep of a deployment**, and its end. -/
inductive Sweeps (c : Client) (service deployment : String) (deadline : Deadline) :
    History Request (Except Fault Response) → Except Fault Unit → Prop where
  /-- The disks could not be listed. -/
  | unlisted {listing : History Request (Except Fault Response)} {fault : Fault}
      (hran : Runs (c.disks deadline) listing (.error fault)) (hreads : ¬ Mutates listing.asked) :
      Sweeps c service deployment deadline listing (.error fault)
  /-- There are none to go. -/
  | bare {listing : History Request (Except Fault Response)}
      (hsettles : c.SettlesDisks service [] listing.asked) :
      Sweeps c service deployment deadline listing (.error (.invalidState (.noDisks service)))
  | notRemoved {listing removing : History Request (Except Fault Response)}
      {names : List String} {fault : Fault}
      (hsettles : c.SettlesDisks service names listing.asked) (hsome : names ≠ [])
      (hremoves : c.DeletesDeployment service deployment deadline removing (.error fault)) :
      Sweeps c service deployment deadline (listing ++ removing) (.error fault)
  | notEmptied {listing removing emptying : History Request (Except Fault Response)}
      {names : List String} {action : Action} {fault : Fault}
      (hsettles : c.SettlesDisks service names listing.asked) (hsome : names ≠ [])
      (hremoves : c.DeletesDeployment service deployment deadline removing (.ok action))
      (hran : Runs (c.deleteCloudService service deadline) emptying (.error fault))
      (hempties : c.DeletesService service emptying.asked) :
      Sweeps c service deployment deadline (listing ++ removing ++ emptying) (.error fault)
  /-- A disk could not be deleted: those before it were, and those after it are not
  tried. -/
  | halted {listing removing emptying last : History Request (Except Fault Response)}
      {earlier later : List String} {disk : String}
      {hs : List (History Request (Except Fault Response))} {fault : Fault}
      (hcomes : c.ComesToDisks service deployment deadline (earlier ++ disk :: later)
        listing removing emptying)
      (hdone : List.Forall₂ c.DeletesDisk earlier hs)
      (hran : Runs (c.deleteReleasedDisk disk deadline) last (.error fault))
      (hattempts : c.Attempts disk last.asked (.error fault)) :
      Sweeps c service deployment deadline
        (listing ++ removing ++ emptying ++ hs.flatten ++ last) (.error fault)
  | swept {listing removing emptying : History Request (Except Fault Response)}
      {names : List String} {hs : List (History Request (Except Fault Response))}
      (hcomes : c.ComesToDisks service deployment deadline names listing removing emptying)
      (hdone : List.Forall₂ c.DeletesDisk names hs) :
      Sweeps c service deployment deadline (listing ++ removing ++ emptying ++ hs.flatten) (.ok ())

theorem settlesDisks_of_runs {disks : Disks} (hr : Runs (c.disks deadline) h (.ok disks)) :
    c.SettlesDisks service (attachedNames disks service) h.asked := by
  obtain ⟨r, hreads, hdocument⟩ := reads_of_runs_get hr
  exact ⟨hreads.not_mutates, r, disks, hreads, hdocument, rfl⟩

theorem deletesDeployment_of_runs {o : Except Fault Action}
    (hr : Runs (c.deleteDeployment service deployment deadline) h o) :
    c.DeletesDeployment service deployment deadline h o := by
  have hcourse : (LifecycleCall.intent c (.deleteDeployment service deployment)).Course c
      h.asked o := follows_deleteDeployment h o hr
  exact ⟨hr, hcourse.mutatesOnly, hcourse.length_acceptedChanges_le⟩

/-- **A deployment is swept in order**, whatever the call is answered. -/
theorem sweeps_in_order {o : Except Fault Unit}
    (hr : Runs (c.deleteMachinesOf service deployment deadline) h o) :
    c.Sweeps service deployment deadline h o := by
  obtain ⟨disks, listing, h₁, rfl, hlist, hr⟩ | ⟨fault, rfl, hlist⟩ := runs_bind.1 hr
  case inr => exact .unlisted hlist (not_mutates_of_asks asks_get hlist)
  have hsettles : c.SettlesDisks service (attachedNames disks service) listing.asked :=
    settlesDisks_of_runs hlist
  change Runs (if (attachedNames disks service).isEmpty then _ else _) h₁ o at hr
  split at hr
  next hnone =>
    obtain ⟨rfl, rfl⟩ := runs_fail.1 hr
    rw [List.isEmpty_iff.1 hnone] at hsettles
    simpa using Sweeps.bare hsettles
  next hsome =>
    have hsome : attachedNames disks service ≠ [] := fun hnil => hsome (List.isEmpty_iff.2 hnil)
    obtain ⟨action, removing, h₂, rfl, hremove, hr⟩ | ⟨fault, rfl, hremove⟩ := runs_bind.1 hr
    case inr => exact .notRemoved hsettles hsome (deletesDeployment_of_runs hremove)
    have hremoves := deletesDeployment_of_runs hremove
    obtain ⟨action', emptying, h₃, rfl, hempty, hloop⟩ | ⟨fault, rfl, hempty⟩ := runs_bind.1 hr
    case inr =>
      rw [← List.append_assoc]
      exact .notEmptied hsettles hsome hremoves hempty (deletesService_of_runs hempty)
    have hcomes : c.ComesToDisks service deployment deadline (attachedNames disks service)
        listing removing emptying :=
      ⟨hsettles, hsome, ⟨action, hremoves⟩, ⟨action', hempty⟩, deletesService_of_runs hempty⟩
    obtain ⟨earlier, hs, hran, hend⟩ := runs_forM (l := attachedNames disks service) hloop
    have hdone : List.Forall₂ c.DeletesDisk earlier hs :=
      hran.imp fun name h hdelete => attempts_of_runs hdelete
    simp only [← List.append_assoc]
    obtain ⟨hall, rfl, rfl⟩ | ⟨disk, later, last, fault, hnames, rfl, hlast, rfl⟩ := hend
    · exact .swept hcomes (hall ▸ hdone)
    · rw [← List.append_assoc]
      exact .halted (hnames ▸ hcomes) hdone hlast (attempts_of_runs hlast)

/-! ## A disk in use and one that is not -/

/-- A provider with a disk in use and one that is not. The one in use is free from the
second listing on. -/
def releasingScript : Script :=
  let disk (name : String) (user : List (String × Json)) : Json :=
    .obj (("Name", .str name) :: user)
  let used := disk "o" [("AttachedTo", .obj [("HostedServiceName", .str "w"),
    ("DeploymentName", .str "b"), ("RoleName", .str "r")])]
  let disks (items : List Json) : ScriptedReply := .shows (.obj [("Disks", .arr items)])
  [((.get, Path.disks), [disks [used, disk "x" []], disks [disk "o" []]]),
    ((.get, Path.deployment "w" "b"), [.shows (.obj [("Name", .str "b")])]),
    ((.delete, Path.deployment "w" "b"), [.accepts "1"]),
    Script.operationDone "1",
    ((.get, Path.cloudServices), [Script.listing []]),
    ((.delete, Path.diskWithMedia "o"), [.accepts "2"]),
    Script.operationDone "2"]

/-- The run of a sweep against it. -/
def swept : History Request (Except Fault Response) × Except Fault Unit :=
  (plainClient.deleteMachinesOf "w" "b" ⟨400000⟩).alone Script.respond releasingScript 0

/-- The disk that was in use goes, and the other stays. -/
theorem sweeps_in_order_swept :
    plainClient.Sweeps "w" "b" ⟨400000⟩ swept.1 swept.2 ∧
      swept.1.asked.map (fun x => (x.1.method, x.1.path)) = [
        (.get, Path.disks),
        (.get, Path.deployment "w" "b"), (.delete, Path.deployment "w" "b"),
        (.get, operationPath "1"),
        (.get, Path.cloudServices),
        (.get, Path.disks), (.get, Path.disks), (.delete, Path.diskWithMedia "o"),
        (.get, operationPath "2")] ∧
      swept.2 = .ok () := by
  have hr : Runs (plainClient.deleteMachinesOf "w" "b" ⟨400000⟩) swept.1 swept.2 := runs_alone ..
  exact ⟨sweeps_in_order hr, by decide +kernel⟩

end Client

end CloudOrchestration
