import CloudOrchestration.Proofs.Client.Scripts
import CloudOrchestration.Proofs.Teardown.RoleLists
/-!
# A provider of one deployment

The simplest provider that keeps role lists: one deployment, which it shows as
it is, and every change is accepted (`Cabinet.keepsRoles`). Calls that submit and
take down machines are run against it.
-/

namespace CloudOrchestration

open Workflow Channel Schedule

/-- A provider with one deployment, at first of one machine, and the changes that
it has accepted since. -/
structure Cabinet where
  changes : List Request := []

namespace Cabinet

open Document

/-- The roles of a deployment, after all changes. -/
def roles (s : Cabinet) (service deployment : String) : List String :=
  s.changes.foldl (fun roles q => q.reshape .json service deployment roles)
    (if service = "w" ∧ deployment = "w" then ["a"] else [])

/-- The address of a machine. -/
def addressOf (role : String) : String := "ip-" ++ role

/-- The documents of machines and of their roles, as far as they are filled
in. -/
def instanceList (names : List String) : Json :=
  .arr (names.map fun role =>
    .object [member "RoleName" role, member "IpAddress" (some (addressOf role))])

def roleList (names : List String) : Json :=
  .arr (names.map fun role => .object [member "RoleName" role])

/-- The document of the deployment. -/
def deployment (names : List String) : Json := .object [
  member "Name" "w",
  ("RoleInstanceList", some (instanceList names)),
  ("RoleList", some (roleList names))]

/-- The document of the cloud service along with the deployment. -/
def detail (names : List String) : Json :=
  .object [member "ServiceName" "w", ("Deployments", some (.arr [deployment names]))]

/-- What is shown at which path; looking at the slot takes a while. -/
def script (s : Cabinet) : Script := [
  ((.get, Path.cloudServiceDetail "w"), [.shows (detail (s.roles "w" "w"))]),
  ((.get, Path.cloudServices), [Script.listing ["w"]]),
  ((.get, Path.cloudService "w"), [.shows (.obj [("ServiceName", .str "w")])]),
  ((.get, Path.slot "w" Deployment.production), [.shows (.obj [("Name", .str "w")]) 10]),
  ((.get, Path.deployment "w" "w"), [.shows (.obj [("Name", .str "w")])]),
  Script.operationDone "1"]

/-- Every change is accepted. -/
def accepts (_ : Cabinet) (q : Request) : Bool := q.isMutating

def respond : Server Cabinet Request (Except Fault Response) := fun s q =>
  if s.accepts q then
    ⟨{ s with changes := s.changes ++ [q] }, 0, (ScriptedReply.accepts "1").answer⟩
  else { Script.respond s.script q with server := s }

attribute [local simp] fields?_object find?_membersOf_nil Members.required_eq
  Members.defaulted_eq Members.optional_eq

section

variable (names : List String)

theorem decode_roleList : ∃ roles : List Role,
    decode (roleList names) = some roles ∧ roles.map (·.name) = names := by
  refine ⟨_, decode_arr_map (g := fun name => {
    name
    kind := Role.persistent
    size := none
    configurations := []
    extensions := []
    dataDisks := []
    systemDisk := none }) fun name _ => ?_, by simp [Function.comp_def]⟩
  unfold Role.instDocument
  simp

theorem decode_instanceList : ∃ instances : List RoleInstance,
    decode (instanceList names) = some instances ∧
      ∀ i ∈ instances, i.address = some (addressOf i.role) := by
  refine ⟨_, decode_arr_map (g := fun role =>
    { role, name := "", status := "", address := some (addressOf role) }) fun role _ => ?_, by simp⟩
  unfold RoleInstance.instDocument
  simp

/-- The deployment as it is shown. -/
structure Lists (names : List String) (d : Deployment) : Prop where
  name : d.name = "w"
  roles : d.roles.map (·.name) = names
  addresses : ∀ i ∈ d.instances, i.address = some (addressOf i.role)

theorem decode_deployment : ∃ d : Deployment,
    decode (deployment names) = some d ∧ Lists names d := by
  obtain ⟨roles, hroles, hnames⟩ := decode_roleList names
  obtain ⟨instances, hinstances, haddresses⟩ := decode_instanceList names
  refine ⟨{ name := "w", slot := "", status := "", instances, roles, network := none }, ?_, rfl,
    hnames, haddresses⟩
  unfold Deployment.instDocument
  simp [deployment, hroles, hinstances]

theorem decode_detail : ∃ found : CloudService, decode (detail names) = some found ∧
    found.name = "w" ∧ ∀ d ∈ found.deployments, Lists names d := by
  obtain ⟨d, hdeployment, hlists⟩ := decode_deployment names
  have hdeployments : decode (.arr [deployment names]) = some [d] :=
    decode_arr_map (l := [()]) fun _ _ => hdeployment
  refine ⟨{ name := "w", properties := {}, deployments := [d] }, ?_, rfl, by simpa using hlists⟩
  unfold CloudService.instDocument
  simp [detail, hdeployments]

theorem writable_detail : Json.Writable Json.maxDepth (detail names) := by
  have hentry : ∀ {depth : Nat} {key : String} {v : Json}, Json.Writable depth v →
      WritableEntry depth (key, some v) := by
    rintro depth key v hv _ ⟨⟩
    exact hv
  have hroles : Json.Writable 2 (roleList names) :=
    .arr (List.forall_mem_map.2 fun _ _ => writable_object (by simp))
  have hinstances : Json.Writable 2 (instanceList names) :=
    .arr (List.forall_mem_map.2 fun _ _ => writable_object (by simp))
  have hdeployments : Json.Writable 4 (.arr [deployment names]) := by
    refine .arr (List.forall_mem_singleton.2 (writable_object ?_))
    simp [hentry hroles, hentry hinstances]
  have hdetail : Json.Writable 5 (detail names) := writable_object (by simp [hentry hdeployments])
  exact hdetail.mono (by decide)

end

/-- **What is shown of a cloud service** is the deployment as it is. -/
theorem lists_of_respond {s : Cabinet} {name : String} {r : Response} {found : CloudService}
    (hr : (respond s (.read (Path.cloudServiceDetail name))).answer = .ok r)
    (hsuccess : r.isSuccess) (hread : Wire.json.read r.body = .ok found) :
    found.name = "w" ∧ ∀ d ∈ found.deployments, Lists (s.roles "w" "w") d := by
  have hanswer : (Script.respond s.script (.read (Path.cloudServiceDetail name))).answer = .ok r :=
    hr
  by_cases hfirst : Path.cloudServiceDetail "w" = Path.cloudServiceDetail name
  · simp only [script, Script.respond, Request.read, hfirst, if_true] at hanswer
    cases hanswer
    obtain ⟨shown, hdecode, hlists⟩ := decode_detail (s.roles "w" "w")
    have hshown : Wire.json.read (detail (s.roles "w" "w")).toBytes = .ok shown :=
      Wire.json_read_of_decode (writable_detail _) hdecode
    cases hshown.symm.trans hread
    exact hlists
  · -- the script has nothing else of the kind
    have hmissing : (Script.respond s.script (.read (Path.cloudServiceDetail name))).answer =
        .ok Script.missing := by
      refine Script.answer_of_missing fun entry hentry heq => ?_
      have hpath : entry.1.2 = Path.cloudServiceDetail name := congrArg Prod.snd heq
      obtain rfl | hrest := List.mem_cons.1 hentry
      · exact hfirst hpath
      · refine Path.ne_cloudServiceDetail ?_ hpath
        simp only [List.mem_cons, List.not_mem_nil, or_false] at hrest
        obtain rfl | rfl | rfl | rfl | rfl := hrest <;> decide
    rw [hmissing] at hanswer
    cases hanswer
    exact absurd hsuccess (by decide)

/-- **It keeps the roles of its deployments.** -/
theorem keepsRoles : KeepsRoles .json respond roles accepts where
  shown hr hsuccess hread d hd := by
    obtain ⟨hservice, hlists⟩ := lists_of_respond hr hsuccess hread
    rw [(hlists d hd).roles, hservice, (hlists d hd).name]
  applied haccepts service deployment := by
    simp [respond, haccepts, roles]
  kept haccepts := by
    simp [respond, haccepts]

end Cabinet

end CloudOrchestration
