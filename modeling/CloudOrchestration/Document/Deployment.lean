import CloudOrchestration.Document.Role
/-!
# Deployments

A deployment holds roles and their instances in one slot of a cloud service.
Its document does not name that service; whoever fetched it does.
-/

namespace CloudOrchestration

structure Deployment where
  name : String
  slot : String
  status : String
  instances : List RoleInstance
  roles : List Role
  network : Option String
  /-- The cloud service through which the deployment was found. -/
  service : Option String := none
  deriving DecidableEq, Repr

namespace Deployment

instance : Document Deployment where
  encode d := .object [
    Document.member "Name" d.name,
    Document.member "DeploymentSlot" d.slot,
    Document.member "Status" d.status,
    Document.member "RoleInstanceList" d.instances,
    Document.member "RoleList" d.roles,
    Document.member "VirtualNetworkName" d.network]
  decode v := do
    let ms ← v.fields? [
      "Name", "DeploymentSlot", "Status", "RoleInstanceList", "RoleList", "VirtualNetworkName"]
    return {
      name := ← ms.required "Name"
      slot := ← ms.defaulted "DeploymentSlot" ""
      status := ← ms.defaulted "Status" ""
      instances := ← ms.defaulted "RoleInstanceList" []
      roles := ← ms.defaulted "RoleList" []
      network := ← ms.optional "VirtualNetworkName" }

/-- The two slots of a cloud service. -/
def production : String := "Production"

def staging : String := "Staging"

/-- The status of a deployment that runs. -/
def running : String := "Running"

/-- The first role of a name. -/
def role? (d : Deployment) (name : String) : Option Role :=
  d.roles.find? (·.name == name)

/-- The first instance of a role. -/
def instance? (d : Deployment) (role : String) : Option RoleInstance :=
  d.instances.find? (·.role == role)

/-- The first instance that has an address. -/
def instanceAt? (d : Deployment) (address : String) : Option RoleInstance :=
  d.instances.find? (·.address == some address)

/-- The deployment as found through a cloud service. -/
def foundIn (d : Deployment) (service : String) : Deployment :=
  { d with service := some service }

end Deployment

/-- What is sent to create a deployment. -/
structure NewDeployment where
  name : String
  slot : String
  label : String
  roles : List Role
  network : Option String
  deriving DecidableEq, Repr

instance : Document NewDeployment where
  encode d := .object [
    Document.member "Name" d.name,
    Document.member "DeploymentSlot" d.slot,
    Document.member "Label" d.label,
    Document.member "RoleList" d.roles,
    Document.memberIfSome "VirtualNetworkName" d.network]
  decode v := do
    let ms ← v.fields? ["Name", "DeploymentSlot", "Label", "RoleList", "VirtualNetworkName"]
    return {
      name := ← ms.required "Name"
      slot := ← ms.required "DeploymentSlot"
      label := ← ms.required "Label"
      roles := ← ms.required "RoleList"
      network := ← ms.optional "VirtualNetworkName" }

end CloudOrchestration
