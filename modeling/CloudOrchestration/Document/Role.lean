import CloudOrchestration.Document.Configuration
import CloudOrchestration.Document.DataDisk
/-!
# Roles

A role is the description of one virtual machine of a deployment; the
machine itself is an instance of it, with a status and an address.
-/

namespace CloudOrchestration

/-- An extension that is installed on a machine. -/
structure Extension where
  referenceName : String
  publisher : String
  name : String
  version : String
  deriving DecidableEq, Repr

instance : Document Extension where
  encode e := .object [
    Document.member "ReferenceName" e.referenceName,
    Document.member "Publisher" e.publisher,
    Document.member "Name" e.name,
    Document.member "Version" e.version]
  decode v := do
    let ms ← v.fields? ["ReferenceName", "Publisher", "Name", "Version"]
    return {
      referenceName := ← ms.required "ReferenceName"
      publisher := ← ms.required "Publisher"
      name := ← ms.required "Name"
      version := ← ms.required "Version" }

structure Role where
  name : String
  kind : String
  size : Option String
  configurations : List Configuration
  extensions : List Extension
  dataDisks : List DataDisk
  systemDisk : Option SystemDisk
  deriving DecidableEq, Repr

namespace Role

/-- The kind of a role that keeps its disks. -/
def persistent : String := "PersistentVMRole"

/-- Extensions are left out when there are none. -/
instance : Document Role where
  encode r := .object [
    Document.member "RoleName" r.name,
    Document.member "RoleType" r.kind,
    Document.memberIfSome "RoleSize" r.size,
    Document.member "ConfigurationSets" r.configurations,
    Document.memberIfSome "ResourceExtensionReferences"
      (if r.extensions.isEmpty then none else some r.extensions),
    Document.member "DataVirtualHardDisks" r.dataDisks,
    Document.memberIfSome "OSVirtualHardDisk" r.systemDisk]
  decode v := do
    let ms ← v.fields? [
      "RoleName", "RoleType", "RoleSize", "ConfigurationSets", "ResourceExtensionReferences",
      "DataVirtualHardDisks", "OSVirtualHardDisk"]
    return {
      name := ← ms.required "RoleName"
      kind := ← ms.defaulted "RoleType" persistent
      size := ← ms.optional "RoleSize"
      configurations := ← ms.defaulted "ConfigurationSets" []
      extensions := ← ms.defaulted "ResourceExtensionReferences" []
      dataDisks := ← ms.defaulted "DataVirtualHardDisks" []
      systemDisk := ← ms.optional "OSVirtualHardDisk" }

/-- The first network configuration. -/
def network? (r : Role) : Option NetworkConfiguration :=
  r.configurations.findSome? (·.network?)

/-- The address of the first endpoint of the network configuration. -/
def publicAddress? (r : Role) : Option String := do
  (← (← r.network?).endpoints.head?).vip

/-- The names of the disks of a role that have one, the system disk first. -/
def diskNames (r : Role) : List String :=
  (r.systemDisk.bind (·.diskName)).toList ++ r.dataDisks.filterMap (·.diskName)

end Role

structure RoleInstance where
  role : String
  name : String
  status : String
  address : Option String
  deriving DecidableEq, Repr

namespace RoleInstance

instance : Document RoleInstance where
  encode i := .object [
    Document.member "RoleName" i.role,
    Document.member "InstanceName" i.name,
    Document.member "InstanceStatus" i.status,
    Document.member "IpAddress" i.address]
  decode v := do
    let ms ← v.fields? ["RoleName", "InstanceName", "InstanceStatus", "IpAddress"]
    return {
      role := ← ms.required "RoleName"
      name := ← ms.defaulted "InstanceName" ""
      status := ← ms.defaulted "InstanceStatus" ""
      address := ← ms.optional "IpAddress" }

/-- The status of a machine that is up. -/
def ready : String := "ReadyRole"

/-- The statuses after which a machine never comes up. -/
def failedStatuses : List String :=
  ["FailedStartingRole", "FailedStartingVM", "UnresponsiveRole", "CyclingRole"]

end RoleInstance

end CloudOrchestration
