import CloudOrchestration.Document.Listing
/-!
# Disks

The disks of a subscription, each of them free or attached to one role of
one deployment.
-/

namespace CloudOrchestration

/-- Where a disk is attached. -/
structure Attachment where
  service : String
  deployment : String
  role : String
  deriving DecidableEq, Repr

instance : Document Attachment where
  encode a := .object [
    Document.member "HostedServiceName" a.service,
    Document.member "DeploymentName" a.deployment,
    Document.member "RoleName" a.role]
  decode v := do
    let ms ← v.fields? ["HostedServiceName", "DeploymentName", "RoleName"]
    return {
      service := ← ms.required "HostedServiceName"
      deployment := ← ms.required "DeploymentName"
      role := ← ms.required "RoleName" }

structure Disk where
  name : String
  attachedTo : Option Attachment
  label : Option String
  mediaLink : Option String
  os : Option String
  deriving DecidableEq, Repr

namespace Disk

instance : Document Disk where
  encode d := .object [
    Document.member "Name" d.name,
    Document.memberIfSome "AttachedTo" d.attachedTo,
    Document.memberIfSome "Label" d.label,
    Document.memberIfSome "MediaLink" d.mediaLink,
    Document.memberIfSome "OS" d.os]
  decode v := do
    let ms ← v.fields? ["Name", "AttachedTo", "Label", "MediaLink", "OS"]
    return {
      name := ← ms.required "Name"
      attachedTo := ← ms.optional "AttachedTo"
      label := ← ms.optional "Label"
      mediaLink := ← ms.optional "MediaLink"
      os := ← ms.optional "OS" }

def isAttachedTo (d : Disk) (service : String) : Bool :=
  match d.attachedTo with
  | some a => a.service == service
  | none => false

end Disk

abbrev Disks := Listing "Disks" Disk

namespace Disks

/-- The first disk of a name. -/
def find? (disks : Disks) (name : String) : Option Disk :=
  disks.items.find? (·.name == name)

/-- The disks attached to a cloud service, in their order. -/
def attachedTo (disks : Disks) (service : String) : List Disk :=
  disks.items.filter (·.isAttachedTo service)

end Disks

/-- What is sent to change the label of a disk. -/
structure DiskLabel where
  name : String
  label : String
  deriving DecidableEq, Repr

instance : Document DiskLabel where
  encode d := .object [Document.member "Name" d.name, Document.member "Label" d.label]
  decode v := do
    let ms ← v.fields? ["Name", "Label"]
    return {
      name := ← ms.required "Name"
      label := ← ms.required "Label" }

end CloudOrchestration
