import CloudOrchestration.Document.Deployment
import CloudOrchestration.Document.Listing
/-!
# Cloud services

A cloud service has a name, properties and, where they were asked for, its
deployments.
-/

namespace CloudOrchestration

structure CloudService.Properties where
  status : String := ""
  affinityGroup : Option String := none
  label : String := ""
  deriving DecidableEq, Repr

instance : Document CloudService.Properties where
  encode p := .object [
    Document.member "Status" p.status,
    Document.member "AffinityGroup" p.affinityGroup,
    Document.member "Label" p.label]
  decode v := do
    let ms ← v.fields? ["Status", "AffinityGroup", "Label"]
    return {
      status := ← ms.defaulted "Status" ""
      affinityGroup := ← ms.optional "AffinityGroup"
      label := ← ms.defaulted "Label" "" }

structure CloudService where
  name : String
  properties : CloudService.Properties
  deployments : List Deployment
  deriving DecidableEq, Repr

namespace CloudService

instance : Document CloudService where
  encode s := .object [
    Document.member "ServiceName" s.name,
    Document.member "HostedServiceProperties" s.properties,
    Document.member "Deployments" s.deployments]
  decode v := do
    let ms ← v.fields? ["ServiceName", "HostedServiceProperties", "Deployments"]
    return {
      name := ← ms.required "ServiceName"
      properties := ← ms.defaulted "HostedServiceProperties" {}
      deployments := ← ms.defaulted "Deployments" [] }

/-- The status of a cloud service that has been set up. -/
def created : String := "Created"

def status (s : CloudService) : String := s.properties.status

/-- The service with its own name on each of its deployments. -/
def labelled (s : CloudService) : CloudService :=
  { s with deployments := s.deployments.map (·.foundIn s.name) }

end CloudService

abbrev CloudServices := Listing "HostedServices" CloudService

namespace CloudServices

def contains (services : CloudServices) (name : String) : Bool :=
  services.items.any (·.name == name)

end CloudServices

end CloudOrchestration
