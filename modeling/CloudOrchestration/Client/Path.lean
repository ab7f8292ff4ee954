/-!
# Paths

Where the provider keeps what, below the root of the subscription.
-/

namespace CloudOrchestration

namespace Path

def affinityGroups : String := "/affinitygroups"

def affinityGroup (name : String) : String := s!"/affinitygroups/{name}"

def storageAccounts : String := "/services/storageservices"

def storageAccount (name : String) : String := s!"/services/storageservices/{name}"

def cloudServices : String := "/services/hostedservices"

def cloudService (name : String) : String := s!"/services/hostedservices/{name}"

/-- A cloud service along with its deployments. -/
def cloudServiceDetail (name : String) : String :=
  s!"/services/hostedservices/{name}?embed-detail=true"

def slot (service slot : String) : String :=
  s!"/services/hostedservices/{service}/deploymentslots/{slot}"

def deployments (service : String) : String := s!"/services/hostedservices/{service}/deployments"

def deployment (service deployment : String) : String :=
  s!"/services/hostedservices/{service}/deployments/{deployment}"

def roles (service deployment : String) : String :=
  s!"/services/hostedservices/{service}/deployments/{deployment}/roles"

def role (service deployment role : String) : String :=
  s!"/services/hostedservices/{service}/deployments/{deployment}/roles/{role}"

def dataDisks (service deployment role : String) : String :=
  s!"/services/hostedservices/{service}/deployments/{deployment}/roles/{role}/DataDisks"

def dataDisk (service deployment role : String) (lun : UInt8) : String :=
  s!"{dataDisks service deployment role}/{lun}"

def disks : String := "/services/disks"

def disk (name : String) : String := s!"/services/disks/{name}"

/-- A disk together with the file behind it. -/
def diskWithMedia (name : String) : String := s!"/services/disks/{name}?comp=media"

def topology : String := "/services/networking/media"

def gateway (network : String) : String := s!"/services/networking/{network}/gateway"

def sharedKey (network localSite : String) : String :=
  s!"/services/networking/{network}/gateway/connection/{localSite}/sharedkey"

def availability (network address : String) : String :=
  s!"/services/networking/{network}?op=checkavailability&address={address}"

end Path

end CloudOrchestration
