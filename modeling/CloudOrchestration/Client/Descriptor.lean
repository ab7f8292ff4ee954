import CloudOrchestration.Client.DataDisks
import CloudOrchestration.Document.Machine
/-!
# Describing a machine

What has to be known to boot one virtual machine, and the role that is
submitted for it. Some of it is settled only on the way: the cloud service,
the deployment and the address.
-/

namespace CloudOrchestration

/-- What has to be known to boot one virtual machine. -/
structure Descriptor where
  role : String
  affinityGroup : String
  storageAccount : String
  /-- How the operating system is set up. -/
  system : Configuration
  /-- The cloud service; without one its name is made up from the role's. -/
  service : Option String := none
  slot : String := Deployment.production
  size : String := "Small"
  image : String := ""
  /-- The virtual network; without one it is that of the client. -/
  network : Option String := none
  subnet : Option String := none
  /-- Addresses to try, in order. -/
  candidates : List String := []
  endpoints : List Endpoint := []
  extensions : List Extension := []
  dataDiskGb : Option UInt32 := none
  domainJoin : Option Configuration := none
  /-- Settled on the way. -/
  deployment : Option String := none
  /-- Settled on the way. -/
  address : Option String := none
  deriving DecidableEq

namespace Descriptor

def networkConfiguration (d : Descriptor) : NetworkConfiguration :=
  { endpoints := d.endpoints, subnets := d.subnet.toList, staticAddress := d.address }

/-- The disk the machine boots from, made from the image. -/
def systemDisk (d : Descriptor) (service : String) : SystemDisk :=
  { diskName := none
    mediaLink := some (DataDisk.mediaAddress d.storageAccount s!"{service}-{d.role}-os.vhd")
    image := some d.image }

/-- **The role that is submitted** to a cloud service. -/
def toRole (d : Descriptor) (service : String) : Role :=
  { name := d.role
    kind := Role.persistent
    size := some d.size
    configurations := [d.system, .network d.networkConfiguration] ++ d.domainJoin.toList
    extensions := d.extensions
    dataDisks := []
    systemDisk := some (d.systemDisk service) }

end Descriptor

end CloudOrchestration
