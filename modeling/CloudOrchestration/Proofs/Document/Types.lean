import CloudOrchestration.Proofs.Document.Deployments
import CloudOrchestration.Proofs.Document.Reports
import CloudOrchestration.Proofs.Document.Resources
import CloudOrchestration.Proofs.Document.Topology
/-!
# All documents

The types of all documents there are, and what holds of each of them: whatever
was read from bytes can be written, and what was written is read as the same
value (`documents_survive`). So a document can be passed on as often as one likes,
with members that were missing, `null`, unknown or out of order in the first bytes,
and with arrays that stood for objects.
-/

namespace CloudOrchestration

open Document

/-- **The types of documents.** -/
inductive IsDocument : (α : Type) → [Document α] → Prop where
  -- cloud services and the machines in them
  | affinityGroup : IsDocument AffinityGroup
  | affinityGroups : IsDocument AffinityGroups
  | serviceProperties : IsDocument CloudService.Properties
  | cloudService : IsDocument CloudService
  | cloudServices : IsDocument CloudServices
  | roleInstance : IsDocument RoleInstance
  | deployment : IsDocument Deployment
  | newDeployment : IsDocument NewDeployment
  | role : IsDocument Role
  | configuration : IsDocument Configuration
  | networkConfiguration : IsDocument NetworkConfiguration
  | endpoint : IsDocument Endpoint
  | linuxProvisioning : IsDocument LinuxProvisioning
  | windowsProvisioning : IsDocument WindowsProvisioning
  | domainJoin : IsDocument DomainJoin
  | extension : IsDocument Extension
  | systemDisk : IsDocument SystemDisk
  | dataDisk : IsDocument DataDisk
  -- networks
  | dnsServer : IsDocument DnsServer
  | dns : IsDocument Dns
  | addressSpace : IsDocument AddressSpace
  | localSite : IsDocument LocalSite
  | subnet : IsDocument Subnet
  | reference : IsDocument Reference
  | gateway : IsDocument Gateway
  | site : IsDocument Site
  | topology : IsDocument Topology
  | availability : IsDocument Availability
  | gatewayState : IsDocument GatewayState
  | gatewayInfo : IsDocument GatewayInfo
  | gatewayOrder : IsDocument GatewayOrder
  | sharedKey : IsDocument SharedKey
  -- storage; cloud services are ordered in the same words as accounts
  | storageAccount : IsDocument StorageAccount
  | storageAccounts : IsDocument StorageAccounts
  | serviceOrder : IsDocument ServiceOrder
  | attachment : IsDocument Attachment
  | disk : IsDocument Disk
  | disks : IsDocument Disks
  | diskLabel : IsDocument DiskLabel
  -- reports, answers and settings
  | rejection : IsDocument Rejection
  | operationState : IsDocument OperationState
  | operationReport : IsDocument OperationReport
  | action : IsDocument Action
  | machine : IsDocument Machine
  | cadence : IsDocument Cadence
  | settings : IsDocument Settings

/-- Whatever is read of the type survives, and is never too deep. -/
def Document.Steady (α : Type) [Document α] : Prop :=
  ∀ {v : Json} {a : α}, decode v = some a → ∃ depth, depth ≤ Json.maxDepth ∧ Survives depth a

theorem Document.Faithful.steady {α : Type} [Document α] {depth : Nat} (h : Faithful α depth)
    (hle : depth ≤ Json.maxDepth) : Steady α :=
  fun {_ a} _ => ⟨depth, hle, h.survives a⟩

/-- **Every document type is steady.** -/
theorem steady_of_isDocument {α : Type} [Document α] (h : IsDocument α) : Steady α := by
  cases h with
  | affinityGroup => exact AffinityGroup.faithful.steady (by decide)
  | affinityGroups => exact AffinityGroup.faithful.listing.steady (by decide)
  | serviceProperties => exact CloudService.Properties.faithful.steady (by decide)
  | cloudService => exact fun h => ⟨9, by decide, CloudService.survives_of_decode h⟩
  | cloudServices => exact fun h => ⟨11, by decide, CloudServices.survives_of_decode h⟩
  | roleInstance => exact RoleInstance.faithful.steady (by decide)
  | deployment => exact fun h => ⟨7, by decide, Deployment.survives_of_decode h⟩
  | newDeployment => exact NewDeployment.faithful.steady (by decide)
  | role => exact Role.faithful.steady (by decide)
  | configuration => exact Configuration.faithful.steady (by decide)
  | networkConfiguration => exact NetworkConfiguration.faithful.steady (by decide)
  | endpoint => exact Endpoint.faithful.steady (by decide)
  | linuxProvisioning => exact LinuxProvisioning.faithful.steady (by decide)
  | windowsProvisioning => exact WindowsProvisioning.faithful.steady (by decide)
  | domainJoin => exact DomainJoin.faithful.steady (by decide)
  | extension => exact Extension.faithful.steady (by decide)
  | systemDisk => exact SystemDisk.faithful.steady (by decide)
  | dataDisk => exact DataDisk.faithful.steady (by decide)
  | dnsServer => exact DnsServer.faithful.steady (by decide)
  | dns => exact DnsServer.faithful.listing.steady (by decide)
  | addressSpace => exact AddressSpace.faithful.steady (by decide)
  | localSite => exact LocalSite.faithful.steady (by decide)
  | subnet => exact Subnet.faithful.steady (by decide)
  | reference => exact Reference.faithful.steady (by decide)
  | gateway => exact Gateway.faithful.steady (by decide)
  | site => exact Site.faithful.steady (by decide)
  | topology => exact Topology.faithful.steady (by decide)
  | availability => exact Availability.faithful.steady (by decide)
  | gatewayState => exact GatewayState.faithful.steady (by decide)
  | gatewayInfo => exact GatewayInfo.faithful.steady (by decide)
  | gatewayOrder => exact GatewayOrder.faithful.steady (by decide)
  | sharedKey => exact SharedKey.faithful.steady (by decide)
  | storageAccount => exact StorageAccount.faithful.steady (by decide)
  | storageAccounts => exact StorageAccount.faithful.listing.steady (by decide)
  | serviceOrder => exact ServiceOrder.faithful.steady (by decide)
  | attachment => exact Attachment.faithful.steady (by decide)
  | disk => exact Disk.faithful.steady (by decide)
  | disks => exact Disk.faithful.listing.steady (by decide)
  | diskLabel => exact DiskLabel.faithful.steady (by decide)
  | rejection => exact Rejection.faithful.steady (by decide)
  | operationState => exact OperationState.faithful.steady (by decide)
  | operationReport => exact OperationReport.faithful.steady (by decide)
  | action => exact Action.faithful.steady (by decide)
  | machine => exact Machine.faithful.steady (by decide)
  | cadence => exact Cadence.faithful.steady (by decide)
  | settings => exact Settings.faithful.steady (by decide)

/-- **Documents survive**: whatever was read can be written, and is read back. -/
theorem documents_survive {α : Type} [Document α] (hα : IsDocument α) {bytes : ByteArray} {a : α}
    (h : Wire.json.read bytes = .ok a) :
    ∃ bytes', Wire.json.write a = .ok bytes' ∧ Wire.json.read bytes' = .ok a := by
  obtain ⟨v, -, hv⟩ := Wire.exists_decode_of_read h
  obtain ⟨depth, hle, hsurvives⟩ := steady_of_isDocument hα hv
  exact hsurvives.json hle

/-! ## A deployment of a machine -/

/-- A deployment as it may be sent: some members are unknown, some are missing or
`null`, they are in no order, and a disk is an array. -/
def sentDeployment : Json := .obj [
  ("Url", .bool true),
  ("RoleList", .arr [.obj [("RoleName", .str "r"), ("DataVirtualHardDisks", .arr [
    .arr [.null, .int 255]])]]),
  ("Name", .str "d\n"),
  ("VirtualNetworkName", .null)]

/-- The deployment that is read. -/
def receivedDeployment : Deployment where
  name := "d\n"
  slot := ""
  status := ""
  instances := []
  network := none
  roles := [{
    name := "r", kind := Role.persistent, size := none, configurations := [], extensions := []
    dataDisks := [{ lun := 255 }], systemDisk := none }]

theorem documents_survive_receivedDeployment :
    Wire.json.read sentDeployment.toBytes = .ok receivedDeployment ∧
      ∃ bytes, Wire.json.write receivedDeployment = .ok bytes ∧
        Wire.json.read bytes = .ok receivedDeployment := by
  have hoption : (Wire.json.read sentDeployment.toBytes).toOption = some receivedDeployment := by
    decide +kernel
  have hread : Wire.json.read sentDeployment.toBytes = .ok receivedDeployment := by
    cases hresult : (Wire.json.read sentDeployment.toBytes : Except Fault Deployment) with
    | error fault => simp [hresult, Except.toOption] at hoption
    | ok d => simpa [hresult, Except.toOption] using hoption
  exact ⟨hread, documents_survive .deployment hread⟩

end CloudOrchestration
