import CloudOrchestration.Document.AffinityGroup
import CloudOrchestration.Document.Disk
import CloudOrchestration.Document.Gateway
import CloudOrchestration.Document.ServiceOrder
import CloudOrchestration.Document.StorageAccount
import CloudOrchestration.Proofs.Document.Parts
/-!
# Resources are read back

The documents of affinity groups, storage accounts, disks, gateways and
addresses are faithful, and so are the orders for new ones.
-/

namespace CloudOrchestration

open Document

attribute [local simp] fields?_object find?_membersOf_nil Members.required_eq
  Members.defaulted_eq Members.optional_eq

theorem AffinityGroup.faithful : Faithful AffinityGroup 1 where
  writable g := writable_object (by simp)
  decode_encode g := by
    unfold instDocumentAffinityGroup
    simp

theorem ServiceOrder.faithful : Faithful ServiceOrder 1 where
  writable o := writable_object (by simp)
  decode_encode o := by
    unfold instDocumentServiceOrder
    simp

theorem StorageAccount.faithful : Faithful StorageAccount 1 where
  writable a := writable_object (by simp)
  decode_encode a := by
    unfold instDocumentStorageAccount
    simp

/-! ## Disks -/

theorem Attachment.faithful : Faithful Attachment 1 where
  writable a := writable_object (by simp)
  decode_encode a := by
    unfold instDocumentAttachment
    simp

theorem neverNull_attachment : NeverNull Attachment := fun _ => (nomatch ·)

theorem Disk.faithful : Faithful Disk 2 where
  writable d := by
    refine writable_object ?_
    simpa using Attachment.faithful.memberIfSome (Nat.le_refl _)
  decode_encode d := by
    unfold Disk.instDocument
    simp [Attachment.faithful.elim neverNull_attachment]

theorem DiskLabel.faithful : Faithful DiskLabel 1 where
  writable l := writable_object (by simp)
  decode_encode l := by
    unfold instDocumentDiskLabel
    simp

/-! ## Gateways and addresses -/

theorem GatewayState.faithful : Faithful GatewayState 0 where
  writable s := .str s.text
  decode_encode s := by
    unfold GatewayState.instDocument
    simp [variant?]

theorem GatewayInfo.faithful : Faithful GatewayInfo 1 where
  writable g := by
    refine writable_object ?_
    simpa using GatewayState.faithful.member (Nat.le_refl _)
  decode_encode g := by
    unfold instDocumentGatewayInfo
    simp [GatewayState.faithful.decode_encode]

theorem GatewayOrder.faithful : Faithful GatewayOrder 1 where
  writable o := writable_object (by simp)
  decode_encode o := by
    unfold instDocumentGatewayOrder
    simp

theorem SharedKey.faithful : Faithful SharedKey 1 where
  writable k := writable_object (by simp)
  decode_encode k := by
    unfold instDocumentSharedKey
    simp

theorem Availability.faithful : Faithful Availability 2 where
  writable a := by
    refine writable_object ?_
    simpa using ⟨faithful_bool.member (Nat.zero_le _), faithful_string.list.member (Nat.le_refl _)⟩
  decode_encode a := by
    unfold instDocumentAvailability
    simp [faithful_bool.decode_encode, faithful_string.list.decode_encode]

end CloudOrchestration
