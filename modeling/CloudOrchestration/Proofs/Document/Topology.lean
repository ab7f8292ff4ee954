import CloudOrchestration.Document.Topology
import CloudOrchestration.Proofs.Document.Parts
/-!
# The topology is read back

Every part of the topology is a faithful document, and so is the whole. It is
written for whoever edits it next, so an edit of what was read is an edit of
what was written (`Topology.faithful`).
-/

namespace CloudOrchestration

open Document

attribute [local simp] fields?_object find?_membersOf_nil Members.required_eq
  Members.defaulted_eq Members.optional_eq

theorem DnsServer.faithful : Faithful DnsServer 1 where
  writable s := writable_object (by simp)
  decode_encode s := by
    unfold instDocumentDnsServer
    simp

theorem AddressSpace.faithful : Faithful AddressSpace 2 := faithful_string.listing

theorem LocalSite.faithful : Faithful LocalSite 3 where
  writable s := by
    refine writable_object ?_
    simpa using AddressSpace.faithful.member (Nat.le_refl _)
  decode_encode s := by
    unfold instDocumentLocalSite
    simp [AddressSpace.faithful.decode_encode]

theorem Subnet.faithful : Faithful Subnet 1 where
  writable s := writable_object (by simp)
  decode_encode s := by
    unfold instDocumentSubnet
    simp

theorem Reference.faithful : Faithful Reference 1 where
  writable r := writable_object (by simp)
  decode_encode r := by
    unfold instDocumentReference
    simp

theorem Gateway.faithful : Faithful Gateway 3 := Reference.faithful.listing

/-- A gateway is written as an object. -/
theorem neverNull_gateway : NeverNull Gateway := fun _ => (nomatch ·)

theorem Site.faithful : Faithful Site 4 where
  writable s := by
    refine writable_object ?_
    simpa using ⟨AddressSpace.faithful.member (by decide), Subnet.faithful.list.member (by decide),
      Reference.faithful.list.member (by decide), Gateway.faithful.memberIfSome (by decide)⟩
  decode_encode s := by
    unfold Site.instDocument
    simp [AddressSpace.faithful.decode_encode, Subnet.faithful.list.decode_encode,
      Reference.faithful.list.decode_encode, Gateway.faithful.elim neverNull_gateway]

/-- **The topology is read back.** -/
theorem Topology.faithful : Faithful Topology 6 where
  writable t := by
    refine writable_object ?_
    simpa using ⟨DnsServer.faithful.listing.member (by decide),
      LocalSite.faithful.list.member (by decide), Site.faithful.list.member (by decide)⟩
  decode_encode t := by
    unfold Topology.instDocument
    simp [DnsServer.faithful.listing.decode_encode, LocalSite.faithful.list.decode_encode,
      Site.faithful.list.decode_encode]

/-- The topology is read from the bytes that were written for it. -/
theorem Topology.json_read_toBytes (t : Topology) : Wire.json.read (encode t).toBytes = .ok t :=
  (Topology.faithful.survives t).json_read (by decide)

end CloudOrchestration
