import CloudOrchestration.Document.Role
import CloudOrchestration.Proofs.Document.Parts
/-!
# Roles are read back

The description of a machine is a faithful document with all of its parts: its
configurations, which are told apart by one member, its extensions and its
disks. So is the instance that runs it.
-/

namespace CloudOrchestration

open Document

attribute [local simp] fields?_object find?_membersOf_nil Members.required_eq
  Members.defaulted_eq Members.optional_eq

/-! ## Disks -/

theorem SystemDisk.faithful : Faithful SystemDisk 1 where
  writable d := writable_object (by simp)
  decode_encode d := by
    unfold instDocumentSystemDisk
    simp

theorem DataDisk.faithful : Faithful DataDisk 1 where
  writable d := by
    refine writable_object ?_
    simpa using ⟨faithful_uint8.member (Nat.zero_le _), faithful_uint32.memberIfSome (Nat.zero_le _)⟩
  decode_encode d := by
    unfold DataDisk.instDocument
    simp [faithful_uint8.decode_encode, faithful_uint32.elim neverNull_uint32]

/-! ## Configurations -/

theorem Endpoint.faithful : Faithful Endpoint 1 where
  writable e := by
    refine writable_object ?_
    simpa using ⟨faithful_uint16.member (Nat.zero_le _), faithful_uint16.member (Nat.zero_le _)⟩
  decode_encode e := by
    unfold instDocumentEndpoint
    simp only [fields?_object, Option.bind_eq_bind, Option.bind_some]
    -- one by one, for a check of the whole computes with the bound of the ports
    generalize hms : membersOf _ = ms
    have hname : ms.required "Name" = some e.name := faithful_string.required (by simp [← hms])
    have hprotocol : ms.required "Protocol" = some e.protocol :=
      faithful_string.required (by simp [← hms])
    have hport : ms.required "Port" = some e.port := faithful_uint16.required (by simp [← hms])
    have hlocalPort : ms.required "LocalPort" = some e.localPort :=
      faithful_uint16.required (by simp [← hms])
    have hvip : ms.optional "Vip" = some e.vip :=
      faithful_string.optional neverNull_string (by simp [← hms])
    simp only [hname, hprotocol, hport, hlocalPort, hvip, Option.bind_some, Option.pure_def]

/-! Each kind is read back from among the members of a configuration, with the
tag beside its own ones or without it. -/

theorem NetworkConfiguration.writable_entries (c : NetworkConfiguration) :
    ∀ entry ∈ c.entries, WritableEntry 2 entry := by
  simpa [entries] using ⟨Endpoint.faithful.list.member (Nat.le_refl _),
    faithful_string.list.member (by decide)⟩

theorem NetworkConfiguration.read_entries (c : NetworkConfiguration) (tag : Option Json) :
    read (membersOf ((Configuration.kindKey, tag) :: c.entries)) = some c := by
  simp [read, entries, Configuration.kindKey, Endpoint.faithful.list.decode_encode,
    faithful_string.list.decode_encode]

theorem LinuxProvisioning.writable_entries (c : LinuxProvisioning) :
    ∀ entry ∈ c.entries, WritableEntry 0 entry := by
  simpa [entries] using faithful_bool.member (Nat.le_refl _)

theorem LinuxProvisioning.read_entries (c : LinuxProvisioning) (tag : Option Json) :
    read (membersOf ((Configuration.kindKey, tag) :: c.entries)) = some c := by
  simp [read, entries, Configuration.kindKey, faithful_bool.decode_encode]

theorem WindowsProvisioning.writable_entries (c : WindowsProvisioning) :
    ∀ entry ∈ c.entries, WritableEntry 0 entry := by
  simpa [entries] using faithful_bool.member (Nat.le_refl _)

theorem WindowsProvisioning.read_entries (c : WindowsProvisioning) (tag : Option Json) :
    read (membersOf ((Configuration.kindKey, tag) :: c.entries)) = some c := by
  simp [read, entries, Configuration.kindKey, faithful_bool.decode_encode]

theorem DomainJoin.writable_entries (c : DomainJoin) :
    ∀ entry ∈ c.entries, WritableEntry 0 entry := by
  simp [entries]

theorem DomainJoin.read_entries (c : DomainJoin) (tag : Option Json) :
    read (membersOf ((Configuration.kindKey, tag) :: c.entries)) = some c := by
  simp [read, entries, Configuration.kindKey]

theorem NetworkConfiguration.faithful : Faithful NetworkConfiguration 3 :=
  ⟨fun c => writable_object c.writable_entries, fun c => c.read_entries none⟩

theorem LinuxProvisioning.faithful : Faithful LinuxProvisioning 1 :=
  ⟨fun c => writable_object c.writable_entries, fun c => c.read_entries none⟩

theorem WindowsProvisioning.faithful : Faithful WindowsProvisioning 1 :=
  ⟨fun c => writable_object c.writable_entries, fun c => c.read_entries none⟩

theorem DomainJoin.faithful : Faithful DomainJoin 1 :=
  ⟨fun c => writable_object c.writable_entries, fun c => c.read_entries none⟩

/-- **A configuration is read as one of its kind.** -/
theorem Configuration.read_kind (c : Configuration) (tag : Option Json) :
    read c.kind (.object ((kindKey, tag) :: c.entries)) = some c := by
  cases c with
  | network c => exact congrArg (Option.map Configuration.network) (c.read_entries tag)
  | linux c => exact congrArg (Option.map Configuration.linux) (c.read_entries tag)
  | windows c => exact congrArg (Option.map Configuration.windows) (c.read_entries tag)
  | domainJoin c => exact congrArg (Option.map Configuration.domainJoin) (c.read_entries tag)

theorem Configuration.writable_entries (c : Configuration) :
    ∀ entry ∈ c.entries, WritableEntry 2 entry := by
  have hmono : ∀ {entry}, WritableEntry 0 entry → WritableEntry 2 entry :=
    fun h v hv => (h v hv).mono (Nat.zero_le _)
  cases c with
  | network c => exact c.writable_entries
  | linux c => exact fun entry hentry => hmono (c.writable_entries entry hentry)
  | windows c => exact fun entry hentry => hmono (c.writable_entries entry hentry)
  | domainJoin c => exact fun entry hentry => hmono (c.writable_entries entry hentry)

/-- Its tag is no member of its own. -/
theorem Configuration.find?_kindKey (c : Configuration) :
    (membersOf c.entries).find? kindKey = none := by
  cases c <;> simp [entries, kindKey, NetworkConfiguration.entries, LinuxProvisioning.entries,
    WindowsProvisioning.entries, DomainJoin.entries]

theorem Configuration.faithful : Faithful Configuration 3 where
  writable c := writable_object (List.forall_mem_cons.2 ⟨writableEntry_string, c.writable_entries⟩)
  decode_encode c := by
    have hkind : (membersOf (member kindKey c.kind :: c.entries)).find? kindKey =
        some (.str c.kind) := by
      rw [find?_membersOf_cons, c.find?_kindKey]
      rfl
    have htagged : (encode c).tagged? kindKey = some (.str c.kind, encode c) :=
      congrArg (Option.map (·, encode c)) hkind
    show ((encode c).tagged? kindKey).bind (fun x => (decode x.1).bind fun kind => read kind x.2) =
      some c
    rw [htagged]
    exact c.read_kind _

/-! ## Roles -/

theorem Extension.faithful : Faithful Extension 1 where
  writable e := writable_object (by simp)
  decode_encode e := by
    unfold instDocumentExtension
    simp

theorem neverNull_systemDisk : NeverNull SystemDisk := fun _ => (nomatch ·)

theorem Role.faithful : Faithful Role 5 where
  writable r := by
    refine writable_object ?_
    simpa using ⟨Configuration.faithful.list.member (by decide),
      Extension.faithful.list.memberIfSome (by decide), DataDisk.faithful.list.member (by decide),
      SystemDisk.faithful.memberIfSome (by decide)⟩
  decode_encode r := by
    unfold Role.instDocument
    simp [Configuration.faithful.list.decode_encode, Extension.faithful.elim_unless_empty,
      DataDisk.faithful.list.decode_encode, SystemDisk.faithful.elim neverNull_systemDisk]

theorem RoleInstance.faithful : Faithful RoleInstance 1 where
  writable i := writable_object (by simp)
  decode_encode i := by
    unfold RoleInstance.instDocument
    simp

end CloudOrchestration
