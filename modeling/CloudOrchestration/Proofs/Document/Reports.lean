import CloudOrchestration.Action
import CloudOrchestration.Document.Machine
import CloudOrchestration.Document.OperationReport
import CloudOrchestration.Proofs.Document.Parts
import CloudOrchestration.Settings.Basic
/-!
# Reports and settings are read back

What the provider says about changes, what calls answer, and the settings of a
client are faithful documents.
-/

namespace CloudOrchestration

open Document

attribute [local simp] fields?_object find?_membersOf_nil Members.required_eq
  Members.defaulted_eq Members.optional_eq

/-! ## Reports -/

theorem Rejection.faithful : Faithful Rejection 1 where
  writable r := writable_object (by simp)
  decode_encode r := by
    unfold Rejection.instDocument
    simp

theorem neverNull_rejection : NeverNull Rejection := fun _ => (nomatch ·)

theorem OperationState.faithful : Faithful OperationState 0 where
  writable s := .str s.text
  decode_encode s := by
    unfold OperationState.instDocument
    simp [variant?]

theorem OperationReport.faithful : Faithful OperationReport 2 where
  writable r := by
    refine writable_object ?_
    simpa using ⟨OperationState.faithful.member (Nat.zero_le _),
      (faithful_uint16.option neverNull_uint16).member (Nat.zero_le _),
      (Rejection.faithful.option neverNull_rejection).member (Nat.le_refl _)⟩
  decode_encode r := by
    unfold OperationReport.instDocument
    simp [OperationState.faithful.decode_encode,
      (faithful_uint16.option neverNull_uint16).decode_encode,
      (Rejection.faithful.option neverNull_rejection).decode_encode]

theorem Action.faithful : Faithful Action 0 where
  writable a := .str a.name
  decode_encode a := by
    unfold Action.instDocument
    simp [variant?]

theorem Machine.faithful : Faithful Machine 1 where
  writable m := writable_object (by simp)
  decode_encode m := by
    unfold instDocumentMachine
    simp

/-! ## Settings -/

theorem Cadence.faithful : Faithful Cadence 1 where
  writable c := by
    refine writable_object ?_
    simpa using ⟨faithful_uint64.member (Nat.zero_le _), faithful_uint32.member (Nat.zero_le _),
      faithful_uint64.member (Nat.zero_le _), faithful_uint64.member (Nat.zero_le _)⟩
  decode_encode c := by
    -- one by one, for a check of the whole computes with the bounds of the numbers
    obtain ⟨ms, hms⟩ : ∃ ms, ms = membersOf [member "interval_ms" c.interval,
      member "get_attempts" c.attempts, member "boot_headroom_ms" c.headroom,
      member "request_timeout_ms" c.requestTimeout] := ⟨_, rfl⟩
    have hencode : encode c = .obj ms := by rw [hms]; rfl
    have hinterval : ∀ fallback, ms.defaulted "interval_ms" fallback = some c.interval :=
      fun _ => faithful_uint64.defaulted (by simp [hms])
    have hattempts : ∀ fallback, ms.defaulted "get_attempts" fallback = some c.attempts :=
      fun _ => faithful_uint32.defaulted (by simp [hms])
    have hheadroom : ∀ fallback, ms.defaulted "boot_headroom_ms" fallback = some c.headroom :=
      fun _ => faithful_uint64.defaulted (by simp [hms])
    have htimeout : ∀ fallback,
        ms.defaulted "request_timeout_ms" fallback = some c.requestTimeout :=
      fun _ => faithful_uint64.defaulted (by simp [hms])
    rw [hencode]
    unfold Cadence.instDocument
    simp only [Json.fields?_obj, hinterval, hattempts, hheadroom, htimeout, Option.bind_eq_bind,
      Option.bind_some, Option.pure_def]

theorem Settings.faithful : Faithful Settings 2 where
  writable s := by
    refine writable_object ?_
    simpa using Cadence.faithful.member (Nat.le_refl _)
  decode_encode s := by
    obtain ⟨ms, hms⟩ : ∃ ms, ms = membersOf [member "subscription_id" s.subscription,
      member "endpoint" s.endpoint, member "api_version" s.apiVersion,
      member "certificate_pem" s.certificate, member "private_key_pem" s.privateKey,
      member "affinity_prefix" s.affinityPrefix, member "cloud_service_prefix" s.servicePrefix,
      member "storage_prefix" s.storagePrefix, member "virtual_network" s.network,
      member "poll" s.cadence] := ⟨_, rfl⟩
    have hencode : encode s = .obj ms := by rw [hms]; rfl
    have hcadence : ∀ fallback, ms.defaulted "poll" fallback = some s.cadence :=
      fun _ => Cadence.faithful.defaulted (by simp [hms])
    rw [hencode]
    unfold Settings.instDocument
    simp only [Json.fields?_obj, Option.bind_eq_bind, Option.bind_some, hcadence]
    simp [hms]

end CloudOrchestration
