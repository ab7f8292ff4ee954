import CloudOrchestration.Document.CloudService
import CloudOrchestration.Proofs.Document.Roles
/-!
# Deployments and cloud services are read back

The document of a deployment does not say through which cloud service it was
found. So a deployment is read back if none is noted, which is how deployments
are read (`Deployment.survives_of_decode`); the same goes for the cloud
services that hold them.
-/

namespace CloudOrchestration

open Document

attribute [local simp] fields?_object find?_membersOf_nil Members.required_eq
  Members.defaulted_eq Members.optional_eq

theorem NewDeployment.faithful : Faithful NewDeployment 7 where
  writable d := by
    refine writable_object ?_
    simpa using Role.faithful.list.member (Nat.le_refl _)
  decode_encode d := by
    unfold instDocumentNewDeployment
    simp [Role.faithful.list.decode_encode]

/-! ## Deployments -/

namespace Deployment

/-- **A deployment of which no cloud service is noted is read back.** -/
theorem survives {d : Deployment} (hservice : d.service = none) : Survives 7 d where
  writable := by
    refine writable_object ?_
    simpa using ⟨RoleInstance.faithful.list.member (by decide),
      Role.faithful.list.member (Nat.le_refl _)⟩
  decode_encode := by
    obtain ⟨name, slot, status, instances, roles, network, service⟩ := d
    cases hservice
    unfold Deployment.instDocument
    simp [RoleInstance.faithful.list.decode_encode, Role.faithful.list.decode_encode]

/-- None is noted of a deployment that was read. -/
theorem service_of_decode {v : Json} {d : Deployment} (h : decode v = some d) :
    d.service = none := by
  unfold Deployment.instDocument at h
  simp only [Option.bind_eq_bind, Option.bind_eq_some_iff, Option.pure_def,
    Option.some.injEq] at h
  obtain ⟨_, _, _, _, _, _, _, _, _, _, _, _, _, _, rfl⟩ := h
  rfl

theorem survives_of_decode {v : Json} {d : Deployment} (h : decode v = some d) : Survives 7 d :=
  survives (service_of_decode h)

end Deployment

/-! ## Cloud services -/

namespace CloudService

theorem Properties.faithful : Faithful CloudService.Properties 1 where
  writable p := writable_object (by simp)
  decode_encode p := by
    unfold instDocumentProperties
    simp

/-- A cloud service is read back if its deployments are. -/
theorem survives {s : CloudService} (h : ∀ d ∈ s.deployments, d.service = none) :
    Survives 9 s := by
  have hdeployments : Survives 8 s.deployments :=
    survives_list fun d hd => Deployment.survives (h d hd)
  refine ⟨writable_object ?_, ?_⟩
  · simpa using ⟨Properties.faithful.member (by decide), hdeployments.member (Nat.le_refl _)⟩
  · unfold CloudService.instDocument
    simp [Properties.faithful.decode_encode, hdeployments.decode_encode]

/-- None of the deployments of a cloud service that was read notes one. -/
theorem service_of_decode {v : Json} {s : CloudService} (h : decode v = some s) {d : Deployment}
    (hd : d ∈ s.deployments) : d.service = none := by
  unfold CloudService.instDocument at h
  simp only [Option.bind_eq_bind, Option.bind_eq_some_iff, Option.pure_def,
    Option.some.injEq] at h
  obtain ⟨ms, -, name, -, properties, -, deployments, hdeployments, rfl⟩ := h
  obtain rfl | ⟨w, hw⟩ := exists_decode_of_defaulted hdeployments
  · cases hd
  · obtain ⟨w, hw⟩ := exists_decode_of_mem hw hd
    exact Deployment.service_of_decode hw

theorem survives_of_decode {v : Json} {s : CloudService} (h : decode v = some s) :
    Survives 9 s := survives fun _ => service_of_decode h

end CloudService

/-- **A listing of cloud services is read back**, down to the deployments that
were read with it. -/
theorem CloudServices.survives_of_decode {v : Json} {services : CloudServices}
    (h : decode v = some services) : Survives 11 services := by
  refine survives_listing fun s hs => ?_
  obtain ⟨w, hw⟩ := exists_decode_of_mem_listing h hs
  exact CloudService.survives_of_decode hw

end CloudOrchestration
