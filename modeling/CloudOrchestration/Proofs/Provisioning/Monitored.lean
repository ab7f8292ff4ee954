import CloudOrchestration.Proofs.Provisioning.Compensation
import CloudOrchestration.Proofs.Workflow.Monitor
/-!
# Provisioning under a monitor

What a monitor makes of provisioning follows from what it makes of the three
parts: the submission under the lock, the machine that boots, and the deletion
of the service that was made. The parts meet in one state, that after the
submission; a service can only have been made where it was reached.
-/

namespace CloudOrchestration

open Workflow

variable {S : Type} {m : Monitor S Request (Except Fault Response)} {s₀ s₁ : S} {P : S → Prop}
variable {c : Client} {d : Descriptor} {deadline : Deadline}

namespace Client

/-- Up to a fault that is compensated. -/
theorem obeys_attempted (hstart : P s₀) (hmiddle : P s₁)
    (hsubmit : ∀ budget,
      Obeys m s₀ (holding .general budget ((c.resolveAndSubmit deadline).start d)) fun o s =>
        (∀ x, o = .ok x → s = s₁) ∧ P s)
    (hmachine : ∀ d service,
      Obeys m s₁ (c.awaitMachine d service deadline) fun _ s => s = s₁) :
    Obeys m s₀ (c.attempted d deadline) fun o s =>
      P s ∧ ∀ r p, o = .ok (r, p) → p.created = none ∨ s = s₁ := by
  refine obeys_now_bind fun start => ?_
  split
  · refine obeys_done ⟨hstart, ?_⟩
    rintro _ _ hx
    cases hx
    exact .inl rfl
  · refine obeys_attempt_bind (hsubmit _) fun x s ⟨hs, hp⟩ => ?_
    obtain fault | ⟨fault | service, progress⟩ := x
    · refine obeys_done ⟨hp, ?_⟩
      rintro _ _ hx
      cases hx
      exact .inl rfl
    · exact obeys_done ⟨hp, fun _ _ _ => .inr (hs _ rfl)⟩
    · rw [hs _ rfl]
      refine obeys_attempt_bind (hmachine _ _) fun r s hs => obeys_done ?_
      subst hs
      exact ⟨hmiddle, fun _ _ _ => .inr rfl⟩

/-- **Provisioning obeys a monitor** if its three parts do. -/
theorem obeys_provision_of (hstart : P s₀) (hmiddle : P s₁)
    (hsubmit : ∀ budget,
      Obeys m s₀ (holding .general budget ((c.resolveAndSubmit deadline).start d)) fun o s =>
        (∀ x, o = .ok x → s = s₁) ∧ P s)
    (hmachine : ∀ d service,
      Obeys m s₁ (c.awaitMachine d service deadline) fun _ s => s = s₁)
    (hdelete : Obeys m s₁ (c.deleteCloudService (c.serviceOf d) deadline) fun _ s => P s) :
    Obeys m s₀ (c.provision d deadline) fun _ s => P s := by
  rw [provision_eq]
  refine obeys_bind (obeys_attempted hstart hmiddle hsubmit hmachine).and_runs ?_
    fun _ _ ⟨⟨hp, _⟩, _⟩ => hp
  rintro ⟨r, p⟩ s ⟨⟨hp, hs⟩, h, hr⟩
  obtain ⟨_, _, ok, hx, htells, -⟩ := runs_attempted hr
  cases hx
  cases r with
  | ok machine => exact obeys_done hp
  | error fault =>
    refine obeys_bind (P := fun _ s => P s) ?_ (fun _ _ hp => obeys_done hp) fun _ _ hp => hp
    cases hcreated : p.created with
    | none => exact obeys_done hp
    | some name =>
      rw [hcreated] at htells
      obtain ⟨rfl, -⟩ := htells.made_of_some
      -- the service was made, so the submission was reached
      rw [(hs _ _ rfl).resolve_left (by simp [hcreated])]
      exact obeys_regardless hdelete

end Client

end CloudOrchestration
