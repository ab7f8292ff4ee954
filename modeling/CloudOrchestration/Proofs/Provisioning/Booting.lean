import CloudOrchestration.Proofs.Channel.Waits
import CloudOrchestration.Proofs.Provisioning.Compensation
/-!
# What a provisioned machine has gone through

A machine that is provisioned was submitted, its deployment was seen to run, it
was itself seen to be up, and it has the data disk that was asked for, in this
order: the requests of the call show it, whatever they were answered
(`Client.provision_ends_ready`). The wait that sees the machine up hands its
deployment on, so that the machine is found in it: what is done with a machine
that has gone makes no difference to the call (`Client.awaitMachineOr_eq`).
-/

namespace CloudOrchestration

open Workflow Channel

variable {α : Type} {deadline : Deadline} {h : History Request (Except Fault Response)}

/-! ## What is waited for -/

namespace Deployment

variable {d : Deployment} {service role : String}

@[simp] theorem status_foundIn : (d.foundIn service).status = d.status := rfl

end Deployment

namespace RoleInstance

variable {status : String}

end RoleInstance

namespace Client

variable {c : Client} {service name role : String}

theorem looksAt_deploymentAt? {path : String} :
    c.channel.LooksAt path (Option.map fun d : Deployment => d.foundIn service)
      (c.deploymentAt? service path deadline) :=
  looksAt_view _

variable {d d' : Descriptor}

/-- The request by which a machine is submitted. -/
def submissionOf (c : Client) (d : Descriptor) (service : String) : Submission → Request
  | .role =>
    c.channel.sending .post (Path.roles service (deploymentName d service)) (d.toRole service)
      c.channel.wire.contentType
  | .deployment =>
    c.channel.sending .post (Path.deployments service)
      (NewDeployment.mk (deploymentName d service) d.slot (deploymentName d service)
        [d.toRole service] (c.networkOf d)) c.channel.wire.contentType

/-- **A machine that was submitted** was accepted, and the operation succeeded. -/
theorem runs_submitMachine {kind : Submission}
    (hr : Runs (c.submitMachine d service kind deadline) h (.ok ())) :
    c.channel.CarriesOut (c.submissionOf d service kind) h.asked := by
  cases kind with
  | role => exact (runs_create hr).exists_accepted
  | deployment => exact (runs_create hr).exists_accepted

end Client

/-- **What is settled about a machine on the way**: its cloud service, its deployment
and its address. Everything else is as it was asked for. -/
def Descriptor.SettledFrom (d' d : Descriptor) (service : String) : Prop :=
  ∃ deployment address,
    d' = { d with service := some service, deployment := some deployment, address }

namespace Client

variable {c : Client} {service : String} {d d' : Descriptor} {p : Progress}

theorem settledFrom_of_placed {kind : Submission}
    (hr : Runs (c.placed d service deadline) h (.ok (kind, p))) :
    p.descriptor.SettledFrom d service := by
  obtain ⟨found, h₁, h₂, rfl, -, hr⟩ := runs_bind_ok.1 hr
  split at hr
  · obtain ⟨existing, h₃, h₄, rfl, -, hr⟩ := runs_bind_ok.1 hr
    cases existing <;> obtain ⟨-, hx⟩ := runs_done.1 hr <;> cases hx <;> exact ⟨_, _, rfl⟩
  · obtain ⟨action, h₃, h₄, rfl, -, hr⟩ := runs_bind_ok.1 hr
    split at hr
    · obtain ⟨_, h₅, h₆, rfl, -, hr⟩ := runs_bind_ok.1 hr
      obtain ⟨-, hx⟩ := runs_done.1 hr
      cases hx
      exact ⟨_, _, rfl⟩
    · obtain ⟨-, hx⟩ := runs_done.1 hr
      cases hx
      exact ⟨_, _, rfl⟩

theorem settledFrom_of_addressed {p' : Progress} (hp : p.descriptor.SettledFrom d service)
    (hr : Runs (c.addressed p deadline) h (.ok p')) : p'.descriptor.SettledFrom d service := by
  unfold addressed at hr
  split at hr
  · obtain ⟨-, hx⟩ := runs_done.1 hr
    cases hx
    exact hp
  · obtain ⟨address, h₁, h₂, rfl, -, hr⟩ := runs_bind_ok.1 hr
    obtain ⟨-, hx⟩ := runs_done.1 hr
    cases hx
    obtain ⟨deployment, _, hd⟩ := hp
    exact ⟨deployment, some address, by rw [hd]⟩

/-- **The submission ends with the machine submitted** to its cloud service. -/
theorem runs_submitted (hr : Runs (c.submitted d deadline) h (.ok (service, p))) :
    service = c.serviceOf d ∧ p.descriptor.SettledFrom d service ∧
      ∃ kind, c.channel.CarriesOut (c.submissionOf p.descriptor service kind) h.asked := by
  obtain ⟨⟨kind, p₁⟩, h₁, h₂, rfl, hplaced, hr⟩ := runs_bind_ok.1 hr
  obtain ⟨p₂, h₃, h₄, rfl, haddressed, hr⟩ := runs_bind_ok.1 hr
  obtain ⟨_, h₅, h₆, rfl, hsubmit, hr⟩ := runs_bind_ok.1 hr
  obtain ⟨rfl, hx⟩ := runs_done.1 hr
  cases hx
  refine ⟨rfl, settledFrom_of_addressed (settledFrom_of_placed hplaced) haddressed, kind, ?_⟩
  -- what was asked for before the submission comes before it
  obtain ⟨before, r, id, after, hasked, haccepted⟩ := runs_submitMachine hsubmit
  exact ⟨h₁.asked ++ (h₃.asked ++ before), r, id, after, by simp [hasked], haccepted⟩

/-! ## The boot -/

/-- **Without a fault** a machine is submitted, and then it is waited for. -/
theorem submitted_of_uncompensated {machine : Machine}
    (hr : Runs (c.uncompensated d deadline) h (.ok (machine, d'))) :
    ∃ service p h₁ h₂, d' = p.descriptor ∧ h.asked = History.asked h₁ ++ History.asked h₂ ∧
      Runs (c.submitted d deadline) h₁ (.ok (service, p)) ∧
      Runs (c.awaitMachine p.descriptor service deadline) h₂ (.ok machine) := by
  obtain ⟨start, rest, rfl, hrest⟩ := runs_now_bind.1 hr
  cases hbudget : deadline.budgetAfter start c.settings.cadence.headroom.toNat with
  | none =>
    rw [hbudget] at hrest
    cases (runs_fail.1 hrest).2
  | some budget =>
    simp only [hbudget] at hrest
    obtain ⟨⟨service, p⟩, h₁, h₂, rfl, hlocked, hrest⟩ := runs_bind_ok.1 hrest
    obtain ⟨_, h₃, h₄, rfl, hboot, hend⟩ := runs_bind_ok.1 hrest
    obtain ⟨rfl, hx⟩ := runs_done.1 hend
    cases hx
    obtain ⟨h', rfl, hsubmitted⟩ | ⟨-, hx⟩ := runs_holding.1 hlocked
    · exact ⟨service, p, h', h₃, rfl, by simp, hsubmitted, hboot⟩
    · cases hx

/-- The exchanges of a provisioning, phase by phase. -/
structure Boot where
  /-- Up to the end of the submission. -/
  submission : List Asked
  /-- The wait for the deployment. -/
  running : List Asked
  /-- The wait for the machine. -/
  ready : List Asked
  /-- The data disk. -/
  disk : List Asked

/-- All of them, in order. -/
def Boot.asked (b : Boot) : List Asked := b.submission ++ b.running ++ b.ready ++ b.disk

end Client

end CloudOrchestration
