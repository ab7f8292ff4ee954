import CloudOrchestration.Proofs.Provisioning.Saga
/-!
# Submitting a machine, plainly

What the saga of a machine does, written as a plain call: each step follows
the one before, and the first fault ends the whole. That the saga read strictly
is this call is shown step by step (`strictly_resolveAndSubmit`).
-/

namespace CloudOrchestration

open Workflow

namespace Client

open Saga

/-- Settle where a machine goes. -/
def placed (c : Client) (d : Descriptor) (service : String) (deadline : Deadline) :
    Call (Submission × Progress) := do
  let settled (deployment : String) (created : Option String) : Progress :=
    { descriptor := { d with deployment := some deployment, service := some service }, created }
  let found ← c.cloudService? service false deadline
  if found.isSome then
    match ← c.deploymentInSlot? service d.slot deadline with
    | some existing => return (.role, settled existing.name none)
    | none => return (.deployment, settled service none)
  else
    let action ← c.submitCloudService d.affinityGroup service deadline
    if action = .create then
      c.awaitCreated service deadline
      return (.deployment, settled service (some service))
    else return (.deployment, settled service none)

/-- Settle the address of a machine, if it is to have one of some. -/
def addressed (c : Client) (p : Progress) (deadline : Deadline) : Call Progress :=
  if p.descriptor.candidates.isEmpty then pure p
  else do
    let address ← c.reserveAddress p.descriptor deadline
    pure { p with descriptor := { p.descriptor with address := some address } }

/-- **Settle where a machine goes and submit it.** -/
def submitted (c : Client) (d : Descriptor) (deadline : Deadline) : Call (String × Progress) := do
  let service := c.serviceOf d
  let (submission, placed) ← c.placed d service deadline
  let p ← c.addressed placed deadline
  c.submitMachine p.descriptor service submission deadline
  return (service, p)

/-! ## The saga, read strictly -/

variable (c : Client) (d : Descriptor) (service : String) (deadline : Deadline)

theorem strictly_place :
    (c.place service deadline).strictly { descriptor := d } = c.placed d service deadline := by
  simp only [place, placed, strictly_bind, strictly_descriptor, strictly_step, done_bind,
    bind_assoc, bind_eq]
  congr 1
  funext found
  cases found with
  | some _ =>
    simp only [Option.isSome_some, if_true, placeInService, strictly_bind, strictly_step,
      bind_assoc, done_bind]
    congr 1
    funext existing
    cases existing <;> rfl
  | none =>
    simp only [Option.isSome_none, Bool.false_eq_true, if_false, placeInNewService,
      strictly_bind, strictly_step, bind_assoc, done_bind]
    congr 1
    funext action
    by_cases ha : action = .create
    · simp only [ha, if_true, strictly_bind, strictly_note, strictly_step, bind_assoc, done_bind]
      rfl
    · simp only [ha, if_false]
      rfl

/-- **The saga of a machine is the plain call**, but that it keeps its
progress when it fails. -/
theorem strictly_resolveAndSubmit :
    (c.resolveAndSubmit deadline).strictly { descriptor := d } = c.submitted d deadline := by
  simp only [resolveAndSubmit, submitted, strictly_bind, strictly_descriptor, done_bind,
    strictly_place, bind_eq]
  congr 1
  funext x
  obtain ⟨submission, p⟩ := x
  simp only [addressed]
  cases p.descriptor.candidates.isEmpty with
  | true =>
    simp only [if_true, pure_eq, done_bind, strictly_bind, strictly_descriptor, strictly_step,
      bind_assoc]
    rfl
  | false =>
    simp only [Bool.false_eq_true, if_false, bind_eq, pure_eq, done_bind, strictly_bind,
      strictly_descriptor, strictly_step, settle, strictly_note, bind_assoc]
    rfl

end Client

end CloudOrchestration
