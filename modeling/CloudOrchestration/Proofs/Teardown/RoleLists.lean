import CloudOrchestration.Proofs.Document.Deployments
import CloudOrchestration.Proofs.Provisioning.Submission
/-!
# The roles of deployments

A provider keeps the names of the roles of every deployment. A machine that is
submitted adds a role to them, and what is deleted takes some of them away, at
the moment the request is accepted (`KeepsRoles`). So a role is one of a
deployment just if it was there at first or was added by a request, and none
that was accepted since has taken it away (`KeepsRoles.mem_roles_iff`).
-/

namespace CloudOrchestration

open Workflow Channel Schedule

/-! ## What a request does to a deployment -/

namespace Request

/-- The roles that a request adds to a deployment: the one that it submits, or
those of the new deployment of that name. -/
def rolesPut (wire : Wire) (service deployment : String) (q : Request) : List String :=
  match q.method, q.body with
  | .post, some body =>
    if q.path = Path.roles service deployment then
      match (wire.read body : Except Fault Role) with
      | .ok role => [role.name]
      | .error _ => []
    else if q.path = Path.deployments service then
      match (wire.read body : Except Fault NewDeployment) with
      | .ok d => if d.name = deployment then d.roles.map (·.name) else []
      | .error _ => []
    else []
  | _, _ => []

/-- Whether a request takes a role away: it deletes the role, its deployment or
the cloud service. -/
def takesRole (service deployment role : String) (q : Request) : Bool :=
  q.method = .delete &&
    (q.path = Path.role service deployment role || q.path = Path.deployment service deployment ||
      q.path = Path.cloudService service)

/-- The roles of a deployment once a request has been accepted. -/
def reshape (wire : Wire) (service deployment : String) (q : Request) (roles : List String) :
    List String :=
  roles.filter (fun role => !q.takesRole service deployment role) ++
    q.rolesPut wire service deployment

variable {wire : Wire} {service deployment role : String} {q : Request}

/-- Only a machine that is submitted adds a role. -/
theorem submitsMachine_of_mem_rolesPut (h : role ∈ q.rolesPut wire service deployment) :
    q.SubmitsMachine := by
  unfold rolesPut at h
  split at h
  next hmethod _ =>
    refine ⟨hmethod, service, ?_⟩
    split at h
    next hroles => exact .inr ⟨deployment, hroles⟩
    next =>
      split at h
      next hdeployments => exact .inl hdeployments
      next => cases h
  next => cases h

end Request

/-- **A machine is submitted under its own name**, to the deployment that was
settled for it. -/
theorem Client.rolesPut_submissionOf {c : Client} (hwire : c.wire = .json) (d : Descriptor)
    (service : String) (kind : Submission) :
    (c.submissionOf d service kind).rolesPut .json service (deploymentName d service) =
      [d.role] := by
  have hwrites : ∀ {α : Type} [Document α] (a : α),
      c.channel.wire.write a = .ok (encode a).toBytes := fun a => by
    show c.wire.write a = _
    rw [hwire]
    rfl
  cases kind with
  | role =>
    have hread := (Role.faithful.survives (d.toRole service)).json_read (by decide)
    simp only [submissionOf, Channel.sending, hwrites, Except.toOption, Request.rolesPut, if_true,
      hread]
    rfl
  | deployment =>
    have hread := fun n => (NewDeployment.faithful.survives n).json_read (by decide)
    simp only [submissionOf, Channel.sending, hwrites, Except.toOption, Request.rolesPut,
      Path.roles_ne_deployments.symm, if_true, if_false, hread]
    rfl

/-! ## Requests that are accepted -/

section

variable {σ Q R : Type} {server : Server σ Q R} {accepts : σ → Q → Bool}

/-- The request of a sight, if it is accepted. -/
def Sight.acceptedBy? (accepts : σ → Q → Bool) (s : σ) : Sight Q R → Option Q
  | asked q _ => if accepts s q then some q else none
  | acquired _ | refused _ | released _ => none

/-- The requests of a row that are accepted, in their order. -/
def acceptedRequests (server : Server σ Q R) (accepts : σ → Q → Bool) :
    σ → List (Nat × Sight Q R) → List Q
  | _, [] => []
  | s, x :: rest =>
    (x.2.acceptedBy? accepts s).toList ++ acceptedRequests server accepts (x.2.serve server s) rest

theorem acceptedRequests_append {s : σ} (l l' : List (Nat × Sight Q R)) :
    acceptedRequests server accepts s (l ++ l') =
      acceptedRequests server accepts s l ++
        acceptedRequests server accepts (serverAfter server s l) l' := by
  induction l generalizing s with
  | nil => rfl
  | cons x l ih =>
    rw [List.cons_append, acceptedRequests, acceptedRequests, ih, List.append_assoc]
    rfl

end

/-! ## A provider that keeps role lists -/

/-- **A provider that keeps the roles of deployments.** Nothing but the requests
that it accepts changes them; what else it answers, and when, is left open. -/
structure KeepsRoles {σ : Type} (wire : Wire) (server : Server σ Request (Except Fault Response))
    (roles : σ → String → String → List String) (accepts : σ → Request → Bool) : Prop where
  /-- Of the deployments of a cloud service it shows the roles that they have. -/
  shown {s : σ} {name : String} {r : Response} {found : CloudService}
    (hr : (server s (.read (Path.cloudServiceDetail name))).answer = .ok r)
    (hsuccess : r.isSuccess) (hread : wire.read r.body = .ok found) :
    ∀ d ∈ found.deployments, d.roles.map (·.name) = roles s found.name d.name
  /-- What it accepts takes effect at once. -/
  applied {s : σ} {q : Request} (haccepts : accepts s q) (service deployment : String) :
    roles (server s q).server service deployment =
      q.reshape wire service deployment (roles s service deployment)
  /-- What it does not accept changes nothing. -/
  kept {s : σ} {q : Request} (haccepts : accepts s q = false) :
    roles (server s q).server = roles s

/-- **A role that is put and stays**: a request that follows a row of sights adds
it, and nothing that is accepted in the row after the request takes it away. -/
structure Placed {σ : Type} (wire : Wire) (server : Server σ Request (Except Fault Response))
    (accepts : σ → Request → Bool) (s : σ) (service deployment role : String)
    (before : List (Nat × Sight Request (Except Fault Response))) (q : Request)
    (after : List (Nat × Sight Request (Except Fault Response))) : Prop where
  accepted : accepts (serverAfter server s before) q
  puts : role ∈ q.rolesPut wire service deployment
  stays : ∀ q' ∈ acceptedRequests server accepts (server (serverAfter server s before) q).server
    after, q'.takesRole service deployment role = false

namespace KeepsRoles

variable {σ : Type} {wire : Wire} {server : Server σ Request (Except Fault Response)}
variable {roles : σ → String → String → List String} {accepts : σ → Request → Bool} {s : σ}
variable {service deployment role : String}

theorem placed_append {l before after : List (Nat × Sight Request (Except Fault Response))}
    {q : Request}
    (h : Placed wire server accepts (serverAfter server s l) service deployment role before q
      after) : Placed wire server accepts s service deployment role (l ++ before) q after where
  accepted := by
    rw [serverAfter_append]
    exact h.accepted
  puts := h.puts
  stays := by
    rw [serverAfter_append]
    exact h.stays

/-- A read changes nothing, whether it counts as accepted or not. -/
theorem roles_read (hkeeps : KeepsRoles wire server roles accepts)
    (path service deployment : String) :
    roles (server s (.read path)).server service deployment = roles s service deployment := by
  cases haccepts : accepts s (.read path) with
  | true =>
    rw [hkeeps.applied haccepts]
    simp [Request.reshape, Request.takesRole, Request.rolesPut, Request.read]
  | false => rw [hkeeps.kept haccepts]

/-- What one sight does to the roles of a deployment. -/
theorem mem_roles_serve (hkeeps : KeepsRoles wire server roles accepts)
    {x : Sight Request (Except Fault Response)} :
    role ∈ roles (x.serve server s) service deployment ↔
      (role ∈ roles s service deployment ∧
        ∀ q ∈ (x.acceptedBy? accepts s).toList, q.takesRole service deployment role = false) ∨
      ∃ q ∈ (x.acceptedBy? accepts s).toList, role ∈ q.rolesPut wire service deployment := by
  cases x with
  | asked q r =>
    cases haccepts : accepts s q with
    | true =>
      rw [Sight.serve, hkeeps.applied haccepts]
      simp [Sight.acceptedBy?, haccepts, Request.reshape]
    | false =>
      rw [Sight.serve, hkeeps.kept haccepts]
      simp [Sight.acceptedBy?, haccepts]
  | acquired | refused | released => simp [Sight.serve, Sight.acceptedBy?]

/-- **Which roles a deployment has after a row of sights.** -/
theorem mem_roles_iff (hkeeps : KeepsRoles wire server roles accepts)
    {l : List (Nat × Sight Request (Except Fault Response))} :
    role ∈ roles (serverAfter server s l) service deployment ↔
      (role ∈ roles s service deployment ∧
        ∀ q ∈ acceptedRequests server accepts s l, q.takesRole service deployment role = false) ∨
      ∃ before j q r after, l = before ++ (j, .asked q r) :: after ∧
        Placed wire server accepts s service deployment role before q after := by
  induction l generalizing s with
  | nil => simp [serverAfter, acceptedRequests]
  | cons x l ih =>
    have hafter : serverAfter server s (x :: l) = serverAfter server (x.2.serve server s) l := rfl
    rw [hafter, ih, hkeeps.mem_roles_serve, acceptedRequests, List.forall_mem_append]
    constructor
    · rintro (⟨⟨hmem, hfirst⟩ | ⟨q, hq, hputs⟩, hstays⟩ | ⟨before, j, q, r, after, rfl, hplaced⟩)
      · exact .inl ⟨hmem, hfirst, hstays⟩
      · -- the first sight adds it
        obtain ⟨j, x⟩ := x
        cases x with
        | asked q' r =>
          simp only [Sight.acceptedBy?, Option.mem_toList, Option.ite_none_right_eq_some,
            Option.some.injEq] at hq
          obtain ⟨haccepts, rfl⟩ := hq
          exact .inr ⟨[], j, q', r, l, rfl, haccepts, hputs, hstays⟩
        | acquired | refused | released => cases hq
      · exact .inr ⟨x :: before, j, q, r, after, rfl, hplaced.accepted, hplaced.puts,
          hplaced.stays⟩
    · rintro (⟨hmem, hfirst, hstays⟩ | ⟨before, j, q, r, after, hl, hplaced⟩)
      · exact .inl ⟨.inl ⟨hmem, hfirst⟩, hstays⟩
      · cases before with
        | nil =>
          cases hl
          have haccepts : accepts s q := hplaced.accepted
          exact .inl ⟨.inr ⟨q, by simp [Sight.acceptedBy?, haccepts], hplaced.puts⟩,
            hplaced.stays⟩
        | cons y before =>
          cases hl
          exact .inr ⟨before, j, q, r, after, rfl, hplaced.accepted, hplaced.puts, hplaced.stays⟩

end KeepsRoles

end CloudOrchestration
