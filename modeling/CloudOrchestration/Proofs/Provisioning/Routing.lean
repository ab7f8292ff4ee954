import CloudOrchestration.Proofs.Provisioning.Reservation
import CloudOrchestration.Proofs.Provisioning.Submission
/-!
# Where a machine is submitted

The request that submits a machine can be told from the exchanges before it
(`Client.Routes`): whether it adds to a deployment or makes one, and with it the
address that was reserved. Of these requests one at most is accepted, and a call
without any ends with a fault (`Client.submission_is_routed`).
-/

namespace CloudOrchestration

open Workflow Channel Schedule

/-- A request that asks whether an address is free. -/
def Request.QueriesAddress (q : Request) : Prop :=
  ∃ network address, q = .read (Path.availability network address)

theorem Request.not_queriesAddress_of_method {q : Request} (h : q.method ≠ .get) :
    ¬ q.QueriesAddress := by
  rintro ⟨network, address, rfl⟩
  exact h rfl

theorem not_queriesAddress_hosted {path rest : String}
    (hpath : path = "/services/hostedservices" ++ rest) : ¬ (Request.read path).QueriesAddress := by
  rintro ⟨network, address, heq⟩
  exact Path.hosted_ne_availability network address hpath (congrArg Request.path heq)

theorem not_queriesAddress_operation (id : String) :
    ¬ (Request.read (operationPath id)).QueriesAddress := by
  rintro ⟨network, address, heq⟩
  exact Path.operationPath_ne_availability id network address (congrArg Request.path heq)

noncomputable instance : DecidablePred Request.SubmitsMachine := fun _ => Classical.propDecidable _

/-- The system of a machine is set up for Linux or for Windows. -/
def Configuration.IsProvisioning : Configuration → Prop
  | .linux _ | .windows _ => True
  | .network _ | .domainJoin _ => False

namespace Client

variable {c : Client} {d d' : Descriptor} {service slot : String} {deadline : Deadline}
variable {h : History Request (Except Fault Response)} {asked before after : List Asked}
variable {kind : Submission} {p p' : Progress} {q : Request} {answer : Except Fault Response}

/-! ## The submission -/

/-- **The exchanges before a submission**: the machine was placed, its address was
settled, and the submission was tried before. -/
structure Precedes (c : Client) (d : Descriptor) (deadline : Deadline) (before : List Asked)
    (kind : Submission) (p p' : Progress) (placing addressing tries : List Asked) : Prop where
  eq_append : before = placing ++ (addressing ++ tries)
  placed : ∃ h, History.asked h = placing ∧
    Runs (c.placed d (c.serviceOf d) deadline) h (.ok (kind, p))
  addressed : ∃ h, History.asked h = addressing ∧ Runs (c.addressed p deadline) h (.ok p')
  tried : ∀ x ∈ tries, x.1 = c.submissionOf p'.descriptor (c.serviceOf d) kind ∨
    ∃ id, x.1 = .read (operationPath id)

/-- What was sent to submit a machine had been written. -/
theorem isSome_body_of_submitMachine {o : Except Fault Unit}
    (hr : Runs (c.submitMachine d service kind deadline) h o) {x : Asked} (hx : x ∈ h.asked) :
    (c.submissionOf d service kind).body.isSome := by
  cases kind with
  | role =>
    obtain ⟨body, hbody⟩ := written_of_runs_create hr hx
    simp [submissionOf, sending, hbody, Except.toOption]
  | deployment =>
    obtain ⟨body, hbody⟩ := written_of_runs_create hr hx
    simp [submissionOf, sending, hbody, Except.toOption]

/-- **What comes before a submission**, in the sequence that submits. -/
theorem precedes_of_submitted {o : Except Fault (String × Progress)}
    (hr : Runs (c.submitted d deadline) h o) (hs : h.asked = before ++ (q, answer) :: after)
    (hq : q.SubmitsMachine) :
    ∃ kind p p' placing addressing tries,
      c.Precedes d deadline before kind p p' placing addressing tries ∧
        q = c.submissionOf p'.descriptor (c.serviceOf d) kind ∧ q.body.isSome := by
  obtain hnone | ⟨kind, p, p', placing, addressing, submitting, o', hplaced, haddressed, hsubmit,
    hasked, hearlier⟩ := submitted_parts hr
  · exact absurd hq (hnone (q, answer) (by simp [hs]))
  rw [hasked] at hs
  obtain ⟨l, hl⟩ | ⟨tries, rfl, htries⟩ := append_cons_eq_append hs.symm
  · exact absurd hq (hearlier (q, answer) (by simp [hl]))
  have hmem : (q, answer) ∈ submitting.asked := by simp [htries]
  have hrequest := submits_of_submitMachine hsubmit hmem hq
  refine ⟨kind, p, p', placing.asked, addressing.asked, tries, ?_, hrequest, ?_⟩
  · refine ⟨List.append_assoc .., ⟨placing, rfl, hplaced⟩, ⟨addressing, rfl, haddressed⟩,
      fun x hx => ?_⟩
    exact (performs_of_submitMachine hsubmit).request_eq (by simp [htries, hx])
  · rw [hrequest]
    exact isSome_body_of_submitMachine hsubmit hmem

/-! ## The route -/

/-- **The route of a submission**, and what it holds: as is settled by the exchanges
before it. -/
structure Routes (c : Client) (d : Descriptor) (before : List Asked) (role : Role)
    (q : Request) : Prop where
  /-- The role is that of the machine, but for what is settled on the way. -/
  settled : ∃ d', Descriptor.SettledFrom d' d (c.serviceOf d) ∧ role = d'.toRole (c.serviceOf d)
  written : q.body.isSome
  /-- It adds the role to just the deployment that was found. -/
  beside_iff (name : String) :
    q = c.channel.sending .post (Path.roles (c.serviceOf d) name) role c.channel.wire.contentType ↔
      c.FindsDeployment (c.serviceOf d) d.slot name before
  /-- Otherwise it makes a deployment that is named like the service. -/
  apart (hnone : ∀ name, ¬ c.FindsDeployment (c.serviceOf d) d.slot name before) :
    q = c.channel.sending .post (Path.deployments (c.serviceOf d))
      (NewDeployment.mk (c.serviceOf d) d.slot (c.serviceOf d) [role] (c.networkOf d))
      c.channel.wire.contentType
  /-- If there are addresses to try, one of them was reserved and is in the role, and
  no other was queried before. -/
  addressed (hcandidates : d.candidates ≠ []) :
    ∃ (address : String) (placing reserving tries : List Asked) (network : NetworkConfiguration),
      before = placing ++ (reserving ++ tries) ∧ c.Reserves d address reserving ∧
        (∀ x ∈ placing ++ tries, ¬ x.1.QueriesAddress) ∧ role.network? = some network ∧
        network.staticAddress = some address

/-- The network configuration of a role stands next to its system. -/
theorem network?_toRole (hsystem : d.system.IsProvisioning) :
    (d.toRole service).network? = some d.networkConfiguration := by
  unfold Descriptor.toRole Role.network?
  cases hd : d.system with
  | linux | windows => rfl
  | network | domainJoin =>
    rw [hd] at hsystem
    cases hsystem

/-- A machine without candidates keeps the address that it has; any other gets the
one that was reserved. -/
theorem runs_addressed (hr : Runs (c.addressed p deadline) h (.ok p')) :
    p'.descriptor.deployment = p.descriptor.deployment ∧
      ((p.descriptor.candidates = [] ∧ h.asked = []) ∨
        ∃ address, p'.descriptor.address = some address ∧
          c.Reserves p.descriptor address h.asked) := by
  unfold addressed at hr
  split at hr
  next hnone =>
    obtain ⟨rfl, hx⟩ := runs_done.1 hr
    cases hx
    exact ⟨rfl, .inl ⟨List.isEmpty_iff.1 hnone, rfl⟩⟩
  next =>
    obtain ⟨address, h₁, h₂, rfl, hreserve, hr⟩ := runs_bind_ok.1 hr
    obtain ⟨rfl, hx⟩ := runs_done.1 hr
    cases hx
    exact ⟨rfl, .inr ⟨address, rfl, by simpa using runs_reserveAddress hreserve⟩⟩

/-- What is settled about a machine makes no difference to its address. -/
theorem Reserves.of_settledFrom {address : String}
    (hreserves : c.Reserves d' address asked) (hsettled : d'.SettledFrom d service) :
    c.Reserves d address asked := by
  obtain ⟨_, _, rfl⟩ := hsettled
  exact hreserves

/-- A reservation does not read the slot. -/
theorem Reserves.avoids_slot {address : String} (hreserves : c.Reserves d address asked) :
    ∀ x ∈ asked, x.1 ≠ .read (Path.slot service slot) := by
  intro x hx
  obtain ⟨network, other, heq⟩ | heq := hreserves.request_eq hx
  · rw [heq]
    exact read_ne_slot (Path.hosted_ne_availability network other (Path.slot_eq_below ..))
  · rw [heq]
    have htopology : Path.topology = "/services/networking/" ++ "media" := by decide
    exact read_ne_slot (Path.hosted_ne_networking (Path.slot_eq_below ..) htopology)

/-- Placing a machine queries no address. -/
theorem onlyAsks_placed_unqueried :
    OnlyAsks (fun q => ¬ q.QueriesAddress) (c.placed d service deadline) := by
  have hservice : ∀ rest, "/services/hostedservices/" ++ rest =
      "/services/hostedservices" ++ ("/" ++ rest) := by
    intro rest
    rw [← String.append_assoc]
    rfl
  refine onlyAsks_placing (not_queriesAddress_hosted (hservice service))
    (not_queriesAddress_hosted (Path.slot_eq_below ..))
    (not_queriesAddress_hosted (String.append_empty).symm) (fun q hpost _ => ?_)
    not_queriesAddress_operation
  exact Request.not_queriesAddress_of_method (by simp [hpost])

section Precedes

variable {placing addressing tries : List Asked}

theorem Precedes.settledFrom
    (hbefore : c.Precedes d deadline before kind p p' placing addressing tries) :
    p.descriptor.SettledFrom d (c.serviceOf d) ∧ p'.descriptor.SettledFrom d (c.serviceOf d) := by
  obtain ⟨_, -, hplaced⟩ := hbefore.placed
  obtain ⟨_, -, haddressed⟩ := hbefore.addressed
  have hsettled := settledFrom_of_placed hplaced
  exact ⟨hsettled, settledFrom_of_addressed hsettled haddressed⟩

/-- The tries of a submission read nothing but its operation. -/
theorem Precedes.tried_read
    (hbefore : c.Precedes d deadline before kind p p' placing addressing tries) {x : Asked}
    (hx : x ∈ tries) : x.1.method = .post ∨ ∃ id, x.1 = .read (operationPath id) := by
  obtain heq | hoperation := hbefore.tried x hx
  · rw [heq]
    cases kind <;> exact .inl rfl
  · exact .inr hoperation

/-- **The lookups of a call** are all that it reads of the service and of the slot
before it submits. -/
theorem Precedes.goes
    (hbefore : c.Precedes d deadline before kind p p' placing addressing tries) :
    ∃ name, p'.descriptor.deployment = some name ∧
      c.Goes (c.serviceOf d) d.slot before kind name := by
  obtain ⟨h₁, rfl, hplaced⟩ := hbefore.placed
  obtain ⟨h₂, rfl, haddressed⟩ := hbefore.addressed
  obtain ⟨name, hname, hgoes⟩ := goes_of_placed hplaced
  obtain ⟨hkept, haddress⟩ := runs_addressed haddressed
  refine ⟨name, hkept.trans hname, ?_⟩
  rw [hbefore.eq_append]
  refine hgoes.append (List.forall_mem_append.2 ⟨?_, fun x hx => ?_⟩)
  · obtain ⟨-, hnone⟩ | ⟨_, -, hreserves⟩ := haddress
    · rw [hnone]
      exact fun x hx => nomatch hx
    · exact hreserves.avoids_slot
  · obtain hpost | ⟨id, heq⟩ := hbefore.tried_read hx
    · rintro heq
      rw [heq] at hpost
      cases hpost
    · rw [heq]
      exact read_ne_slot (Path.operationPath_ne_slot id _ _).symm

/-- **What comes before a submission settles its route.** -/
theorem Precedes.routes
    (hbefore : c.Precedes d deadline before kind p p' placing addressing tries)
    (hsystem : d.system.IsProvisioning)
    (hwritten : (c.submissionOf p'.descriptor (c.serviceOf d) kind).body.isSome) :
    c.Routes d before (p'.descriptor.toRole (c.serviceOf d))
      (c.submissionOf p'.descriptor (c.serviceOf d) kind) := by
  obtain ⟨hsettled, hsettled'⟩ := hbefore.settledFrom
  obtain ⟨name, hname, hgoes⟩ := hbefore.goes
  have hdeployment : deploymentName p'.descriptor (c.serviceOf d) = name := by
    simp [deploymentName, hname]
  have hkept : p'.descriptor.slot = d.slot ∧ p'.descriptor.system = d.system ∧
      p.descriptor.candidates = d.candidates ∧ c.networkOf p'.descriptor = c.networkOf d := by
    obtain ⟨_, _, hd⟩ := hsettled
    obtain ⟨_, _, hd'⟩ := hsettled'
    rw [hd, hd']
    exact ⟨rfl, rfl, rfl, rfl⟩
  obtain ⟨hslot, hsame, hcandidates, hnetwork⟩ := hkept
  refine ⟨⟨_, hsettled', rfl⟩, hwritten, fun other => ?_, fun hnone => ?_, fun hsome => ?_⟩
  · cases hgoes with
    | beside hservice hfound =>
      simp only [submissionOf, hdeployment, FindsDeployment, hservice, hfound, true_and]
      constructor
      · intro heq
        exact (Path.roles_injective (congrArg Request.path heq)).symm
      · rintro rfl
        rfl
    | apart hfound =>
      simp only [submissionOf, FindsDeployment, hfound, and_false, iff_false]
      intro heq
      exact Path.roles_ne_deployments (congrArg Request.path heq).symm
  · cases hgoes with
    | beside hservice hfound => exact absurd ⟨hservice, (hfound name).2 rfl⟩ (hnone name)
    | apart hfound => simp only [submissionOf, hdeployment, hslot, hnetwork]
  · obtain ⟨h₁, rfl, hplaced⟩ := hbefore.placed
    obtain ⟨h₂, rfl, haddressed⟩ := hbefore.addressed
    obtain ⟨-, ⟨hempty, -⟩ | ⟨address, haddress, hreserves⟩⟩ := runs_addressed haddressed
    · exact absurd (hcandidates.symm.trans hempty) hsome
    · refine ⟨address, h₁.asked, h₂.asked, tries, _, hbefore.eq_append,
        hreserves.of_settledFrom hsettled, List.forall_mem_append.2 ⟨?_, fun x hx => ?_⟩,
        network?_toRole (hsame ▸ hsystem), haddress⟩
      · exact fun x hx => onlyAsks_placed_unqueried.of_mem_asked hplaced hx
      · obtain hpost | ⟨id, heq⟩ := hbefore.tried_read hx
        · exact Request.not_queriesAddress_of_method (by simp [hpost])
        · rw [heq]
          exact not_queriesAddress_operation id

end Precedes

/-! ## All submissions of a call -/

theorem submitsMachine_submissionOf : (c.submissionOf d service kind).SubmitsMachine := by
  cases kind with
  | role => exact ⟨rfl, service, .inr ⟨_, rfl⟩⟩
  | deployment => exact ⟨rfl, service, .inl rfl⟩

/-- The sequence that submits has one submission accepted at most. -/
theorem length_acceptedOf_submitted {o : Except Fault (String × Progress)}
    (hr : Runs (c.submitted d deadline) h o) :
    (acceptedOf Request.SubmitsMachine h.asked).length ≤ 1 := by
  obtain hnone | ⟨kind, p, p', placing, addressing, submitting, o', -, -, hsubmit, hasked,
    hearlier⟩ := submitted_parts hr
  · rw [acceptedOf_of_forall_not hnone]
    exact Nat.zero_le _
  · rw [hasked, acceptedOf_append, acceptedOf_of_forall_not hearlier, List.nil_append]
    exact (performs_of_submitMachine hsubmit).length_acceptedOf_le not_submitsMachine_read

/-- **The submissions of a call**: one at most is accepted, each has its route, and a
call without any has failed. -/
structure RoutesSubmissions (c : Client) (d : Descriptor) (asked : List Asked)
    (o : Except Fault (Except Fault Machine × Descriptor)) : Prop where
  once : (acceptedOf Request.SubmitsMachine asked).length ≤ 1
  routed {before after : List Asked} {q : Request} {answer : Except Fault Response}
    (hasked : asked = before ++ (q, answer) :: after) (hq : q.SubmitsMachine) :
    ∃ role, c.Routes d before role q
  unsent (hnone : ∀ x ∈ asked, ¬ x.1.SubmitsMachine) : ∃ fault d', o = .ok (.error fault, d')

/-- **Every submission is routed**: to the deployment that the call found, or to one
of its own, with the address that it reserved. -/
theorem submission_is_routed {o : Except Fault (Except Fault Machine × Descriptor)}
    (hsystem : d.system.IsProvisioning) (hr : Runs (c.provision d deadline) h o) :
    c.RoutesSubmissions d h.asked o := by
  refine ⟨?_, fun {before after q answer} hasked hq => ?_, fun hnone => ?_⟩
  · obtain hnone | ⟨h', o', following, hsubmitted, hasked, hfollowing⟩ := asked_of_provision hr
    · rw [acceptedOf_of_forall_not hnone]
      exact Nat.zero_le _
    · rw [hasked, acceptedOf_append, acceptedOf_of_forall_not hfollowing, List.append_nil]
      exact length_acceptedOf_submitted hsubmitted
  · obtain hnone | ⟨h', o', following, hsubmitted, hsame, hfollowing⟩ := asked_of_provision hr
    · exact absurd hq (hnone (q, answer) (by simp [hasked]))
    · rw [hasked] at hsame
      obtain ⟨l, hl⟩ | ⟨l, rfl, hl⟩ := append_cons_eq_append hsame
      · obtain ⟨kind, p, p', placing, addressing, tries, hbefore, rfl, hwritten⟩ :=
          precedes_of_submitted hsubmitted hl hq
        exact ⟨_, hbefore.routes hsystem hwritten⟩
      · exact absurd hq (hfollowing (q, answer) (by simp [hl]))
  · obtain ⟨r, d', _, _, rfl, -⟩ := provision_parts hr
    cases r with
    | error fault => exact ⟨fault, d', rfl⟩
    | ok machine =>
      -- a machine was submitted
      obtain ⟨service, p, h₁, h₂, rfl, hasked, hsubmitted, -⟩ :=
        submitted_of_uncompensated (runs_uncompensated_of_ok hr)
      obtain ⟨-, -, kind, before, r, id, after, hcarried, -⟩ := runs_submitted hsubmitted
      refine absurd submitsMachine_submissionOf (hnone (c.submissionOf p.descriptor service kind,
        .ok r) ?_)
      simp [hasked, hcarried]

/-! ## A machine that joins a deployment -/

/-- A provider with a deployment in the slot, of whose addresses one is taken. It
refuses the submission. -/
def sharingScript : Script :=
  let free (isFree : Bool) : ScriptedReply := .shows (.obj [("IsAvailable", .bool isFree)])
  let subnet : Json := .obj [("Name", .str "s"), ("AddressPrefix", .str "")]
  let site : Json := .obj [("Name", .str "n"), ("Subnets", .arr [subnet])]
  [((.get, Path.cloudService "w"), [.shows (.obj [("ServiceName", .str "w")])]),
    ((.get, Path.slot "w" Deployment.production), [.shows (.obj [("Name", .str "b")])]),
    ((.get, Path.availability "n" "a1"), [free false]),
    ((.get, Path.availability "n" "a2"), [free true]),
    ((.get, Path.topology), [.shows (.obj [("VirtualNetworkSites", .arr [site])])]),
    ((.post, Path.roles "w" "b"), [.refuses 500])]

/-- A machine that is to have one of three addresses. -/
def candidateDescriptor : Descriptor :=
  { plainDescriptor "r" (some "w") with
    network := some "n"
    subnet := some "s"
    candidates := ["a1", "a2", "a3"] }

/-- The run of provisioning against it. -/
def joined :
    History Request (Except Fault Response) × Except Fault (Except Fault Machine × Descriptor) :=
  (plainClient.provision candidateDescriptor ⟨400000⟩).alone Script.respond sharingScript 0

/-- The machine is to join the deployment, with the second address; the third is not
queried. -/
theorem submission_is_routed_joined :
    plainClient.RoutesSubmissions candidateDescriptor joined.1.asked joined.2 ∧
      joined.1.asked.map (fun x => (x.1.method, x.1.path)) = [
        (.get, Path.cloudService "w"),
        (.get, Path.slot "w" Deployment.production),
        (.get, Path.availability "n" "a1"),
        (.get, Path.availability "n" "a2"),
        (.get, Path.topology),
        (.post, Path.roles "w" "b")] := by
  have hr : Runs (plainClient.provision candidateDescriptor ⟨400000⟩) joined.1 joined.2 :=
    runs_alone ..
  exact ⟨submission_is_routed trivial hr, by decide +kernel⟩

end Client

end CloudOrchestration
