import CloudOrchestration.Proofs.Channel.Monitored
import CloudOrchestration.Proofs.Client.Discipline
/-!
# The phases of provisioning

How far a provisioning call has come can be told from what is seen of it:
`Client.phases` reads its sights and knows at each point in which phase it is.
The cloud service is deleted in one phase only, and there nothing else can
happen next; it is reached when the service is listed and all of its slots
were seen to be empty. Locks play no part in it.
-/

namespace CloudOrchestration

open Workflow Channel

variable {α : Type} {c : Client} {deadline : Deadline} {service : String}

/-- How far a provisioning call has come. -/
inductive Phase where
  /-- Up to the release of the general lock. -/
  | submitting
  /-- From then on, up to the look at the listing that begins a clean-up. -/
  | booting
  /-- The service is listed, and some of its slots are still to be looked at.
  When none are left the service is about to be deleted. -/
  | checking (slots : List String)
  /-- The service was deleted, or is left alone. -/
  | settled
  deriving DecidableEq, Repr

namespace Client

/-- What the listing leads to. -/
def listingSeen (c : Client) (service : String) (answer : Except Fault Response) : Phase :=
  match (c.channel.fetched Path.cloudServices answer >>= c.channel.document :
      Except Fault CloudServices) with
  | .ok services =>
    if services.contains service then .checking [Deployment.production, Deployment.staging]
    else .settled
  | .error _ => .booting

/-- What a slot leads to. -/
def slotSeen (c : Client) (service slot : String) (rest : List String)
    (answer : Except Fault Response) : Phase :=
  match (c.channel.fetched (Path.slot service slot) answer >>= c.channel.optionalDocument :
      Except Fault (Option Deployment)) with
  | .ok none => .checking rest
  | .ok (some _) => .settled
  | .error _ => .checking (slot :: rest)

/-- What the answer to a deletion leads to: a conflict to another try. -/
def deletionSeen (c : Client) : Except Fault Response → Phase
  | .ok r =>
    match c.wire.judge r with
    | .conflict _ => .checking []
    | .success _ | .fatal _ => .settled
  | .error _ => .settled

/-- **The phases of a provisioning call.** -/
def phases (c : Client) (service : String) : Monitor Phase Request (Except Fault Response)
  | .submitting, .asked q _ => if q.method = .delete then none else some .submitting
  | .submitting, .released .general => some .booting
  | .submitting, .acquired _ => some .submitting
  | .submitting, .refused _ => some .submitting
  | .booting, .asked q r =>
    if q = .read Path.cloudServices then some (c.listingSeen service r)
    else if q.method = .delete then none
    else some .booting
  | .booting, _ => some .booting
  | .checking (slot :: rest), .asked q r =>
    if q = .read (Path.slot service slot) then some (c.slotSeen service slot rest r) else none
  | .checking [], .asked q r => if q = deletionOf service then some (c.deletionSeen r) else none
  | .settled, .asked q _ => if q.method = .delete then none else some .settled
  | _, _ => none

theorem phases_listing {answer : Except Fault Response} :
    c.phases service .booting (.asked (.read Path.cloudServices) answer) =
      some (c.listingSeen service answer) := by
  simp [phases]

theorem phases_slot {slot : String} {rest : List String} {answer : Except Fault Response} :
    c.phases service (.checking (slot :: rest)) (.asked (.read (Path.slot service slot)) answer) =
      some (c.slotSeen service slot rest answer) := by
  simp [phases]

theorem phases_deletion {answer : Except Fault Response} :
    c.phases service (.checking []) (.asked (deletionOf service) answer) =
      some (c.deletionSeen answer) := by
  simp [phases]

/-- Beyond the first phase the general lock was given back. -/
theorem released_of_phases {l : List (Sight Request (Except Fault Response))} {phase : Phase}
    (h : (c.phases service).after .submitting l = some phase) (hphase : phase ≠ .submitting) :
    .released .general ∈ l := by
  induction l with
  | nil => cases h; exact absurd rfl hphase
  | cons x l ih =>
    rw [Monitor.after_cons, Option.bind_eq_some_iff] at h
    obtain ⟨next, hx, h⟩ := h
    cases x with
    | released domain =>
      cases domain with
      | general => exact List.mem_cons_self
      | network => cases hx
      | storage => cases hx
    | asked q r =>
      simp only [phases] at hx
      split at hx <;> cases hx
      exact List.mem_cons_of_mem _ (ih h)
    | acquired => cases hx; exact List.mem_cons_of_mem _ (ih h)
    | refused => cases hx; exact List.mem_cons_of_mem _ (ih h)

/-! ## The calls -/

theorem obeys_deploymentInSlot? {slot : String} {rest : List String} :
    Obeys (c.phases service) (.checking (slot :: rest)) (c.deploymentInSlot? service slot deadline)
      fun o phase => ∀ found, o = .ok found →
        phase = if found.isSome then .settled else .checking rest := by
  have hget : Obeys (c.phases service) (.checking (slot :: rest))
      (c.channel.getOptional (Path.slot service slot) deadline : Call (Option Deployment))
      fun o phase => ∀ found, o = .ok found →
        phase = if found.isSome then .settled else .checking rest := by
    refine obeys_getOptional (fun failure => phases_slot) fun answer => ⟨_, phases_slot, ?_⟩
    · intro found hfound
      simp only [slotSeen, hfound]
      cases found <;> rfl
  refine obeys_bind hget (fun found phase hphase => obeys_done ?_) fun fault phase _ => ?_
  · rintro _ hx
    cases hx
    rw [hphase found rfl, Option.isSome_map]
  · exact fun _ hx => nomatch hx

/-- **The slots are looked at one after the other**, up to the first that is
taken. -/
theorem obeys_isOccupied (slots : List String) :
    Obeys (c.phases service) (.checking slots) (c.isOccupied service deadline slots)
      fun o phase => ∀ occupied, o = .ok occupied →
        phase = if occupied then .settled else .checking [] := by
  induction slots with
  | nil =>
    refine obeys_done ?_
    rintro _ hx
    cases hx
    rfl
  | cons slot rest ih =>
    refine obeys_bind obeys_deploymentInSlot? (fun found phase hphase => ?_)
      fun _ _ _ _ hx => nomatch hx
    rw [hphase found rfl]
    cases found with
    | some d =>
      refine obeys_done ?_
      rintro _ hx
      cases hx
      rfl
    | none => exact ih

/-- The deletion is sent again after a conflict, and nothing follows it
otherwise. -/
theorem obeys_remove :
    Obeys (c.phases service) (.checking []) (c.channel.remove (Path.cloudService service) deadline)
      fun _ _ => True := by
  have hsubmit : Obeys (c.phases service) (.checking [])
      (c.channel.delete (Path.cloudService service) deadline)
      fun o phase => ∀ id, o = .ok id → phase = .settled := by
    refine obeys_submit (fun r rejection hj => ?_) fun answer =>
      ⟨_, phases_deletion, fun id hid => ?_⟩
    · -- a conflict leaves the deletion to be sent again
      have hsame : c.deletionSeen (.ok r) = .checking [] := by
        have hj' : c.wire.judge r = .conflict rejection := hj
        simp [deletionSeen, hj']
      exact phases_deletion.trans (congrArg some hsame)
    · obtain ⟨r, rfl, hsuccess, -⟩ := submitted_eq_ok.1 hid
      simp [deletionSeen, Wire.judge_success hsuccess]
  refine obeys_bind hsubmit (fun id phase hphase => ?_) fun _ _ _ => trivial
  rw [hphase id rfl]
  have hasks : OnlyAsks (· = .read (operationPath id)) (c.channel.awaitOperation id deadline) :=
    onlyAsks_awaitOperation rfl
  exact (obeys_of_onlyAsks hasks fun q r hq => by rw [hq]; rfl).mono fun _ _ _ => trivial

/-- **A clean-up** deletes the service in the phase for it alone. -/
theorem obeys_deleteCloudService :
    Obeys (c.phases service) .booting (c.deleteCloudService service deadline)
      fun _ _ => True := by
  have hlist : Obeys (c.phases service) .booting (c.cloudServices deadline)
      fun o phase => ∀ services, o = .ok services → phase =
        if services.contains service then .checking [Deployment.production, Deployment.staging]
        else .settled := by
    refine obeys_get (fun failure => phases_listing) fun answer => ⟨_, phases_listing, ?_⟩
    intro services hservices
    simp only [listingSeen, hservices]
  refine obeys_bind hlist (fun services phase hphase => ?_) fun _ _ _ => trivial
  rw [hphase services rfl]
  cases services.contains service with
  | false => exact obeys_done trivial
  | true =>
    refine obeys_bind (obeys_isOccupied _) (fun occupied phase hphase => ?_) fun _ _ _ => trivial
    rw [hphase occupied rfl]
    cases occupied with
    | true => exact obeys_done trivial
    | false => exact obeys_bind obeys_remove (fun _ _ _ => obeys_done trivial) fun _ _ _ => trivial

theorem obeys_awaitMachine {d : Descriptor} {name : String} :
    Obeys (c.phases service) .booting (c.awaitMachine d name deadline)
      fun _ phase => phase = .booting := by
  refine obeys_of_asks asks_awaitMachine fun x hx => ?_
  cases x with
  | asked q r =>
    obtain ⟨hmethod, hpath⟩ := hx q r rfl
    -- nothing that a booting machine asks for begins a clean-up
    have hlisting : q ≠ .read Path.cloudServices := fun h => hpath (congrArg Request.path h)
    simp [phases, hmethod, hlisting]
  | acquired => rfl
  | refused => rfl
  | released => rfl

/-- The submission gives the lock back, unless it was not obtained. -/
theorem obeys_submission {d : Descriptor} {budget : Nat} :
    Obeys (c.phases service) .submitting
      (holding .general budget ((c.resolveAndSubmit deadline).start d))
      fun o phase => ∀ x, o = .ok x → phase = .booting := by
  have hbody : OnlyAsks Request.Keeps ((c.resolveAndSubmit deadline).start d) :=
    leavesLocks_resolveAndSubmit _
  refine obeys_holding rfl ?_ ⟨_, rfl, fun _ hx => nomatch hx⟩
  refine (obeys_of_onlyAsks hbody fun q r hq => if_neg hq).mono ?_
  rintro o _ rfl
  exact ⟨.booting, rfl, fun _ _ => rfl⟩

/-- **Provisioning goes through its phases**, whatever it is answered. -/
theorem obeys_provision {d : Descriptor} :
    Obeys (c.phases (c.serviceOf d)) .submitting (c.provision d deadline) fun _ _ => True :=
  obeys_provision_of (P := fun _ => True) trivial trivial
    (fun _ => obeys_submission.mono fun _ _ hphase => ⟨hphase, trivial⟩)
    (fun _ _ => obeys_awaitMachine) obeys_deleteCloudService

end Client

end CloudOrchestration
