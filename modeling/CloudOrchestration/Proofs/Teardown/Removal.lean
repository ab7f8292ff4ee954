import CloudOrchestration.Proofs.Client.Locks
/-!
# How a machine is taken down

To take down the machine at an address is to look it up, to remove it under the
general lock, and to clear away what it leaves behind. Whether the machine goes
alone or its deployment with it is settled by what was looked up
(`removalOf`); under the lock nothing else is deleted, and nothing but the
cloud service, disks and storage accounts once the lock has been given back
(`deletion_of_teardown`).
-/

namespace CloudOrchestration

open Workflow Channel Schedule

variable {c : Client} {address service : String} {deadline : Deadline} {d : Deployment}
variable {role : Role} {h : History Request (Except Fault Response)}

/-- A request after a removal: a read, or the deletion of the cloud service, of a
disk or of a storage account. -/
def Request.ClearsAway (service : String) (q : Request) : Prop :=
  q.method = .get ∨ q.method = .delete ∧ (q.path = Path.cloudService service ∨
    (∃ disk, q.path = Path.diskWithMedia disk) ∨ ∃ account, q.path = Path.storageAccount account)

theorem clearsAway_read (path : String) : (Request.read path).ClearsAway service := .inl rfl

namespace Client

/-! ## Looking the machine up -/

/-- **An answer that shows the machine at an address**: the document of a cloud
service with the deployment that owns the address, and the role of the machine in
it. -/
structure Shows (c : Client) (address : String) (r : Response) (d : Deployment)
    (service : String) (role : Role) : Prop where
  isSuccess : r.isSuccess
  document : ∃ found : CloudService, c.wire.read r.body = .ok found ∧ found.name = service ∧
    ∃ listed ∈ found.deployments, d = listed.foundIn service
  owns : c.owns address d
  role : (d.instanceAt? address).bind (fun i => d.role? i.role) = some role

/-- The role of the machine is one of those of its deployment. -/
theorem Shows.mem_roles {r : Response} (hshows : c.Shows address r d service role) :
    role ∈ d.roles := by
  obtain ⟨i, -, hrole⟩ := Option.bind_eq_some_iff.1 hshows.role
  exact List.mem_of_find?_eq_some hrole

/-- A deployment without others has no other role. -/
theorem Shows.roles_eq {r : Response} (hshows : c.Shows address r d service role)
    (halone : d.roles.length < 2) : d.roles = [role] := by
  have hmem := hshows.mem_roles
  have hpos := List.length_pos_of_mem hmem
  obtain ⟨role', hroles⟩ := List.length_eq_one_iff.1 (by omega : d.roles.length = 1)
  rw [hroles] at hmem ⊢
  rw [List.mem_singleton.1 hmem]

theorem shown_of_runs_cloudService? {name : String} {found : CloudService}
    (hr : Runs (c.cloudService? name true deadline) h (.ok (some found))) :
    ∃ (r : Response) (shown : CloudService),
      (.read (Path.cloudServiceDetail name), .ok r) ∈ h.asked ∧ r.isSuccess ∧
        c.wire.read r.body = .ok shown ∧ found = shown.labelled := by
  obtain ⟨answer, h₁, h₂, rfl, hget, hr⟩ := runs_bind_ok.1 hr
  obtain ⟨rfl, hanswer⟩ := runs_done.1 hr
  obtain ⟨r, hasked, hdocument⟩ := shown_of_runs_getOptional hget
  obtain ⟨rfl, -⟩ | ⟨shown, rfl, hsuccess, hread⟩ := optionalDocument_eq_ok hdocument
  · cases hanswer
  · cases hanswer
    exact ⟨r, shown, by simpa using hasked, hsuccess, hread, rfl⟩

theorem shown_of_runs_findOwner {services : List CloudService}
    (hr : Runs (c.findOwner address deadline services) h (.ok (some d))) :
    ∃ (name : String) (r : Response) (found : CloudService),
      (.read (Path.cloudServiceDetail name), .ok r) ∈ h.asked ∧ r.isSuccess ∧
        c.wire.read r.body = .ok found ∧
          (∃ listed ∈ found.deployments, d = listed.foundIn found.name) ∧ c.owns address d := by
  induction services generalizing h with
  | nil =>
    obtain ⟨-, hx⟩ := runs_done.1 hr
    cases hx
  | cons listed rest ih =>
    obtain ⟨service, h₁, h₂, rfl, hservice, hr⟩ := runs_bind_ok.1 hr
    rw [History.asked_append]
    split at hr
    next d' hfound =>
      obtain ⟨rfl, hx⟩ := runs_done.1 hr
      cases hx
      obtain ⟨found, rfl, hfind⟩ := Option.bind_eq_some_iff.1 hfound
      obtain ⟨r, shown, hasked, hsuccess, hread, rfl⟩ := shown_of_runs_cloudService? hservice
      obtain ⟨d₀, hd₀, rfl⟩ := List.mem_map.1 (List.mem_of_find?_eq_some hfind)
      have howns := List.find?_some hfind
      exact ⟨_, r, shown, List.mem_append_left _ hasked, hsuccess, hread, ⟨d₀, hd₀, rfl⟩, howns⟩
    next =>
      obtain ⟨name, r, found, hasked, hrest⟩ := ih hr
      exact ⟨name, r, found, List.mem_append_right _ hasked, hrest⟩

/-- **The machine at an address was shown.** -/
theorem shown_of_runs_machineOwning
    (hr : Runs (c.machineOwning address deadline) h (.ok (d, service, role))) :
    ∃ (name : String) (r : Response),
      (.read (Path.cloudServiceDetail name), .ok r) ∈ h.asked ∧
        c.Shows address r d service role := by
  obtain ⟨owner, h₁, h₂, rfl, howner, hr⟩ := runs_bind_ok.1 hr
  cases owner with
  | none =>
    obtain ⟨-, hx⟩ := runs_fail.1 hr
    cases hx
  | some d' =>
    obtain ⟨services, h₃, h₄, rfl, -, hfind⟩ := runs_bind_ok.1 howner
    obtain ⟨name, r, found, hasked, hsuccess, hread, ⟨listed, hlisted, rfl⟩, howns⟩ :=
      shown_of_runs_findOwner hfind
    -- the deployment bears the name of the service in whose document it was found
    have hservice : (listed.foundIn found.name).service = some found.name := rfl
    simp only [hservice] at hr
    split at hr
    · obtain ⟨-, hx⟩ := runs_fail.1 hr
      cases hx
    next hrole =>
      obtain ⟨rfl, hx⟩ := runs_done.1 hr
      cases hx
      exact ⟨name, r, by simp [hasked], hsuccess, ⟨found, hread, rfl, listed, hlisted, rfl⟩, howns,
        hrole⟩

/-! ## Removing it -/

/-- The request that takes a machine down: of its role alone if it shares its
deployment with others, else of the deployment. -/
def removalOf (d : Deployment) (service : String) (role : Role) : Request where
  method := .delete
  path :=
    if 2 ≤ d.roles.length then Path.role service d.name role.name
    else Path.deployment service d.name

/-- Take a machine down that was looked up. -/
def removeMachine (c : Client) (d : Deployment) (service : String) (role : Role)
    (deadline : Deadline) : Call Action :=
  if 2 ≤ d.roles.length then c.deleteRole service d.name role.name deadline
  else c.deleteDeployment service d.name deadline

/-- Delete what a machine leaves behind. -/
def clearAway (c : Client) (d : Deployment) (service : String) (role : Role)
    (deadline : Deadline) : Call Unit := do
  let _ ← c.deleteCloudService service deadline
  role.diskNames.forM fun disk => regardless (c.deleteReleasedDisk disk deadline)
  unless 2 ≤ d.roles.length do
    (← tracked).forM fun account => regardless (c.deleteStorageAccount account deadline)

/-- **A machine is taken down in three steps.** -/
theorem deleteMachineAt_eq (c : Client) (address : String) (deadline : Deadline) :
    c.deleteMachineAt address deadline =
      (c.machineOwning address deadline).bind fun x =>
        (c.removeMachine x.1 x.2.1 x.2.2 deadline).bind fun _ =>
          c.clearAway x.1 x.2.1 x.2.2 deadline := by
  simp only [deleteMachineAt, bind_eq]
  congr 1
  funext x
  obtain ⟨d, service, role⟩ := x
  -- the two ways of removing it are told apart at the start and at the end
  by_cases hshared : 2 ≤ d.roles.length <;> simp [removeMachine, clearAway, hshared]

/-- What is seen of a part under a lock. -/
theorem sights_of_runs_exclusively {α : Type} {p : Request → Prop} {domain : Domain}
    {body : Call α} {o : Except Fault α} (hbody : OnlyAsks p body)
    (hr : Runs (exclusively domain deadline body) h o) :
    (∃ inside : List (Sight Request (Except Fault Response)),
      h.sights = .acquired domain :: inside ++ [.released domain] ∧
        ∀ x ∈ inside, ∃ q r, x = .asked q r ∧ p q) ∨
      h.sights = [.refused domain] ∧ ∃ fault, o = .error fault := by
  rw [exclusively, bind_eq, runs_now_bind] at hr
  obtain ⟨t, rest, rfl, hr⟩ := hr
  obtain ⟨h', rfl, hinside⟩ | ⟨rfl, rfl⟩ := runs_holding.1 hr
  · exact .inl ⟨History.sights h', by simp, hbody h' o hinside⟩
  · exact .inr ⟨by simp, _, rfl⟩

/-- A part that deletes what is at a path, and nothing else. -/
theorem onlyAsks_deleteFound {name path : String} {isDone : Option Deployment → Bool} :
    OnlyAsks (fun q => q.method = .get ∨ q = { method := .delete, path }) (do
      let found ← c.deployment? service name deadline
      unlessDone (isDone found) .delete (c.channel.remove path deadline)) := by
  refine onlyAsks_bind (onlyAsks_deploymentAt? (.inl rfl)) fun _ => ?_
  exact onlyAsks_unlessDone (onlyAsks_remove (fun _ => .inl rfl) (.inr rfl))

/-- **Under the lock nothing but the machine is deleted.** -/
theorem sights_of_runs_removeMachine {o : Except Fault Action}
    (hr : Runs (c.removeMachine d service role deadline) h o) :
    (∃ inside : List (Sight Request (Except Fault Response)),
      h.sights = .acquired .general :: inside ++ [.released .general] ∧
        ∀ x ∈ inside, ∃ q r, x = .asked q r ∧
          (q.method = .get ∨ q = removalOf d service role)) ∨
      h.sights = [.refused .general] ∧ ∃ fault, o = .error fault := by
  by_cases hshared : 2 ≤ d.roles.length
  · simp only [removeMachine, removalOf, if_pos hshared] at hr ⊢
    exact sights_of_runs_exclusively onlyAsks_deleteFound hr
  · simp only [removeMachine, removalOf, if_neg hshared] at hr ⊢
    exact sights_of_runs_exclusively onlyAsks_deleteFound hr

theorem onlyAsks_clearAway :
    OnlyAsks (Request.ClearsAway service) (c.clearAway d service role deadline) := by
  refine onlyAsks_bind (onlyAsks_deleteCloudService clearsAway_read (.inr ⟨rfl, .inl rfl⟩))
    fun _ => ?_
  refine onlyAsks_bind (onlyAsks_forM fun disk => onlyAsks_regardless
    (onlyAsks_deleteReleasedDisk clearsAway_read (.inr ⟨rfl, .inr (.inl ⟨disk, rfl⟩)⟩)))
    fun _ => ?_
  split
  · exact onlyAsks_done _
  · refine onlyAsks_bind (onlyAsks_effect fun _ => rfl) fun accounts => ?_
    exact onlyAsks_forM fun account => onlyAsks_regardless
      (onlyAsks_deleteStorageAccount clearsAway_read (.inr ⟨rfl, .inr (.inr ⟨account, rfl⟩)⟩))

/-- A machine is taken down with reads and deletions. -/
theorem asks_deleteMachineAt :
    Asks (fun q => q.method = .get ∨ q.method = .delete)
      (c.deleteMachineAt address deadline) := by
  have hfound : ∀ {service name path : String} {isDone : Option Deployment → Bool},
      Asks (fun q => q.method = .get ∨ q.method = .delete)
        (exclusively .general deadline (do
          let found ← c.deployment? service name deadline
          unlessDone (isDone found) .delete (c.channel.remove path deadline))) := fun {_ _ _ _} =>
    asks_exclusively (onlyAsks_deleteFound.mono fun q hq => hq.imp_right (· ▸ rfl)).asks
  rw [deleteMachineAt_eq]
  refine asks_bind (onlyAsks_machineOwning fun _ => .inl rfl).asks fun x => ?_
  refine asks_bind ?_ fun _ => (onlyAsks_clearAway.mono fun q hq => hq.imp_right (·.1)).asks
  unfold removeMachine
  split
  · exact hfound
  · exact hfound

/-! ## Where it deletes -/

variable {past rest : List (Sight Request (Except Fault Response))}
variable {q : Request} {r : Except Fault Response}

/-- A request of the removal follows nothing but the lock, and others. -/
theorem inside_of_removal {o : Except Fault Action}
    (hr : Runs (c.removeMachine d service role deadline) h o)
    (hs : h.sights = past ++ .asked q r :: rest) :
    ∃ inside, past = .acquired .general :: inside ∧ (∀ x ∈ inside, ∃ q r, x = .asked q r) ∧
      (q.method = .get ∨ q = removalOf d service role) := by
  obtain ⟨inside, hsights, hinside⟩ | ⟨hsights, -⟩ := sights_of_runs_removeMachine hr
  · rw [hs] at hsights
    cases past with
    | nil => cases hsights
    | cons x past =>
      obtain ⟨rfl, hrest⟩ := List.cons.inj hsights
      obtain ⟨l, rfl⟩ | ⟨l, -, hl⟩ := append_cons_eq_append hrest
      · refine ⟨past, rfl, fun x hx => ?_, ?_⟩
        · obtain ⟨q', r', rfl, -⟩ := hinside x (by simp [hx])
          exact ⟨q', r', rfl⟩
        · obtain ⟨q', r', heq, hq⟩ := hinside (.asked q r) (by simp)
          cases heq
          exact hq
      · -- the lock is given back last
        cases l with
        | nil => cases hl
        | cons y l => simp at hl
  · rw [hs] at hsights
    cases past <;> simp at hsights

/-- **Once the machine is looked up** it is deleted under the lock, and what it
leaves behind is after that. -/
theorem deletion_after_lookup {o : Except Fault Unit}
    (hr : Runs ((c.removeMachine d service role deadline).bind fun _ =>
      c.clearAway d service role deadline) h o)
    (hs : h.sights = past ++ .asked q r :: rest) (hq : q.method = .delete) :
    if Sight.holds .general past then q = removalOf d service role
    else q.ClearsAway service := by
  have hinside : ∀ {h o l}, Runs (c.removeMachine d service role deadline) h o →
      h.sights = past ++ .asked q r :: l → Sight.holds .general past ∧
        q = removalOf d service role := by
    intro h o l hremove hl
    obtain ⟨inside, rfl, hinside, hdelete⟩ := inside_of_removal hremove hl
    refine ⟨?_, hdelete.resolve_left (by rw [hq]; nofun)⟩
    have hholds : Sight.holds .general ([.acquired .general] ++ inside) = true := by
      rw [Sight.holds_append_of_asked hinside]
      rfl
    exact hholds
  obtain ⟨a, h₁, h₂, rfl, hremove, hclear⟩ | ⟨fault, -, hremove⟩ := runs_bind.1 hr
  · rw [History.sights_append] at hs
    obtain ⟨l, hl⟩ | ⟨l, rfl, hl⟩ := append_cons_eq_append hs.symm
    · obtain ⟨hholds, hremoval⟩ := hinside hremove hl
      rwa [if_pos hholds]
    · have hkinds := onlyAsks_clearAway h₂ o hclear
      rw [hl] at hkinds
      have hasked : ∀ x ∈ l, ∃ q r, x = .asked q r := fun x hx =>
        onlyAsks_clearAway.exists_asked hclear x (by simp [hl, hx])
      -- the lock has been given back
      obtain ⟨inside, hsights, -⟩ | ⟨-, fault, hx⟩ := sights_of_runs_removeMachine hremove
      · have hfree : Sight.holds .general (h₁.sights ++ l) = false := by
          rw [Sight.holds_append_of_asked hasked, hsights, Sight.holds_append_one]
          simp [Sight.holding]
        obtain ⟨_, _, heq, hkind⟩ := hkinds (.asked q r) (by simp)
        cases heq
        rwa [hfree]
      · cases hx
  · obtain ⟨hholds, hremoval⟩ := hinside hremove hs
    rwa [if_pos hholds]

/-- **Where a teardown deletes**: under the lock it removes the machine, as was
settled by an answer that it had seen; after that it clears away. -/
theorem deletion_of_teardown {o : Except Fault Unit}
    (hr : Runs (c.deleteMachineAt address deadline) h o)
    (hs : h.sights = past ++ .asked q r :: rest) (hq : q.method = .delete) :
    ∃ (d : Deployment) (service : String) (role : Role) (name : String) (shown : Response),
      .asked (.read (Path.cloudServiceDetail name)) (.ok shown) ∈ past ∧
        c.Shows address shown d service role ∧
        if Sight.holds .general past then q = removalOf d service role
        else q.ClearsAway service := by
  rw [deleteMachineAt_eq] at hr
  have hlooks : OnlyAsks (fun q => q.method = .get) (c.machineOwning address deadline) :=
    onlyAsks_machineOwning fun _ => rfl
  -- what looks the machine up deletes nothing
  have hnot : ∀ {h o}, Runs (c.machineOwning address deadline) h o → .asked q r ∉ h.sights := by
    intro h o hr hx
    obtain ⟨_, _, heq, hget⟩ := hlooks h o hr _ hx
    cases heq
    rw [hq] at hget
    cases hget
  obtain ⟨⟨d, service, role⟩, h₁, h₂, rfl, howner, hrest⟩ | ⟨fault, -, howner⟩ := runs_bind.1 hr
  · rw [History.sights_append] at hs
    obtain ⟨l, hl⟩ | ⟨l, rfl, hl⟩ := append_cons_eq_append hs.symm
    · exact absurd (by simp [hl]) (hnot howner)
    · obtain ⟨name, shown, hasked, hshows⟩ := shown_of_runs_machineOwning howner
      have hmem : .asked (.read (Path.cloudServiceDetail name)) (.ok shown) ∈ h₁.sights :=
        History.mem_asked.1 hasked
      have hfree : Sight.holds .general h₁.sights = false :=
        Sight.holds_append_of_asked (l := []) (hlooks.exists_asked howner)
      refine ⟨d, service, role, name, shown, List.mem_append_left _ hmem, hshows, ?_⟩
      rw [Sight.holds_append_of_free hfree]
      exact deletion_after_lookup hrest hl hq
  · exact absurd (by simp [hs]) (hnot howner)

end Client

end CloudOrchestration
