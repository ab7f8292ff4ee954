import CloudOrchestration.Proofs.Provisioning.Booting
/-!
# Where a machine is placed

A machine joins the deployment in the slot that it is to have, if its cloud
service was read and that deployment in it; in every other case it gets a
deployment of its own, named like the service (`Client.goes_of_placed`). The
lookups that settle this are not told from their place in the call: they are all
that is read of the service and of the slot.
-/

namespace CloudOrchestration

open Workflow Channel

namespace Client

variable {c : Client} {d : Descriptor} {service slot name : String} {deadline : Deadline}
variable {h : History Request (Except Fault Response)} {asked asked' : List Asked}
variable {kind : Submission} {p : Progress}

/-! ## What is read of the service and of the slot -/

/-- The cloud service was read as existing. -/
def ShowsService (c : Client) (service : String) (asked : List Asked) : Prop :=
  ∃ (r : Response) (found : CloudService), (.read (Path.cloudService service), .ok r) ∈ asked ∧
    c.channel.optionalDocument r = .ok (some found)

/-- The slot was read as holding a deployment of a name. -/
def ShowsInSlot (c : Client) (service slot name : String) (asked : List Asked) : Prop :=
  ∃ (r : Response) (found : Deployment), (.read (Path.slot service slot), .ok r) ∈ asked ∧
    c.channel.optionalDocument r = .ok (some found) ∧ found.name = name

/-- **A deployment to join was found**: the service was read as existing, and the
slot as holding a deployment of the name. -/
def FindsDeployment (c : Client) (service slot name : String) (asked : List Asked) : Prop :=
  c.ShowsService service asked ∧ c.ShowsInSlot service slot name asked

theorem ShowsService.append_left (hs : c.ShowsService service asked) :
    c.ShowsService service (asked ++ asked') := by
  obtain ⟨r, found, hx, hfound⟩ := hs
  exact ⟨r, found, List.mem_append_left _ hx, hfound⟩

theorem not_showsInSlot_of_avoids (h : ∀ x ∈ asked, x.1 ≠ .read (Path.slot service slot)) :
    ¬ c.ShowsInSlot service slot name asked := by
  rintro ⟨r, found, hx, -⟩
  exact h _ hx rfl

theorem showsInSlot_append_iff_right
    (h : ∀ x ∈ asked, x.1 ≠ .read (Path.slot service slot)) :
    c.ShowsInSlot service slot name (asked ++ asked') ↔ c.ShowsInSlot service slot name asked' := by
  constructor
  · rintro ⟨r, found, hx, hfound⟩
    rcases List.mem_append.1 hx with hx | hx
    · exact absurd rfl (h _ hx)
    · exact ⟨r, found, hx, hfound⟩
  · rintro ⟨r, found, hx, hfound⟩
    exact ⟨r, found, List.mem_append_right _ hx, hfound⟩

theorem showsInSlot_append_iff_left
    (h : ∀ x ∈ asked', x.1 ≠ .read (Path.slot service slot)) :
    c.ShowsInSlot service slot name (asked ++ asked') ↔ c.ShowsInSlot service slot name asked := by
  constructor
  · rintro ⟨r, found, hx, hfound⟩
    rcases List.mem_append.1 hx with hx | hx
    · exact ⟨r, found, hx, hfound⟩
    · exact absurd rfl (h _ hx)
  · rintro ⟨r, found, hx, hfound⟩
    exact ⟨r, found, List.mem_append_left _ hx, hfound⟩

/-- A read of the slot shows what it is answered. -/
theorem showsInSlot_iff_of_reads {r : Response} {found : Option Deployment}
    (hreads : Reads (Path.slot service slot) asked (.ok r))
    (hfound : c.channel.optionalDocument r = .ok found) :
    c.ShowsInSlot service slot name asked ↔ found.map (·.name) = some name := by
  constructor
  · rintro ⟨r', there, hx, hthere, hname⟩
    cases hreads.eq_answer hx
    rw [hfound] at hthere
    cases hthere
    exact congrArg some hname
  · intro hname
    obtain ⟨there, rfl, hthere⟩ := Option.map_eq_some_iff.1 hname
    exact ⟨r, there, hreads.mem, hfound, hthere⟩

/-! ## Placing a machine -/

theorem looksAt_cloudService? :
    c.channel.LooksAt (Path.cloudService service) (Option.map CloudService.labelled)
      (c.cloudService? service false deadline) :=
  looksAt_view _

section OnlyAsks

variable {p : Request → Prop}

theorem onlyAsks_lookup (hservice : p (.read (Path.cloudService service))) :
    OnlyAsks p (c.cloudService? service false deadline) :=
  onlyAsks_bind (onlyAsks_getOptional hservice) fun _ => onlyAsks_done _

/-- What is asked for to order a cloud service. -/
theorem onlyAsks_order {affinityGroup : String} (hlist : p (.read Path.cloudServices))
    (hpost : ∀ q : Request, q.method = .post → q.path = Path.cloudServices → p q)
    (hoperation : ∀ id, p (.read (operationPath id))) :
    OnlyAsks p (c.submitCloudService affinityGroup service deadline) :=
  onlyAsks_bind (onlyAsks_get hlist) fun _ =>
    onlyAsks_unlessDone (onlyAsks_create hoperation (hpost _ rfl rfl))

/-- **What is asked for to place a machine**: the service, the slot, and what it
takes to make the service. -/
theorem onlyAsks_placing (hservice : p (.read (Path.cloudService service)))
    (hslot : p (.read (Path.slot service d.slot))) (hlist : p (.read Path.cloudServices))
    (hpost : ∀ q : Request, q.method = .post → q.path = Path.cloudServices → p q)
    (hoperation : ∀ id, p (.read (operationPath id))) :
    OnlyAsks p (c.placed d service deadline) := by
  refine onlyAsks_bind (onlyAsks_lookup hservice) fun found => ?_
  split
  · refine onlyAsks_bind (onlyAsks_deploymentAt? hslot) fun existing => ?_
    cases existing <;> exact onlyAsks_done _
  · refine onlyAsks_bind (onlyAsks_order hlist hpost hoperation) fun action => ?_
    split
    · exact onlyAsks_bind (onlyAsks_awaitState (onlyAsks_lookup hservice)) fun _ =>
        onlyAsks_done _
    · exact onlyAsks_done _

end OnlyAsks

/-- **Where a machine goes** by what was read. -/
inductive Goes (c : Client) (service slot : String) (asked : List Asked) :
    Submission → String → Prop where
  /-- Into the deployment that was found. -/
  | beside {name : String} (hservice : c.ShowsService service asked)
      (hslot : ∀ other, c.ShowsInSlot service slot other asked ↔ other = name) :
      Goes c service slot asked .role name
  /-- Into one of its own, since the slot was not read as holding any. -/
  | apart (hslot : ∀ other, ¬ c.ShowsInSlot service slot other asked) :
      Goes c service slot asked .deployment service

/-- What does not read the slot makes no difference. -/
theorem Goes.append (hgoes : c.Goes service slot asked kind name)
    (havoids : ∀ x ∈ asked', x.1 ≠ .read (Path.slot service slot)) :
    c.Goes service slot (asked ++ asked') kind name := by
  cases hgoes with
  | beside hservice hslot =>
    refine .beside hservice.append_left fun other => ?_
    rw [showsInSlot_append_iff_left havoids, hslot]
  | apart hslot =>
    refine .apart fun other => ?_
    rw [showsInSlot_append_iff_left havoids]
    exact hslot other

/-- What is read elsewhere than in a slot is not read there. -/
theorem read_ne_slot {path : String} (hne : Path.slot service slot ≠ path) :
    Request.read path ≠ .read (Path.slot service slot) :=
  fun heq => hne (congrArg Request.path heq).symm

/-- **A machine goes where the lookups say.** -/
theorem goes_of_placed (hr : Runs (c.placed d service deadline) h (.ok (kind, p))) :
    ∃ name, p.descriptor.deployment = some name ∧ c.Goes service d.slot h.asked kind name := by
  have hlookup : OnlyAsks (· ≠ .read (Path.slot service d.slot))
      (c.cloudService? service false deadline) :=
    onlyAsks_lookup (read_ne_slot (Path.slot_ne_cloudService _ _))
  have horder : OnlyAsks (· ≠ .read (Path.slot service d.slot))
      (c.submitCloudService d.affinityGroup service deadline) := by
    refine onlyAsks_order (read_ne_slot (Path.slot_ne_cloudServices _ _)) ?_
      fun id => read_ne_slot (Path.operationPath_ne_slot id _ _).symm
    rintro _ hpost - rfl
    cases hpost
  obtain ⟨found, h₁, h₂, rfl, hlook, hr⟩ := runs_bind_ok.1 hr
  have havoids₁ : ∀ x ∈ h₁.asked, x.1 ≠ .read (Path.slot service d.slot) :=
    fun x hx => hlookup.of_mem_asked hlook hx
  rw [History.asked_append]
  split at hr
  next hfound =>
    obtain ⟨r, shown, hreads, hshown, rfl⟩ := looksAt_cloudService?.runs_ok hlook
    have hservice : c.ShowsService service h₁.asked := by
      rw [Option.isSome_map] at hfound
      obtain ⟨there, rfl⟩ := Option.isSome_iff_exists.1 hfound
      exact ⟨r, there, hreads.mem, hshown⟩
    obtain ⟨existing, h₃, h₄, rfl, hslot, hr⟩ := runs_bind_ok.1 hr
    obtain ⟨r', shown', hreads', hshown', rfl⟩ := looksAt_deploymentAt?.runs_ok hslot
    have hiff : ∀ other, c.ShowsInSlot service d.slot other (h₁.asked ++ h₃.asked) ↔
        shown'.map (·.name) = some other := fun other => by
      rw [showsInSlot_append_iff_right havoids₁, showsInSlot_iff_of_reads hreads' hshown']
    cases shown' with
    | some there =>
      obtain ⟨rfl, hx⟩ := runs_done.1 hr
      cases hx
      refine ⟨there.name, rfl, .beside (by simpa using hservice.append_left) fun other => ?_⟩
      simpa [eq_comm] using hiff other
    | none =>
      obtain ⟨rfl, hx⟩ := runs_done.1 hr
      cases hx
      exact ⟨service, rfl, .apart fun other => by simpa using hiff other⟩
  next =>
    -- without the service the slot is not read at all
    obtain ⟨action, h₃, h₄, rfl, hsubmit, hr⟩ := runs_bind_ok.1 hr
    have havoids₃ : ∀ x ∈ h₃.asked, x.1 ≠ .read (Path.slot service d.slot) :=
      fun x hx => horder.of_mem_asked hsubmit hx
    split at hr
    · obtain ⟨_, h₅, h₆, rfl, hawait, hr⟩ := runs_bind_ok.1 hr
      have havoids₅ : ∀ x ∈ h₅.asked, x.1 ≠ .read (Path.slot service d.slot) :=
        fun x hx => (onlyAsks_awaitState hlookup).of_mem_asked hawait hx
      obtain ⟨rfl, hx⟩ := runs_done.1 hr
      cases hx
      refine ⟨service, rfl, .apart fun other => not_showsInSlot_of_avoids ?_⟩
      simp only [History.asked_append, List.append_nil, List.forall_mem_append]
      exact ⟨havoids₁, havoids₃, havoids₅⟩
    · obtain ⟨rfl, hx⟩ := runs_done.1 hr
      cases hx
      refine ⟨service, rfl, .apart fun other => not_showsInSlot_of_avoids ?_⟩
      rw [List.append_nil]
      exact List.forall_mem_append.2 ⟨havoids₁, havoids₃⟩

end Client

end CloudOrchestration
