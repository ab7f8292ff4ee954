import CloudOrchestration.Proofs.Provisioning.Race
/-!
# Deployments one after the other

The calls that submit machines and those that delete deployments and roles do
so under the general lock, and while one of them holds it no other asks for
anything, but a provisioning call that has given it back: its machine boots,
gets its disk, or is cleaned up after. So of two machines one is settled before
the other is looked up (`serialized`).
-/

namespace CloudOrchestration

open Workflow Channel Schedule

variable {c : Client} {deadline : Deadline} {service deployment : String} {d : Descriptor}

/-- A call that submits or deletes deployments or roles. -/
inductive DeploymentCall where
  | provision (d : Descriptor)
  | deleteDeployment (service deployment : String)
  | deleteRole (service deployment role : String)

/-- What such a call ends with. -/
inductive DeploymentAnswer where
  | machine (outcome : Except Fault Machine) (d : Descriptor)
  | done (action : Action)

/-- The call itself. -/
def DeploymentCall.run (c : Client) (deadline : Deadline) :
    DeploymentCall → Call DeploymentAnswer
  | provision d => (fun x => .machine x.1 x.2) <$> c.provision d deadline
  | deleteDeployment service deployment =>
    .done <$> c.deleteDeployment service deployment deadline
  | deleteRole service deployment role => .done <$> c.deleteRole service deployment role deadline

/-! ## After the submission -/

/-- A request that submits a machine. -/
def Request.SubmitsMachine (q : Request) : Prop :=
  q.method = .post ∧ ∃ service, q.path = Path.deployments service ∨
    ∃ deployment, q.path = Path.roles service deployment

/-- A request that may follow the submission of a machine: it submits none, and
deletes nothing but the cloud service. -/
def Request.FollowsSubmission (service : String) (q : Request) : Prop :=
  ¬ q.SubmitsMachine ∧ (q.method = .delete → q = Client.deletionOf service)

noncomputable instance : DecidablePred (Request.FollowsSubmission service) := fun _ =>
  Classical.propDecidable _

theorem followsSubmission_read (path : String) :
    (Request.read path).FollowsSubmission service :=
  ⟨fun h => (nomatch h.1), fun h => nomatch h⟩

theorem followsSubmission_deletionOf : (Client.deletionOf service).FollowsSubmission service :=
  ⟨fun h => (nomatch h.1), fun _ => rfl⟩

theorem followsSubmission_dataDisks {q : Request} {name role : String} (hmethod : q.method = .post)
    (hpath : q.path = Path.dataDisks service deployment role) : q.FollowsSubmission name := by
  refine ⟨?_, fun h => by rw [hmethod] at h; cases h⟩
  rintro ⟨-, service', hdeployments | ⟨deployment', hroles⟩⟩
  · exact Path.dataDisks_ne_deployments (hpath.symm.trans hdeployments)
  · exact Path.dataDisks_ne_roles (hpath.symm.trans hroles)

/-- What a call may ask for once it has given the lock back. -/
def DeploymentCall.Late (c : Client) : DeploymentCall → Request → Prop
  | provision d => Request.FollowsSubmission (c.serviceOf d)
  | deleteDeployment _ _ | deleteRole _ _ _ => fun _ => False

noncomputable instance : (call : DeploymentCall) → DecidablePred (call.Late c)
  | .provision d => inferInstanceAs (DecidablePred (Request.FollowsSubmission (c.serviceOf d)))
  | .deleteDeployment _ _ | .deleteRole _ _ _ => inferInstanceAs (DecidablePred fun _ => False)

namespace Client

/-- A machine boots without the general lock, and submits nothing. -/
theorem spares_awaitMachine {name : String} :
    Spares .general (Request.FollowsSubmission service) (c.awaitMachine d name deadline) := by
  have hread : ∀ path, (Request.read path).FollowsSubmission service := followsSubmission_read
  have hdisk : ∀ sizeGb, Spares .general (Request.FollowsSubmission service)
      (c.addDataDisk name (deploymentName d name) d.role d.storageAccount sizeGb deadline) := by
    intro sizeGb
    refine spares_bind (spares_of_onlyAsks onlyAsks_now) fun t => spares_holding nofun ?_
    refine spares_of_onlyAsks (onlyAsks_bind onlyAsks_draw fun number => ?_)
    exact onlyAsks_submitDataDisk (fun _ => hread _) (followsSubmission_dataDisks rfl rfl) (hread _)
  rw [awaitMachine_eq]
  refine spares_bind (spares_of_onlyAsks (onlyAsks_awaitRunning (hread _))) fun _ => ?_
  refine spares_bind (spares_of_onlyAsks (onlyAsks_awaitRole (hread _))) fun machine => ?_
  cases d.dataDiskGb with
  | some sizeGb =>
    exact spares_bind (hdisk sizeGb) fun _ => spares_of_onlyAsks (onlyAsks_ofExcept _)
  | none => exact spares_of_onlyAsks (onlyAsks_ofExcept _)

/-- **Provisioning has its section**, and submits nothing after it. -/
theorem sectioned_provision :
    Obeys (sectioned .general (Request.FollowsSubmission (c.serviceOf d))) .before
      (c.provision d deadline) fun _ _ => True := by
  have hdelete : OnlyAsks (Request.FollowsSubmission (c.serviceOf d))
      (c.deleteCloudService (c.serviceOf d) deadline) :=
    onlyAsks_deleteCloudService followsSubmission_read followsSubmission_deletionOf
  refine obeys_provision_of (P := fun _ => True) trivial trivial (fun budget => ?_)
    (fun _ _ => obeys_of_spares spares_awaitMachine)
    ((obeys_of_spares (spares_of_onlyAsks hdelete)).mono fun _ _ _ => trivial)
  have hbody : OnlyAsks Request.Keeps ((c.resolveAndSubmit deadline).start d) :=
    leavesLocks_resolveAndSubmit _
  refine (obeys_section hbody).mono fun o stage hstage => ⟨?_, trivial⟩
  rintro x rfl
  obtain hafter | ⟨-, fault, hx⟩ := hstage
  · exact hafter
  · cases hx

theorem guarded_deleteDeployment :
    Guarded .general (c.deleteDeployment service deployment deadline) :=
  guarded_exclusively (p := Request.Any) (onlyAsks_bind (onlyAsks_deploymentAt? trivial) fun _ =>
    onlyAsks_unlessDone (onlyAsks_remove (fun _ => trivial) trivial))

theorem guarded_deleteRole {role : String} :
    Guarded .general (c.deleteRole service deployment role deadline) :=
  guarded_exclusively (p := Request.Any) (onlyAsks_bind (onlyAsks_deploymentAt? trivial) fun _ =>
    onlyAsks_unlessDone (onlyAsks_remove (fun _ => trivial) trivial))

/-- **Each of the calls has its section.** -/
theorem sectioned_deploymentCall (call : DeploymentCall) :
    Obeys (sectioned .general (call.Late c)) .before (call.run c deadline) fun _ _ => True := by
  cases call with
  | provision d =>
    exact obeys_bind sectioned_provision (fun _ _ _ => obeys_done trivial) fun _ _ _ => trivial
  | deleteDeployment service deployment =>
    exact (guarded_map _ guarded_deleteDeployment).oneSection
  | deleteRole service deployment role => exact (guarded_map _ guarded_deleteRole).oneSection

theorem disciplined_deploymentCall (call : DeploymentCall) :
    Disciplined (call.run c deadline) := by
  cases call with
  | provision d => exact disciplined_bind disciplined_provision fun _ => disciplined_done _
  | deleteDeployment service deployment =>
    exact (guarded_map _ guarded_deleteDeployment).disciplined
  | deleteRole service deployment role => exact (guarded_map _ guarded_deleteRole).disciplined

/-- **The section of a provisioning call** is a run of its submission, from the
first lookup on. -/
theorem sights_provision {h : History Request (Except Fault Response)}
    {o : Except Fault (Except Fault Machine × Descriptor)} (hr : Runs (c.provision d deadline) h o)
    (hreleased : .released .general ∈ h.sights) :
    ∃ h' o' rest, Runs ((c.resolveAndSubmit deadline).start d) h' o' ∧
      h.sights = .acquired .general :: h'.sights ++ .released .general :: rest := by
  obtain ⟨start, rest, rfl, hstart⟩ := runs_now_bind.1 hr
  split at hstart
  · obtain ⟨rfl, -⟩ := runs_done.1 hstart
    simp at hreleased
  · obtain ⟨x, h₁, h₂, rfl, hsubmit, hend⟩ := runs_attempt_bind.1 hstart
    obtain ⟨h', rfl, hsaga⟩ | ⟨rfl, rfl⟩ := runs_holding.1 hsubmit
    · exact ⟨h', x, h₂.sights, hsaga, by simp⟩
    · -- without the lock nothing more is done
      obtain ⟨rfl, -⟩ := runs_done.1 hend
      simp at hreleased

/-! ## Any order of steps -/

/-- One provisioning call is settled before another asks for anything: what is
seen begins with the whole submission of the one, and with nothing that the
other asks for. -/
def SettledBefore (c : Client) (d : Descriptor) (deadline : Deadline) (i j : Nat)
    (seen : List (Nat × Sight Request (Except Fault Response))) : Prop :=
  ∃ l₁ l₂ h o rest, seen = l₁ ++ l₂ ∧ Runs ((c.resolveAndSubmit deadline).start d) h o ∧
    sightsOf i l₁ = .acquired .general :: h.sights ++ .released .general :: rest ∧
    ∀ q r, .asked q r ∉ sightsOf j l₁

/-- **What is seen of the calls, if they are serialized.** -/
structure Serialized (c : Client) (calls : List (DeploymentCall × Deadline))
    (seen : List (Nat × Sight Request (Except Fault Response))) : Prop where
  /-- A machine is submitted under the lock. -/
  submissions : ∀ {n i q r}, seen[n]? = some (i, .asked q r) → q.SubmitsMachine →
    Sight.holds .general (sightsOf i (seen.take n))
  /-- So is everything deleted, but for the cloud service of a machine that has
  been submitted. -/
  deletions : ∀ {n i q r}, seen[n]? = some (i, .asked q r) → q.method = .delete →
    Sight.holds .general (sightsOf i (seen.take n)) ∨
      ∃ d deadline, calls[i]? = some (.provision d, deadline) ∧
        q = deletionOf (c.serviceOf d) ∧ .released .general ∈ sightsOf i (seen.take n)
  /-- While one holds the lock the others ask for nothing, but for machines that
  have been submitted. -/
  alone : ∀ {n i j q r}, seen[n]? = some (i, .asked q r) → i ≠ j →
    Sight.holds .general (sightsOf j (seen.take n)) →
      ∃ d deadline, calls[i]? = some (.provision d, deadline) ∧
        .released .general ∈ sightsOf i (seen.take n)
  /-- Of two machines one is settled before the other is looked up. -/
  inTurn : ∀ {i j d d' deadline deadline'}, i ≠ j →
    calls[i]? = some (.provision d, deadline) → calls[j]? = some (.provision d', deadline') →
    .acquired .general ∈ sightsOf i seen → .acquired .general ∈ sightsOf j seen →
      SettledBefore c d deadline i j seen ∨ SettledBefore c d' deadline' j i seen

section AnyOrder

variable {σ : Type} {server : Server σ Request (Except Fault Response)} {w : World σ}
variable {calls : List (DeploymentCall × Deadline)} {n i j : Nat}
variable {s : Schedule σ Request (Except Fault Response) DeploymentAnswer}

theorem disciplined_of_mem : ∀ wf ∈ calls.map fun x => x.1.run c x.2, Disciplined wf :=
  List.forall_mem_map.2 fun x _ => disciplined_deploymentCall x.1

theorem getElem?_run {a : DeploymentCall × Deadline} (hi : calls[i]? = some a) :
    (calls.map fun x => x.1.run c x.2)[i]? = some (a.1.run c a.2) := by
  rw [List.getElem?_map, hi]
  rfl

/-- **Who asks for something** does so under the lock, or is a provisioning
call that has given it back. -/
theorem inside_or_follows
    (hr : Reaches server (Schedule.start w (calls.map fun x => x.1.run c x.2)) s)
    {q : Request} {r : Except Fault Response} (hn : s.seen[n]? = some (i, .asked q r)) :
    Sight.holds .general (sightsOf i (s.seen.take n)) ∨
      ∃ d deadline, calls[i]? = some (.provision d, deadline) ∧
        q.FollowsSubmission (c.serviceOf d) ∧ .released .general ∈ sightsOf i (s.seen.take n) := by
  have hlt := hr.lt_of_mem_seen (List.mem_of_getElem? hn)
  rw [List.length_map] at hlt
  obtain ⟨⟨call, deadline⟩, hi⟩ : ∃ a, calls[i]? = some a := ⟨_, List.getElem?_eq_getElem hlt⟩
  refine (hr.inside_or_late (getElem?_run hi) (sectioned_deploymentCall call) hn).imp_right ?_
  rintro ⟨hlate, hreleased⟩
  cases call with
  | provision d => exact ⟨d, deadline, hi, hlate, hreleased⟩
  | deleteDeployment | deleteRole => exact hlate.elim

/-- Before it obtains the lock a call has not asked for anything. -/
theorem silent_of_acquired
    (hr : Reaches server (Schedule.start w (calls.map fun x => x.1.run c x.2)) s)
    {a : DeploymentCall × Deadline} (hj : calls[j]? = some a)
    {l₁ l₂ : List (Nat × Sight Request (Except Fault Response))}
    (hseen : s.seen = l₁ ++ (j, .acquired .general) :: l₂) (q : Request)
    (r : Except Fault Response) : .asked q r ∉ sightsOf j l₁ := by
  have hn : s.seen[l₁.length]? = some (j, .acquired .general) := by simp [hseen]
  have htake : s.seen.take l₁.length = l₁ := by simp [hseen]
  obtain ⟨stage, hstage⟩ := hr.sectioned_upTo (getElem?_run hj) (sectioned_deploymentCall a.1) hn
  rw [htake] at hstage
  exact silent_before_acquired hstage q r

/-- A machine that has given the lock back has been submitted, and nothing was
seen of its call before. -/
theorem submitted_of_released
    (hr : Reaches server (Schedule.start w (calls.map fun x => x.1.run c x.2)) s)
    (hi : calls[i]? = some (.provision d, deadline))
    {l₁ l₂ : List (Nat × Sight Request (Except Fault Response))} (hseen : s.seen = l₁ ++ l₂)
    (hreleased : .released .general ∈ sightsOf i l₁) :
    ∃ h o rest, Runs ((c.resolveAndSubmit deadline).start d) h o ∧
      sightsOf i l₁ = .acquired .general :: h.sights ++ .released .general :: rest := by
  obtain ⟨h, o, after, hrun, hsights⟩ := hr.run_from (getElem?_run hi)
  obtain ⟨o', hprovision, -⟩ := runs_map hrun
  rw [hseen, sightsOf_append, List.append_assoc] at hsights
  have hmem : .released .general ∈ h.sights := by
    rw [hsights]
    exact List.mem_append_left _ hreleased
  obtain ⟨saga, r, rest, hsaga, hsection⟩ := sights_provision hprovision hmem
  -- nothing but requests is seen of the submission itself
  have hasks : OnlyAsks Request.Keeps ((c.resolveAndSubmit deadline).start d) :=
    leavesLocks_resolveAndSubmit _
  have hinside : .released .general ∉ .acquired .general :: saga.sights := by
    intro hx
    obtain hx | hx := List.mem_cons.1 hx
    · cases hx
    · obtain ⟨_, _, hx, -⟩ := hasks saga r hsaga _ hx
      cases hx
  obtain ⟨rest', hbegins⟩ := exists_eq_append_cons (hsights.symm.trans hsection) hreleased hinside
  exact ⟨saga, r, rest', hsaga, hbegins⟩

/-- So it was settled before another that obtained the lock afterwards. -/
theorem settledBefore_of_released
    (hr : Reaches server (Schedule.start w (calls.map fun x => x.1.run c x.2)) s)
    {a : DeploymentCall × Deadline} (hi : calls[i]? = some (.provision d, deadline))
    (hj : calls[j]? = some a)
    {l₁ l₂ : List (Nat × Sight Request (Except Fault Response))}
    (hseen : s.seen = l₁ ++ (j, .acquired .general) :: l₂)
    (hreleased : .released .general ∈ sightsOf i l₁) : SettledBefore c d deadline i j s.seen := by
  obtain ⟨h, o, rest, hrun, hsights⟩ := submitted_of_released hr hi hseen hreleased
  exact ⟨l₁, _, h, o, rest, hseen, hrun, hsights, silent_of_acquired hr hj hseen⟩

/-- **Deployments are serialized** under any order of steps. -/
theorem serialized
    (hr : Reaches server (Schedule.start w (calls.map fun x => x.1.run c x.2)) s) :
    Serialized c calls s.seen where
  submissions hn hq := by
    refine (inside_or_follows hr hn).resolve_right ?_
    rintro ⟨d, deadline, -, hfollows, -⟩
    exact hfollows.1 hq
  deletions hn hq := by
    refine (inside_or_follows hr hn).imp_right ?_
    rintro ⟨d, deadline, hi, hfollows, hreleased⟩
    exact ⟨d, deadline, hi, hfollows.2 hq, hreleased⟩
  alone hn hne hholds := by
    obtain ⟨_, hrow⟩ := (hr.interleaves disciplined_of_mem).take _
    obtain hinside | ⟨d, deadline, hi, -, hreleased⟩ := inside_or_follows hr hn
    · exact absurd (hrow.exclusive hinside hholds) hne
    · exact ⟨d, deadline, hi, hreleased⟩
  inTurn hne hi hj hacquired hacquired' := by
    have hrow := hr.interleaves disciplined_of_mem
    obtain ⟨l₁, l₂, hseen, hreleased⟩ | ⟨l₁, l₂, hseen, hreleased⟩ :=
      hrow.in_turn hne hacquired hacquired'
    · exact .inl (settledBefore_of_released hr hi hj hseen hreleased)
    · exact .inr (settledBefore_of_released hr hj hi hseen hreleased)

end AnyOrder

/-! ## Two machines and a deletion -/

/-- The two machines of the race, and a call that deletes a deployment. -/
def contenders : List (DeploymentCall × Deadline) :=
  racers.map (fun x => (.provision x.1, x.2)) ++ [(.deleteDeployment "w" "w", ⟨400000⟩)]

/-- All of them on their way. -/
def contending : Schedule Script Request (Except Fault Response) DeploymentAnswer :=
  (Schedule.start { server := racingScript }
    (contenders.map fun x => x.1.run plainClient x.2)).advance Script.respond 34

/-- Each of them has had the lock in its turn. -/
theorem serialized_contending : Serialized plainClient contenders contending.seen ∧
    Sight.holds .general (sightsOf 0 (contending.seen.take 7)) ∧
    Sight.holds .general (sightsOf 1 (contending.seen.take 18)) ∧
    Sight.holds .general (sightsOf 2 (contending.seen.take 20)) := by
  have hreaches : Reaches Script.respond (Schedule.start { server := racingScript }
      (contenders.map fun x => x.1.run plainClient x.2)) contending := Reaches.start.advance 34
  refine ⟨serialized hreaches, ?_⟩
  decide +kernel

end Client

end CloudOrchestration
