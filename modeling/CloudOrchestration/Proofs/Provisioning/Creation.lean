import CloudOrchestration.Proofs.Channel.Looks
import CloudOrchestration.Proofs.Client.Steps
import CloudOrchestration.Proofs.Provisioning.Saga
/-!
# Which machine made the cloud service

The progress of a saga says that the cloud service was made for this machine;
the requests say the same: the service was ordered, the order accepted, and
its operation seen to succeed (`Client.Made`). The two agree at every end of
the saga, whichever step it is (`Client.ensures_resolveAndSubmit`). No step of
the saga deletes anything.
-/

namespace CloudOrchestration

open Workflow Channel

variable {α : Type} {c : Client} {deadline : Deadline} {service : String}
variable {h : History Request (Except Fault Response)}

/-- A request that neither orders a cloud service nor deletes anything. -/
def Request.IsQuiet (q : Request) : Prop :=
  q.method ≠ .delete ∧ (q.method = .post → q.path ≠ Path.cloudServices)

theorem isQuiet_read (path : String) : (Request.read path).IsQuiet :=
  ⟨(nomatch ·), fun h => nomatch h⟩

/-- A request that deletes nothing and is not about the listing of the cloud
services at all. -/
def Request.AvoidsListing (q : Request) : Prop :=
  q.method ≠ .delete ∧ q.path ≠ Path.cloudServices

theorem Request.AvoidsListing.isQuiet {q : Request} (hq : q.AvoidsListing) : q.IsQuiet :=
  ⟨hq.1, fun _ => hq.2⟩

theorem avoidsListing_read {path : String} (hp : path ≠ Path.cloudServices) :
    (Request.read path).AvoidsListing :=
  ⟨(nomatch ·), hp⟩

theorem avoidsListing_post {q : Request} (hm : q.method = .post)
    (hp : q.path ≠ Path.cloudServices) : q.AvoidsListing :=
  ⟨by simp [hm], hp⟩

/-- Nothing was deleted. -/
def DeletesNothing (asked : List Asked) : Prop := ∀ x ∈ asked, x.1.method ≠ .delete

theorem deletesNothing_append {asked asked' : List Asked} :
    DeletesNothing (asked ++ asked') ↔ DeletesNothing asked ∧ DeletesNothing asked' :=
  List.forall_mem_append

/-- Whether an answer accepts the request. -/
def isAccepted : Except Fault Response → Bool
  | .ok r => r.isSuccess
  | .error _ => false

theorem isAccepted_iff {answer : Except Fault Response} :
    isAccepted answer ↔ ∃ r : Response, answer = .ok r ∧ r.isSuccess := by
  cases answer <;> simp [isAccepted]

/-- The deletions that were accepted. -/
def acceptedDeletions (asked : List Asked) : List Asked :=
  asked.filter fun x => x.1.method = .delete ∧ isAccepted x.2

@[simp] theorem acceptedDeletions_append {asked asked' : List Asked} :
    acceptedDeletions (asked ++ asked') = acceptedDeletions asked ++ acceptedDeletions asked' :=
  List.filter_append ..

theorem acceptedDeletions_of_deletesNothing {asked : List Asked} (hd : DeletesNothing asked) :
    acceptedDeletions asked = [] := by
  refine List.filter_eq_nil_iff.2 fun x hx => ?_
  simp [hd x hx]

section AcceptedOf

variable {p : Request → Prop} [DecidablePred p] {asked asked' : List Asked}

/-- The requests of a kind that were accepted. -/
def acceptedOf (p : Request → Prop) [DecidablePred p] (asked : List Asked) : List Asked :=
  asked.filter fun x => p x.1 ∧ isAccepted x.2

@[simp] theorem acceptedOf_append :
    acceptedOf p (asked ++ asked') = acceptedOf p asked ++ acceptedOf p asked' :=
  List.filter_append ..

theorem mem_acceptedOf {x : Asked} :
    x ∈ acceptedOf p asked ↔ x ∈ asked ∧ p x.1 ∧ isAccepted x.2 := by
  simp [acceptedOf]

/-- Where no second request was accepted, one that was is all. -/
theorem acceptedOf_eq_singleton {x : Asked} (hone : (acceptedOf p asked).length ≤ 1)
    (hx : x ∈ acceptedOf p asked) : acceptedOf p asked = [x] := by
  have hpos := List.length_pos_of_mem hx
  obtain ⟨y, hy⟩ := List.length_eq_one_iff.1 (by omega : (acceptedOf p asked).length = 1)
  rw [hy] at hx ⊢
  rw [List.mem_singleton.1 hx]

theorem acceptedOf_of_forall_not (hnone : ∀ x ∈ asked, ¬ p x.1) : acceptedOf p asked = [] := by
  refine List.filter_eq_nil_iff.2 fun x hx => ?_
  simp [hnone x hx]

/-- Only the last try of a change can be accepted: the others met a
conflict. -/
theorem Channel.Submits.acceptedOf_eq {channel : Channel} {q : Request}
    {answer : Except Fault Response} (hs : channel.Submits q asked answer) :
    acceptedOf p asked = acceptedOf p [(q, answer)] := by
  obtain ⟨conflicts, hall, rfl⟩ := hs
  have hnone : acceptedOf p (conflicts.map fun r => (q, .ok r)) = [] := by
    refine List.filter_eq_nil_iff.2 fun x hx => ?_
    obtain ⟨r, hr, rfl⟩ := List.mem_map.1 hx
    obtain ⟨rejection, hj⟩ := hall r hr
    have hfailure : r.isSuccess = false :=
      Bool.eq_false_iff.2 fun hsuccess => by simp [Wire.judge_success hsuccess] at hj
    simp [isAccepted, hfailure]
  rw [acceptedOf_append, hnone, List.nil_append]

/-- A read has nothing accepted. -/
theorem Channel.Reads.acceptedOf_eq_nil {path : String} {answer : Except Fault Response}
    (hreads : Reads path asked answer) (hread : ∀ path, ¬ p (.read path)) :
    acceptedOf p asked = [] :=
  acceptedOf_of_forall_not fun _ hx => hreads.request_eq hx ▸ hread path

/-- **A change that is waited for is accepted at most once.** -/
theorem Channel.Performs.length_acceptedOf_le {channel : Channel} {q : Request}
    {o : Except Fault Unit} (hp : channel.Performs q asked o)
    (hread : ∀ path, ¬ p (.read path)) : (acceptedOf p asked).length ≤ 1 := by
  cases hp with
  | unsent => simp [acceptedOf]
  | refused hs =>
    rw [hs.acceptedOf_eq]
    exact List.length_filter_le ..
  | started hs _ hreads =>
    -- waiting for the operation only reads
    have hnone := acceptedOf_of_forall_not fun x hx => hreads x hx ▸ hread _
    rw [acceptedOf_append, hnone, List.append_nil, hs.acceptedOf_eq]
    exact List.length_filter_le ..

/-- The same where its effect is waited for as well. -/
theorem Channel.BringsAbout.length_acceptedOf_le {α β : Type} [Document α] {channel : Channel}
    {q : Request} {path what : String} {judge : Option α → Readiness β} {o : Except Fault β}
    (hs : channel.BringsAbout q path what judge asked o) (hread : ∀ path, ¬ p (.read path)) :
    (acceptedOf p asked).length ≤ 1 := by
  cases hs with
  | refused hp => exact hp.length_acceptedOf_le hread
  | awaited hp hw =>
    have hnone := acceptedOf_of_forall_not fun x hx => hw.request_eq hx ▸ hread _
    rw [acceptedOf_append, hnone, List.append_nil]
    exact hp.length_acceptedOf_le hread

end AcceptedOf

/-- Nothing but reads of resources that are no operations. -/
def LooksUp (asked : List Asked) : Prop :=
  ∀ x ∈ asked, ∃ path, x.1 = .read path ∧ ∀ id, operationPath id ≠ path

theorem LooksUp.quiet {asked : List Asked} (ha : LooksUp asked) : ∀ x ∈ asked, x.1.IsQuiet := by
  intro x hx
  obtain ⟨path, hq, -⟩ := ha x hx
  rw [hq]
  exact isQuiet_read path

theorem Channel.Reads.looksUp {path : String} {asked : List Asked}
    {answer : Except Fault Response} (hr : Reads path asked answer)
    (hp : ∀ id, operationPath id ≠ path) : LooksUp asked :=
  fun _ hx => ⟨path, hr.request_eq hx, hp⟩

namespace Client

/-- **A cloud service was made**: it was ordered, the order was accepted, and
its operation was seen to succeed. -/
def Made (c : Client) (asked : List Asked) : Prop :=
  ∃ q r id, (q, .ok r) ∈ asked ∧ q.method = .post ∧ q.path = Path.cloudServices ∧
    r.isSuccess ∧ r.requestId = some id ∧ c.channel.Succeeded id asked

theorem not_made_of_quiet {asked : List Asked} (hq : ∀ x ∈ asked, x.1.IsQuiet) :
    ¬ c.Made asked := by
  rintro ⟨q, r, id, hx, hmethod, hpath, -⟩
  exact (hq _ hx).2 hmethod hpath

theorem Made.append_left {asked asked' : List Asked} (hm : c.Made asked) :
    c.Made (asked ++ asked') := by
  obtain ⟨q, r, id, hx, hmethod, hpath, hsuccess, hid, hsucceeded⟩ := hm
  exact ⟨q, r, id, List.mem_append_left _ hx, hmethod, hpath, hsuccess, hid,
    hsucceeded.append_left⟩

/-- What was looked up before makes no difference. -/
theorem made_append_of_looksUp {asked asked' : List Asked} (ha : LooksUp asked) :
    c.Made (asked ++ asked') ↔ c.Made asked' := by
  constructor
  · rintro ⟨q, r, id, hx, hmethod, hpath, hsuccess, hid, r', report, hx', hreport⟩
    -- neither the order nor the report on it is among what was looked up
    have hx₂ : (q, .ok r) ∈ asked' := by
      rcases List.mem_append.1 hx with hx | hx
      · exact absurd hpath ((ha.quiet _ hx).2 hmethod)
      · exact hx
    have hx₃ : (Request.read (operationPath id), .ok r') ∈ asked' := by
      rcases List.mem_append.1 hx' with hx' | hx'
      · obtain ⟨path, hq, hne⟩ := ha _ hx'
        exact absurd (congrArg Request.path hq) (hne id)
      · exact hx'
    exact ⟨q, r, id, hx₂, hmethod, hpath, hsuccess, hid, r', report, hx₃, hreport⟩
  · rintro ⟨q, r, id, hx, hmethod, hpath, hsuccess, hid, hsucceeded⟩
    exact ⟨q, r, id, List.mem_append_right _ hx, hmethod, hpath, hsuccess, hid,
      hsucceeded.append_right⟩

/-- **The progress tells what the requests tell.** So long as no service was
ordered there is nothing to tell; one whose making was not seen to succeed has
ended the saga. -/
inductive Tells (c : Client) (service : String) (asked : List Asked) (ok : Bool) :
    Option String → Prop where
  | nothing (hq : ∀ x ∈ asked, x.1.IsQuiet) : Tells c service asked ok none
  | refused (hok : ok = false) (hd : DeletesNothing asked) (hm : ¬ c.Made asked) :
      Tells c service asked ok none
  | made (hd : DeletesNothing asked) (hm : c.Made asked) : Tells c service asked ok (some service)

namespace Tells

variable {asked asked' : List Asked} {ok ok' : Bool} {created : Option String}

theorem deletesNothing (ht : c.Tells service asked ok created) : DeletesNothing asked := by
  cases ht with
  | nothing hq => exact fun x hx => (hq x hx).1
  | refused _ hd _ => exact hd
  | made hd _ => exact hd

theorem made_of_some {name : String} (ht : c.Tells service asked ok (some name)) :
    name = service ∧ c.Made asked := by
  cases ht with
  | made _ hm => exact ⟨rfl, hm⟩

theorem not_made_of_none (ht : c.Tells service asked ok none) : ¬ c.Made asked := by
  cases ht with
  | nothing hq => exact not_made_of_quiet hq
  | refused _ _ hm => exact hm

/-- Quiet requests change nothing. -/
theorem append (ht : c.Tells service asked true created) (hq : ∀ x ∈ asked', x.1.IsQuiet) :
    c.Tells service (asked ++ asked') ok created := by
  have hd : DeletesNothing asked' := fun x hx => (hq x hx).1
  cases ht with
  | nothing hq₁ => exact .nothing (List.forall_mem_append.2 ⟨hq₁, hq⟩)
  | refused hok => cases hok
  | made hd₁ hm => exact .made (deletesNothing_append.2 ⟨hd₁, hd⟩) hm.append_left

/-- Nor does what was looked up before. -/
theorem of_looksUp (ha : LooksUp asked) (ht : c.Tells service asked' ok created) :
    c.Tells service (asked ++ asked') ok created := by
  have hd : DeletesNothing asked := fun x hx => (ha.quiet x hx).1
  cases ht with
  | nothing hq => exact .nothing (List.forall_mem_append.2 ⟨ha.quiet, hq⟩)
  | refused hok hd' hm =>
    exact .refused hok (deletesNothing_append.2 ⟨hd, hd'⟩) fun h =>
      hm ((made_append_of_looksUp ha).1 h)
  | made hd' hm =>
    exact .made (deletesNothing_append.2 ⟨hd, hd'⟩) ((made_append_of_looksUp ha).2 hm)

end Tells

/-! ## The steps -/

theorem runs_cloudServices {o : Except Fault CloudServices}
    (hr : Runs (c.cloudServices deadline) h o) : LooksUp h.asked := by
  obtain ⟨answer, hreads, -⟩ := runs_get hr
  exact hreads.looksUp Path.operationPath_ne_cloudServices

theorem runs_cloudService? {o : Except Fault (Option CloudService)}
    (hr : Runs (c.cloudService? service false deadline) h o) : LooksUp h.asked := by
  have hreads : ∃ answer, Reads (Path.cloudService service) h.asked answer := by
    obtain ⟨found, h₁, h₂, rfl, hget, hr⟩ | ⟨fault, rfl, hget⟩ := runs_bind.1 hr
    · obtain ⟨rfl, -⟩ := runs_done.1 hr
      obtain ⟨answer, hreads, -⟩ := runs_getOptional hget
      exact ⟨answer, by simpa using hreads⟩
    · obtain ⟨answer, hreads, -⟩ := runs_getOptional hget
      exact ⟨answer, hreads⟩
  obtain ⟨answer, hreads⟩ := hreads
  exact hreads.looksUp fun id => Path.operationPath_ne_cloudService id service

/-- **Ordering a cloud service** answers that it was created just if it was
made. -/
theorem runs_submitCloudService {affinityGroup : String} {o : Except Fault Action}
    (hr : Runs (c.submitCloudService affinityGroup service deadline) h o) :
    (o = .ok .create ∧ DeletesNothing h.asked ∧ c.Made h.asked) ∨
      (o = .ok .unchanged ∧ ∀ x ∈ h.asked, x.1.IsQuiet) ∨
        ∃ fault, o = .error fault ∧ DeletesNothing h.asked ∧ ¬ c.Made h.asked := by
  obtain ⟨services, h₁, h₂, rfl, hlist, hr⟩ | ⟨fault, rfl, hlist⟩ := runs_bind.1 hr
  · have hlookup := runs_cloudServices hlist
    have hd₁ : DeletesNothing h₁.asked := fun x hx => (hlookup.quiet x hx).1
    rw [History.asked_append, made_append_of_looksUp hlookup]
    obtain ⟨-, rfl, rfl⟩ | ⟨-, r, hcreate, rfl⟩ := runs_unlessDone hr
    · exact .inr (.inl ⟨rfl, by simpa using hlookup.quiet⟩)
    · have hp := runs_create hcreate
      have hd₂ : DeletesNothing h₂.asked := by
        intro x hx
        rcases hp.request_eq hx with hq | ⟨id, hq⟩ <;> rw [hq] <;> exact (nomatch ·)
      have hd := deletesNothing_append.2 ⟨hd₁, hd₂⟩
      -- the order is the only change, so the service was made just if it ended well
      have hiff : r = .ok () ↔ c.Made h₂.asked := by
        rw [hp.eq_ok_iff rfl]
        constructor
        · rintro ⟨r, id, hx, hsuccess, hid, hsucceeded⟩
          exact ⟨_, r, id, hx, rfl, rfl, hsuccess, hid, hsucceeded⟩
        · rintro ⟨q, r, id, hx, hmethod, -, hsuccess, hid, hsucceeded⟩
          rcases hp.request_eq hx with rfl | ⟨id', rfl⟩
          · exact ⟨r, id, hx, hsuccess, hid, hsucceeded⟩
          · cases hmethod
      cases r with
      | ok u => exact .inl ⟨rfl, hd, hiff.1 rfl⟩
      | error fault => exact .inr (.inr ⟨fault, rfl, hd, fun hm => nomatch hiff.2 hm⟩)
  · have hlookup := runs_cloudServices hlist
    exact .inr (.inr ⟨fault, rfl, fun x hx => (hlookup.quiet x hx).1,
      not_made_of_quiet hlookup.quiet⟩)

theorem onlyAsks_deploymentAt? {p : Request → Prop} {path : String} (hp : p (.read path)) :
    OnlyAsks p (c.deploymentAt? service path deadline) :=
  onlyAsks_bind (onlyAsks_getOptional hp) fun _ => onlyAsks_done _

theorem onlyAsks_cloudService? {p : Request → Prop} {detail : Bool}
    (hread : ∀ path, p (.read path)) : OnlyAsks p (c.cloudService? service detail deadline) :=
  onlyAsks_bind (onlyAsks_getOptional (hread _)) fun _ => onlyAsks_done _

theorem onlyAsks_awaitCreated {p : Request → Prop} (hread : ∀ path, p (.read path)) :
    OnlyAsks p (c.awaitCreated service deadline) :=
  onlyAsks_awaitState (onlyAsks_cloudService? hread)

theorem onlyAsks_firstAvailable {p : Request → Prop} {network : String}
    (hread : ∀ path, p (.read path)) (candidates : List String) :
    OnlyAsks p (c.firstAvailable network deadline candidates) := by
  induction candidates with
  | nil => exact onlyAsks_done _
  | cons address rest ih =>
    refine onlyAsks_bind (onlyAsks_get (hread _)) fun a => ?_
    split
    · exact onlyAsks_done _
    · exact ih

theorem onlyAsks_reserveAddress {p : Request → Prop} {d : Descriptor}
    (hread : ∀ path, p (.read path)) : OnlyAsks p (c.reserveAddress d deadline) := by
  unfold reserveAddress
  split
  · exact onlyAsks_fail _
  · refine onlyAsks_bind (onlyAsks_firstAvailable hread _) fun found => ?_
    split
    · exact onlyAsks_fail _
    · refine onlyAsks_bind (onlyAsks_topology (hread _)) fun t => ?_
      dsimp only
      split
      · exact onlyAsks_fail _
      · exact onlyAsks_done _

theorem onlyAsks_submitMachine {d : Descriptor} {submission : Submission} :
    OnlyAsks Request.IsQuiet (c.submitMachine d service submission deadline) := by
  cases submission with
  | role =>
    exact onlyAsks_create (fun _ => isQuiet_read _)
      (avoidsListing_post rfl (Path.roles_ne_cloudServices _ _)).isQuiet
  | deployment =>
    exact onlyAsks_create (fun _ => isQuiet_read _)
      (avoidsListing_post rfl (Path.deployments_ne_cloudServices _)).isQuiet

theorem asks_exclusively {p : Request → Prop} {d : Domain} {body : Call α}
    (hbody : Asks p body) : Asks p (exclusively d deadline body) :=
  asks_bind onlyAsks_now.asks fun _ => asks_holding hbody

/-! ## The machine -/

theorem avoidsListing_operation (id : String) :
    (Request.read (operationPath id)).AvoidsListing :=
  avoidsListing_read (Path.operationPath_ne_cloudServices id)

theorem onlyAsks_submitDataDisk {p : Request → Prop} {deployment role : String} {disk : DataDisk}
    (hoperation : ∀ id, p (.read (operationPath id)))
    (hsend : p (c.channel.sending .post (Path.dataDisks service deployment role) disk
      c.channel.wire.contentType))
    (hlook : p (.read (Path.dataDisk service deployment role disk.lun))) :
    OnlyAsks p (c.submitDataDisk service deployment role disk deadline) :=
  onlyAsks_bind (onlyAsks_create hoperation hsend) fun _ =>
    onlyAsks_awaitState (onlyAsks_getOptional hlook)

theorem asks_addDataDisk {deployment role account : String} {sizeGb : UInt32} :
    Asks Request.AvoidsListing
      (c.addDataDisk service deployment role account sizeGb deadline) := by
  refine asks_exclusively (asks_bind onlyAsks_draw.asks fun _ => ?_)
  have hsubmit : ∀ disk, OnlyAsks Request.AvoidsListing
      (c.submitDataDisk service deployment role disk deadline) := fun disk =>
    onlyAsks_submitDataDisk avoidsListing_operation
      (avoidsListing_post rfl (Path.dataDisks_ne_cloudServices _ _ _))
      (avoidsListing_read (Path.dataDisk_ne_cloudServices _ _ _ _))
  exact (hsubmit _).asks

theorem onlyAsks_awaitRunning {p : Request → Prop} {deployment : String}
    (hlook : p (.read (Path.deployment service deployment))) :
    OnlyAsks p (c.awaitRunning service deployment deadline) :=
  onlyAsks_awaitState (onlyAsks_deploymentAt? hlook)

theorem onlyAsks_awaitRole {p : Request → Prop} {deployment role : String}
    (hlook : p (.read (Path.deployment service deployment))) :
    OnlyAsks p (c.awaitRole service deployment role deadline) :=
  onlyAsks_awaitState (onlyAsks_deploymentAt? hlook)

/-- The machine of a descriptor, as a deployment shows it. -/
def machineIn (d : Descriptor) (service : String) (deployment : Deployment) :
    Except Fault Machine :=
  match deployment.instance? d.role with
  | none => .error (.invalidState (.roleGone d.role (deploymentName d service)))
  | some i => .ok {
      role := i.role
      service
      deployment := deploymentName d service
      privateAddress := i.address
      publicAddress := (deployment.role? d.role).bind (·.publicAddress?) }

/-- **A machine boots** in two steps, and gets its data disk if one is
asked for. -/
theorem awaitMachine_eq (c : Client) (d : Descriptor) (service : String) (deadline : Deadline) :
    c.awaitMachine d service deadline =
      (c.awaitRunning service (deploymentName d service) deadline).bind fun _ =>
        (c.awaitRole service (deploymentName d service) d.role deadline).bind fun deployment =>
          match d.dataDiskGb with
          | some sizeGb =>
            (c.addDataDisk service (deploymentName d service) d.role d.storageAccount sizeGb
              deadline).bind fun _ => ofExcept (machineIn d service deployment)
          | none => ofExcept (machineIn d service deployment) := by
  simp only [awaitMachine, bind_eq, pure_eq]
  congr 1
  funext _
  congr 1
  funext deployment
  -- the ends agree case by case, with a data disk and without
  unfold machineIn
  cases d.dataDiskGb with
  | none => cases deployment.instance? d.role <;> rfl
  | some sizeGb =>
    dsimp only
    congr 1
    funext _
    cases deployment.instance? d.role <;> rfl

/-- A machine that boots deletes nothing, and leaves the listing of the cloud
services alone. -/
theorem asks_awaitMachine {d : Descriptor} :
    Asks Request.AvoidsListing (c.awaitMachine d service deadline) := by
  rw [awaitMachine_eq]
  have hlook : (Request.read (Path.deployment service (deploymentName d service))).AvoidsListing :=
    avoidsListing_read (Path.deployment_ne_cloudServices _ _)
  refine asks_bind (onlyAsks_awaitRunning hlook).asks fun _ => ?_
  refine asks_bind (onlyAsks_awaitRole hlook).asks fun deployment => ?_
  cases d.dataDiskGb with
  | some sizeGb => exact asks_bind asks_addDataDisk fun _ => (onlyAsks_ofExcept _).asks
  | none => exact (onlyAsks_ofExcept _).asks

end Client

end CloudOrchestration
