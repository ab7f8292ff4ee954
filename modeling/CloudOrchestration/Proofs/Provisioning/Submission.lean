import CloudOrchestration.Proofs.Provisioning.Placing
import CloudOrchestration.Proofs.Provisioning.Serial
/-!
# What a provisioning call submits

Of all its requests that submit a machine, a provisioning call sends only the
one that was settled on the way, for its own machine (`submits_of_provision`).
-/

namespace CloudOrchestration

open Workflow Channel Schedule

variable {c : Client} {d : Descriptor} {service : String} {deadline : Deadline}
variable {h : History Request (Except Fault Response)} {q : Request} {r : Except Fault Response}

theorem not_submitsMachine_read (path : String) : ¬ (Request.read path).SubmitsMachine :=
  fun h => nomatch h.1

/-- What leaves a lock alone asks only for what it may. -/
theorem Workflow.Spares.asks {α : Type} {domain : Domain} {p : Request → Prop} {w : Call α}
    (hw : Spares domain p w) : Asks p w := by
  rintro h o hr ⟨q, r⟩ hx
  exact hw h o hr _ (History.mem_asked.1 hx)

namespace Client

/-- **The request that submits a machine**, with what was settled about it. -/
def Submits (c : Client) (d : Descriptor) (q : Request) : Prop :=
  ∃ d' kind, d'.SettledFrom d (c.serviceOf d) ∧ q = c.submissionOf d' (c.serviceOf d) kind

/-- Nothing is submitted while the deployment is settled. -/
theorem onlyAsks_placed :
    OnlyAsks (fun q => ¬ q.SubmitsMachine) (c.placed d service deadline) := by
  refine onlyAsks_placing (not_submitsMachine_read _) (not_submitsMachine_read _)
    (not_submitsMachine_read _) (fun q _ hservices hsubmits => ?_)
    fun _ => not_submitsMachine_read _
  obtain ⟨-, _, hpath | ⟨_, hpath⟩⟩ := hsubmits
  · exact Path.deployments_ne_cloudServices _ (hpath.symm.trans hservices)
  · exact Path.roles_ne_cloudServices _ _ (hpath.symm.trans hservices)

theorem onlyAsks_addressed {p : Progress} :
    OnlyAsks (fun q => ¬ q.SubmitsMachine) (c.addressed p deadline) := by
  unfold addressed
  split
  · exact onlyAsks_done _
  · exact onlyAsks_bind (onlyAsks_reserveAddress not_submitsMachine_read) fun _ => onlyAsks_done _

/-- A submission asks for itself and for its operation. -/
theorem performs_of_submitMachine {kind : Submission} {o : Except Fault Unit}
    (hr : Runs (c.submitMachine d service kind deadline) h o) :
    c.channel.Performs (c.submissionOf d service kind) h.asked o := by
  cases kind with
  | role => exact runs_create hr
  | deployment => exact runs_create hr

theorem submits_of_submitMachine {kind : Submission} {o : Except Fault Unit}
    (hr : Runs (c.submitMachine d service kind deadline) h o) (hx : (q, r) ∈ h.asked)
    (hq : q.SubmitsMachine) : q = c.submissionOf d service kind := by
  obtain hrequest | ⟨id, rfl⟩ := (performs_of_submitMachine hr).request_eq hx
  · exact hrequest
  · exact absurd hq (not_submitsMachine_read _)

/-- **The sequence that submits** does so last, if it comes to that at all. -/
theorem submitted_parts {o : Except Fault (String × Progress)}
    (hr : Runs (c.submitted d deadline) h o) :
    (∀ x ∈ h.asked, ¬ x.1.SubmitsMachine) ∨
      ∃ (kind : Submission) (p p' : Progress)
        (placing addressing submitting : History Request (Except Fault Response))
        (o' : Except Fault Unit),
        Runs (c.placed d (c.serviceOf d) deadline) placing (.ok (kind, p)) ∧
        Runs (c.addressed p deadline) addressing (.ok p') ∧
        Runs (c.submitMachine p'.descriptor (c.serviceOf d) kind deadline) submitting o' ∧
        h.asked = placing.asked ++ addressing.asked ++ submitting.asked ∧
        ∀ x ∈ placing.asked ++ addressing.asked, ¬ x.1.SubmitsMachine := by
  obtain ⟨⟨kind, p⟩, h₁, h₂, rfl, hplaced, hr⟩ | ⟨fault, -, hplaced⟩ := runs_bind.1 hr
  case inr => exact .inl fun x hx => onlyAsks_placed.of_mem_asked hplaced hx
  have hunplaced : ∀ x ∈ h₁.asked, ¬ x.1.SubmitsMachine :=
    fun x hx => onlyAsks_placed.of_mem_asked hplaced hx
  obtain ⟨p', h₃, h₄, rfl, haddressed, hr⟩ | ⟨fault, -, haddressed⟩ := runs_bind.1 hr
  case inr =>
    rw [History.asked_append]
    exact .inl (List.forall_mem_append.2
      ⟨hunplaced, fun x hx => onlyAsks_addressed.of_mem_asked haddressed hx⟩)
  have hearlier : ∀ x ∈ h₁.asked ++ h₃.asked, ¬ x.1.SubmitsMachine :=
    List.forall_mem_append.2
      ⟨hunplaced, fun x hx => onlyAsks_addressed.of_mem_asked haddressed hx⟩
  refine .inr ⟨kind, p, p', h₁, h₃, h₄, ?_⟩
  obtain ⟨_, h₅, h₆, rfl, hsubmit, hend⟩ | ⟨fault, -, hsubmit⟩ := runs_bind.1 hr
  · obtain ⟨rfl, -⟩ := runs_done.1 hend
    exact ⟨_, hplaced, haddressed, by simpa using hsubmit, by simp, hearlier⟩
  · exact ⟨_, hplaced, haddressed, hsubmit, by simp, hearlier⟩

theorem submits_of_submitted {o : Except Fault (String × Progress)}
    (hr : Runs (c.submitted d deadline) h o) (hx : (q, r) ∈ h.asked) (hq : q.SubmitsMachine) :
    c.Submits d q := by
  obtain hnone | ⟨kind, p, p', placing, addressing, submitting, o', hplaced, haddressed, hsubmit,
    hasked, hearlier⟩ := submitted_parts hr
  · exact absurd hq (hnone _ hx)
  · rw [hasked] at hx
    obtain hx | hx := List.mem_append.1 hx
    · exact absurd hq (hearlier _ hx)
    · exact ⟨p'.descriptor, kind,
        settledFrom_of_addressed (settledFrom_of_placed hplaced) haddressed,
        submits_of_submitMachine hsubmit hx hq⟩

/-- A machine that boots submits nothing more. -/
theorem asks_awaitMachine_submitting :
    Asks (fun q => ¬ q.SubmitsMachine) (c.awaitMachine d service deadline) := by
  intro h o hr x hx
  have hspares : Spares .general (Request.FollowsSubmission service)
      (c.awaitMachine d service deadline) := spares_awaitMachine
  exact (hspares.asks h o hr x hx).1

/-- Nor does a clean-up. -/
theorem CleansUp.not_submitsMachine (hclean : c.CleansUp service deadline h) :
    ∀ x ∈ h.asked, ¬ x.1.SubmitsMachine := by
  obtain ⟨_, hdelete⟩ := hclean.deletion
  exact fun x hx => ((onlyAsks_deleteCloudService followsSubmission_read
    followsSubmission_deletionOf).of_mem_asked hdelete hx).1

/-- **All but the sequence that submits** submits nothing. -/
theorem asked_of_uncompensated {o : Except Fault (Machine × Descriptor)}
    (hr : Runs (c.uncompensated d deadline) h o) :
    h.asked = [] ∨ ∃ (h' : History Request (Except Fault Response))
      (o' : Except Fault (String × Progress)) (following : List Asked),
      Runs (c.submitted d deadline) h' o' ∧ h.asked = h'.asked ++ following ∧
        ∀ x ∈ following, ¬ x.1.SubmitsMachine := by
  obtain ⟨start, rest, rfl, hrest⟩ := runs_now_bind.1 hr
  cases hbudget : deadline.budgetAfter start c.settings.cadence.headroom.toNat with
  | none =>
    rw [hbudget] at hrest
    obtain ⟨rfl, -⟩ := runs_fail.1 hrest
    exact .inl rfl
  | some budget =>
    simp only [hbudget] at hrest
    obtain ⟨⟨name, p⟩, h₁, h₂, rfl, hlocked, hboot⟩ | ⟨fault, -, hlocked⟩ := runs_bind.1 hrest
    · obtain ⟨h', rfl, hsubmitted⟩ | ⟨-, hx⟩ := runs_holding.1 hlocked
      · refine .inr ⟨h', _, h₂.asked, hsubmitted, by simp, ?_⟩
        have hboots : Asks (fun q => ¬ q.SubmitsMachine)
            ((c.awaitMachine p.descriptor name deadline).bind fun machine =>
              done (machine, p.descriptor)) :=
          asks_bind asks_awaitMachine_submitting fun _ => (onlyAsks_done _).asks
        exact hboots h₂ _ hboot
      · cases hx
    · obtain ⟨h', rfl, hsubmitted⟩ | ⟨rfl, -⟩ := runs_holding.1 hlocked
      · exact .inr ⟨h', _, [], hsubmitted, by simp, fun x hx => nomatch hx⟩
      · exact .inl rfl

theorem asked_of_provision {o : Except Fault (Except Fault Machine × Descriptor)}
    (hr : Runs (c.provision d deadline) h o) :
    (∀ x ∈ h.asked, ¬ x.1.SubmitsMachine) ∨ ∃ (h' : History Request (Except Fault Response))
      (o' : Except Fault (String × Progress)) (following : List Asked),
      Runs (c.submitted d deadline) h' o' ∧ h.asked = h'.asked ++ following ∧
        ∀ x ∈ following, ¬ x.1.SubmitsMachine := by
  obtain ⟨_, _, h₁, h₂, -, rfl, hrun, -, hrest⟩ := provision_parts hr
  have hclean : ∀ x ∈ h₂.asked, ¬ x.1.SubmitsMachine := by
    obtain ⟨rfl, -⟩ | ⟨-, -, hclean⟩ := hrest
    · exact fun x hx => nomatch hx
    · exact hclean.not_submitsMachine
  rw [History.asked_append]
  obtain hnone | ⟨h', o', following, hsubmitted, hasked, hfollowing⟩ := asked_of_uncompensated hrun
  · rw [hnone]
    exact .inl hclean
  · refine .inr ⟨h', o', following ++ h₂.asked, hsubmitted, by simp [hasked], ?_⟩
    exact List.forall_mem_append.2 ⟨hfollowing, hclean⟩

/-- **A provisioning call submits its own machine**, and no other. -/
theorem submits_of_provision {o : Except Fault (Except Fault Machine × Descriptor)}
    (hr : Runs (c.provision d deadline) h o) (hx : (q, r) ∈ h.asked) (hq : q.SubmitsMachine) :
    c.Submits d q := by
  obtain hnone | ⟨h', o', following, hsubmitted, hasked, hfollowing⟩ := asked_of_provision hr
  · exact absurd hq (hnone _ hx)
  · rw [hasked] at hx
    rcases List.mem_append.1 hx with hx | hx
    · exact submits_of_submitted hsubmitted hx hq
    · exact absurd hq (hfollowing _ hx)

end Client

end CloudOrchestration
