import CloudOrchestration.Proofs.Client.Scripts
import CloudOrchestration.Proofs.Provisioning.Creation
import CloudOrchestration.Proofs.Provisioning.Plain
/-!
# Compensation

Provisioning is a sequence of steps of which the first fault ends the whole
(`Client.uncompensated`), followed, where that fault came after the machine's
own cloud service was made, by one deletion of that service. This file shows
that every run is of this form (`Client.runs_provision`): the fault is that of
the sequence, nothing is deleted before it, and whether the deletion is
attempted can be told from the requests alone.
-/

namespace CloudOrchestration

open Workflow Channel

variable {α β : Type} {c : Client} {deadline : Deadline} {service : String}
variable {h : History Request (Except Fault Response)}

namespace Saga

/-- A saga that orders no cloud service and deletes nothing, and that leaves
what is known of the service as it is. -/
def Quietly (s : Saga α) : Prop :=
  ∀ p, Ensures p s fun h _ p' => (∀ x ∈ h.asked, x.1.IsQuiet) ∧ p'.created = p.created

theorem quietly_pure (a : α) : Quietly (pure a : Saga α) := fun p =>
  ensures_pure.mono fun _ _ _ ⟨hh, _, hp⟩ => ⟨by simp [hh], by rw [hp]⟩

theorem quietly_step {w : Call α} (hw : OnlyAsks Request.IsQuiet w) : Quietly (step w) := fun p =>
  (ensures_step w).mono fun _ _ _ ⟨hr, hp⟩ => ⟨fun _ hx => hw.of_mem_asked hr hx, by rw [hp]⟩

theorem quietly_settle (f : Descriptor → Descriptor) : Quietly (settle f) := fun p =>
  (ensures_note _).mono fun _ _ _ ⟨hh, _, hp⟩ => ⟨by simp [hh], by rw [hp]⟩

theorem quietly_descriptor : Quietly descriptor := fun p =>
  ensures_descriptor.mono fun _ _ _ ⟨hh, _, hp⟩ => ⟨by simp [hh], by rw [hp]⟩

theorem quietly_bind {s : Saga α} {f : α → Saga β} (hs : Quietly s) (hf : ∀ a, Quietly (f a)) :
    Quietly (s >>= f) := by
  intro p
  refine ensures_bind (hs p) (fun h a p' hp => ?_) fun h fault p' hp => hp
  refine (hf a p').mono fun h' r p'' hp' => ?_
  rw [History.asked_append]
  exact ⟨List.forall_mem_append.2 ⟨hp.1, hp'.1⟩, hp'.2.trans hp.2⟩

/-- **A saga whose progress tells what its requests tell.** -/
def Telling (c : Client) (service : String) (p : Progress) (s : Saga α) : Prop :=
  Ensures p s fun h r p' => c.Tells service h.asked r.isOk p'.created

theorem Telling.bind {p : Progress} {s : Saga α} {f : α → Saga β}
    (hs : Telling c service p s) (hf : ∀ a, Quietly (f a)) :
    Telling c service p (s >>= f) := by
  refine ensures_bind hs (fun h a p' ht => ?_) fun h fault p' ht => ht
  refine (hf a p').mono fun h' r p'' hq => ?_
  rw [History.asked_append, hq.2]
  exact ht.append hq.1

/-- What was looked up before makes no difference. -/
theorem Telling.looked_up {p : Progress} {s : Saga α} {asked : List Asked}
    (ha : LooksUp asked) (hs : Telling c service p s) :
    Ensures p s fun h r p' => c.Tells service (asked ++ h.asked) r.isOk p'.created :=
  hs.mono fun _ _ _ ht => ht.of_looksUp ha

theorem Quietly.telling {p : Progress} {s : Saga α} (hs : Quietly s) (hp : p.created = none) :
    Telling c service p s := by
  refine (hs p).mono fun h r p' hq => ?_
  rw [hq.2, hp]
  exact .nothing hq.1

end Saga

namespace Client

open Saga

theorem quietly_placeInService {slot : String} :
    Quietly (c.placeInService service slot deadline) := by
  refine quietly_bind (quietly_step (onlyAsks_deploymentAt? (isQuiet_read _))) fun found => ?_
  cases found with
  | some existing => exact quietly_bind (quietly_settle _) fun _ => quietly_pure _
  | none => exact quietly_bind (quietly_settle _) fun _ => quietly_pure _

/-- Once the service is made the progress says so, whatever comes after. -/
theorem telling_note_made {s : Saga α} {p : Progress} {asked : List Asked}
    (hd : DeletesNothing asked) (hm : c.Made asked) (hs : Quietly s) :
    Ensures p (Saga.note (fun p => { p with created := some service }) >>= fun _ => s)
      fun h r p' => c.Tells service (asked ++ h.asked) r.isOk p'.created := by
  refine ensures_bind (ensures_note _) ?_ ?_
  · rintro h a p' ⟨rfl, -, rfl⟩
    refine (hs _).mono fun h' r p'' hq => ?_
    rw [hq.2]
    exact Tells.append (.made hd hm) hq.1
  · rintro h fault p' ⟨-, hx, -⟩
    cases hx

theorem telling_placeInNewService {affinityGroup : String} {p : Progress}
    (hp : p.created = none) :
    Telling c service p (c.placeInNewService service affinityGroup deadline) := by
  have hrest : Quietly (do
      Saga.settle fun d => { d with deployment := some service }
      return Submission.deployment) := quietly_bind (quietly_settle _) fun _ => quietly_pure _
  refine ensures_bind (ensures_step _) ?_ ?_
  · rintro h action p' ⟨hr, rfl⟩
    obtain ⟨hx, hd, hm⟩ | ⟨hx, hq⟩ | ⟨fault, hx, -⟩ := runs_submitCloudService hr
    · cases hx
      have hwait : OnlyAsks Request.IsQuiet (c.awaitCreated service deadline) :=
        onlyAsks_awaitCreated isQuiet_read
      -- from here on the progress says that the service was made
      have hawait := quietly_bind (quietly_step hwait) fun _ => hrest
      exact (telling_note_made hd hm hawait).mono fun h' r p'' ht => by simpa using ht
    · cases hx
      refine (hrest p').mono fun h' r p'' hq' => ?_
      rw [History.asked_append, hq'.2, hp]
      exact Tells.append (.nothing hq) hq'.1
    · cases hx
  · rintro h fault p' ⟨hr, rfl⟩
    rw [hp]
    obtain ⟨hx, -⟩ | ⟨hx, -⟩ | ⟨fault', -, hd, hm⟩ := runs_submitCloudService hr
    · cases hx
    · cases hx
    · exact .refused rfl hd hm

theorem telling_place {p : Progress} (hp : p.created = none) :
    Telling c service p (c.place service deadline) := by
  have hrest : ∀ submission, Quietly (do
      Saga.settle fun d => { d with service := some service }
      return (submission : Submission)) := fun _ =>
    quietly_bind (quietly_settle _) fun _ => quietly_pure _
  refine ensures_bind ensures_descriptor ?_ ?_
  · rintro _ d _ ⟨rfl, -, rfl⟩
    refine ensures_bind (ensures_step _) ?_ ?_
    · rintro h found p' ⟨hr, rfl⟩
      have hlookup := runs_cloudService? hr
      cases found with
      | some _ =>
        have hplace : Telling c service p' (c.placeInService service d.slot deadline) :=
          quietly_placeInService.telling hp
        exact ((hplace.bind hrest).looked_up hlookup).mono fun h' r p'' ht => by simpa using ht
      | none =>
        have hplace :
            Telling c service p' (c.placeInNewService service d.affinityGroup deadline) :=
          telling_placeInNewService hp
        exact ((hplace.bind hrest).looked_up hlookup).mono fun h' r p'' ht => by simpa using ht
    · rintro h fault p' ⟨hr, rfl⟩
      rw [hp]
      exact .nothing (by simpa using (runs_cloudService? hr).quiet)
  · rintro h fault p' ⟨-, hx, -⟩
    cases hx

/-- **The saga's progress tells whether the service was made.** -/
theorem telling_resolveAndSubmit {d : Descriptor} :
    Telling c (c.serviceOf d) { descriptor := d } (c.resolveAndSubmit deadline) := by
  have hsubmit : ∀ submission, Quietly (do
      Saga.step (c.submitMachine (← Saga.descriptor) (c.serviceOf d) submission deadline)
      return c.serviceOf d) := fun _ =>
    quietly_bind quietly_descriptor fun _ =>
      quietly_bind (quietly_step onlyAsks_submitMachine) fun _ => quietly_pure _
  refine ensures_bind ensures_descriptor ?_ ?_
  · rintro _ d' _ ⟨rfl, hx, rfl⟩
    cases hx
    refine Telling.bind (telling_place rfl) fun submission => ?_
    refine quietly_bind quietly_descriptor fun d' => ?_
    cases d'.candidates.isEmpty with
    | true => exact hsubmit submission
    | false =>
      exact quietly_bind quietly_descriptor fun d'' =>
        quietly_bind (quietly_step (onlyAsks_reserveAddress isQuiet_read)) fun _ =>
          quietly_bind (quietly_settle _) fun _ => hsubmit submission
  · rintro h fault p' ⟨-, hx, -⟩
    cases hx

/-! ## The deletion -/

theorem length_acceptedDeletions_le {q : Request} {asked : List Asked} {o : Except Fault Unit}
    (hp : c.channel.Performs q asked o) : (acceptedDeletions asked).length ≤ 1 :=
  hp.length_acceptedOf_le (p := fun q => q.method = .delete) fun _ h => nomatch h

theorem onlyAsks_isOccupied {p : Request → Prop} (hlook : ∀ slot, p (.read (Path.slot service slot)))
    (slots : List String) : OnlyAsks p (c.isOccupied service deadline slots) := by
  induction slots with
  | nil => exact onlyAsks_done _
  | cons slot rest ih =>
    refine onlyAsks_bind (onlyAsks_deploymentAt? (hlook slot)) fun found => ?_
    split
    · exact onlyAsks_done _
    · exact ih

/-- The request that deletes a cloud service. -/
def deletionOf (service : String) : Request :=
  { method := .delete, path := Path.cloudService service }

/-- **A deletion of a cloud service** deletes nothing else, and is accepted
at most once. -/
theorem runs_deleteCloudService {o : Except Fault Action}
    (hr : Runs (c.deleteCloudService service deadline) h o) :
    (∀ x ∈ h.asked, x.1.method = .delete → x.1 = deletionOf service) ∧
      (acceptedDeletions h.asked).length ≤ 1 := by
  have hquiet : ∀ {asked : List Asked}, (∀ x ∈ asked, x.1.IsQuiet) →
      (∀ x ∈ asked, x.1.method = .delete → x.1 = deletionOf service) ∧
        (acceptedDeletions asked).length ≤ 1 := by
    intro asked hq
    refine ⟨fun x hx hm => absurd hm (hq x hx).1, ?_⟩
    simp [acceptedDeletions_of_deletesNothing fun x hx => (hq x hx).1]
  obtain ⟨services, h₁, h₂, rfl, hlist, hr⟩ | ⟨fault, rfl, hlist⟩ := runs_bind.1 hr
  · have hq₁ := (runs_cloudServices hlist).quiet
    split at hr
    · obtain ⟨rfl, -⟩ := runs_done.1 hr
      exact hquiet (by simpa using hq₁)
    · obtain ⟨occupied, h₃, h₄, rfl, hslots, hr⟩ | ⟨fault, rfl, hslots⟩ := runs_bind.1 hr
      · have hq₃ : ∀ x ∈ h₃.asked, x.1.IsQuiet := fun x hx =>
          (onlyAsks_isOccupied (fun _ => isQuiet_read _) _).of_mem_asked hslots hx
        obtain ⟨-, rfl, -⟩ | ⟨-, r, hremove, -⟩ := runs_unlessDone hr
        · exact hquiet (by simpa using List.forall_mem_append.2 ⟨hq₁, hq₃⟩)
        · have hp := runs_remove hremove
          have hq : ∀ x ∈ h₁.asked ++ h₃.asked, x.1.IsQuiet :=
            List.forall_mem_append.2 ⟨hq₁, hq₃⟩
          -- before the deletion there are only looks
          have hd : DeletesNothing (h₁.asked ++ h₃.asked) := fun x hx => (hq x hx).1
          rw [History.asked_append, History.asked_append, ← List.append_assoc,
            acceptedDeletions_append, acceptedDeletions_of_deletesNothing hd, List.nil_append]
          refine ⟨List.forall_mem_append.2 ⟨(hquiet hq).1, fun x hx hm => ?_⟩,
            length_acceptedDeletions_le hp⟩
          rcases hp.request_eq hx with hx' | ⟨id, hx'⟩
          · exact hx'
          · rw [hx'] at hm; cases hm
      · have hq₃ : ∀ x ∈ h₂.asked, x.1.IsQuiet := fun x hx =>
          (onlyAsks_isOccupied (fun _ => isQuiet_read _) _).of_mem_asked hslots hx
        exact hquiet (by simpa using List.forall_mem_append.2 ⟨hq₁, hq₃⟩)
  · exact hquiet (runs_cloudServices hlist).quiet

/-! ## Provisioning -/

/-- **Provisioning without compensation**: the first fault ends the whole. -/
def uncompensated (c : Client) (d : Descriptor) (deadline : Deadline) :
    Call (Machine × Descriptor) := do
  let headroom := c.settings.cadence.headroom.toNat
  let start ← now
  match deadline.budgetAfter start headroom with
  | none => fail (.lockTimeout (.noHeadroom d.role (deadline.remaining start) headroom))
  | some budget =>
    let (service, progress) ← holding .general budget (c.submitted d deadline)
    let machine ← c.awaitMachine progress.descriptor service deadline
    return (machine, progress.descriptor)

/-- **The run of a clean-up**: one deletion of the service, accepted at most
once. -/
structure CleansUp (c : Client) (service : String) (deadline : Deadline)
    (h : History Request (Except Fault Response)) : Prop where
  deletion : ∃ o, Runs (c.deleteCloudService service deadline) h o
  request : ∀ x ∈ h.asked, x.1.method = .delete → x.1 = deletionOf service
  once : (acceptedDeletions h.asked).length ≤ 1

/-- The submission under the lock: it was obtained and the saga ran, or it was
not. -/
theorem runs_submission {d : Descriptor} {budget : Nat}
    {o : Except Fault (Except Fault String × Progress)}
    (hr : Runs (holding .general budget ((c.resolveAndSubmit deadline).start d)) h o) :
    (∃ r p, o = .ok (r, p) ∧ c.Tells (c.serviceOf d) h.asked r.isOk p.created ∧
      Runs (holding .general budget (c.submitted d deadline)) h (r.map (·, p))) ∨
      ∃ fault, o = .error fault ∧ h.asked = [] ∧
        Runs (holding .general budget (c.submitted d deadline)) h (.error fault) := by
  obtain ⟨h', rfl, hsaga⟩ | ⟨rfl, rfl⟩ := runs_holding.1 hr
  · obtain ⟨r, p, rfl, ht⟩ := telling_resolveAndSubmit h' o hsaga
    refine .inl ⟨r, p, rfl, by simpa using ht, runs_holding.2 (.inl ⟨h', rfl, ?_⟩)⟩
    rw [← strictly_resolveAndSubmit]
    exact runs_strictly hsaga
  · exact .inr ⟨_, rfl, by simp, runs_holding.2 (.inr ⟨rfl, rfl⟩)⟩

/-- What happens after a fault: the deletion of the service that was made, or
nothing. -/
theorem runs_compensate {created : Option String} {o : Except Fault Unit}
    (hr : Runs (c.compensate created deadline) h o) :
    o = .ok () ∧ (∀ service, created = some service → c.CleansUp service deadline h) ∧
      (created = none → h = []) := by
  cases created with
  | none =>
    obtain ⟨rfl, rfl⟩ := runs_done.1 hr
    exact ⟨rfl, fun _ hx => (nomatch hx), fun _ => rfl⟩
  | some service =>
    obtain ⟨rfl, r, hdelete⟩ := runs_regardless.1 hr
    refine ⟨rfl, fun service' hx => ?_, fun hx => (nomatch hx)⟩
    cases hx
    obtain ⟨hrequest, honce⟩ := runs_deleteCloudService hdelete
    exact ⟨⟨r, hdelete⟩, hrequest, honce⟩

/-- Provisioning up to the point where a fault is compensated. -/
def attempted (c : Client) (d : Descriptor) (deadline : Deadline) :
    Call (Except Fault Machine × Progress) := do
  let headroom := c.settings.cadence.headroom.toNat
  let start ← now
  match deadline.budgetAfter start headroom with
  | none =>
    return (.error (.lockTimeout (.noHeadroom d.role (deadline.remaining start) headroom)),
      { descriptor := d })
  | some budget =>
    match ← (holding .general budget ((c.resolveAndSubmit deadline).start d)).attempt with
    | .error fault => return (.error fault, { descriptor := d })
    | .ok (.error fault, progress) => return (.error fault, progress)
    | .ok (.ok service, progress) =>
      return (← (c.awaitMachine progress.descriptor service deadline).attempt, progress)

/-- The end of provisioning: a fault is compensated. -/
def conclude (c : Client) (deadline : Deadline) :
    Except Fault Machine × Progress → Call (Except Fault Machine × Descriptor)
  | (.ok machine, p) => done (.ok machine, p.descriptor)
  | (.error fault, p) => do
    c.compensate p.created deadline
    return (.error fault, p.descriptor)

theorem provision_eq (c : Client) (d : Descriptor) (deadline : Deadline) :
    c.provision d deadline = (c.attempted d deadline).bind (c.conclude deadline) := by
  simp only [provision, attempted, bind_eq, bind_assoc]
  congr 1
  funext start
  cases deadline.budgetAfter start c.settings.cadence.headroom.toNat with
  | none => rfl
  | some budget =>
    simp only [bind_assoc]
    congr 1
    funext x
    obtain fault | ⟨fault | service, progress⟩ := x
    · rfl
    · rfl
    · simp only [bind_assoc, pure_eq, done_bind]
      congr 1
      funext outcome
      cases outcome <;> rfl

/-- **Up to the compensation** a run is one of the uncompensated sequence,
and its progress tells whether the service was made. -/
theorem runs_attempted {d : Descriptor} {o : Except Fault (Except Fault Machine × Progress)}
    (hr : Runs (c.attempted d deadline) h o) :
    ∃ r p ok, o = .ok (r, p) ∧ c.Tells (c.serviceOf d) h.asked ok p.created ∧
      Runs (c.uncompensated d deadline) h (r.map (·, p.descriptor)) := by
  obtain ⟨start, rest, rfl, hrest⟩ := runs_now_bind.1 hr
  cases hbudget : deadline.budgetAfter start c.settings.cadence.headroom.toNat with
  | none =>
    simp only [hbudget] at hrest
    obtain ⟨rfl, rfl⟩ := runs_done.1 hrest
    refine ⟨_, _, true, rfl, .nothing (by simp), ?_⟩
    exact runs_now_bind.2 ⟨start, [], rfl, by simp [hbudget, Except.map]⟩
  | some budget =>
    simp only [hbudget] at hrest
    obtain ⟨x, h₁, h₂, rfl, hsubmit, hend⟩ := runs_attempt_bind.1 hrest
    obtain ⟨r, p, rfl, htells, hstrict⟩ | ⟨fault, rfl, hasked, hstrict⟩ := runs_submission hsubmit
    · cases r with
      | error fault =>
        obtain ⟨rfl, rfl⟩ := runs_done.1 hend
        refine ⟨_, _, _, rfl, by simpa using htells, ?_⟩
        refine runs_now_bind.2 ⟨start, h₁ ++ [], rfl, ?_⟩
        simp only [hbudget]
        exact runs_bind.2 (.inr ⟨fault, rfl, by simpa [Except.map] using hstrict⟩)
      | ok service =>
        obtain ⟨r, h₃, h₄, rfl, hmachine, hend⟩ := runs_attempt_bind.1 hend
        obtain ⟨rfl, rfl⟩ := runs_done.1 hend
        refine ⟨r, p, true, rfl, ?_, ?_⟩
        · simpa using htells.append fun x hx => (asks_awaitMachine h₃ r hmachine x hx).isQuiet
        · refine runs_now_bind.2 ⟨start, h₁ ++ (h₃ ++ []), rfl, ?_⟩
          simp only [hbudget]
          refine runs_bind.2 (.inl ⟨(service, p), h₁, _, rfl, hstrict, ?_⟩)
          cases r with
          | ok machine => exact runs_bind.2 (.inl ⟨machine, h₃, [], rfl, hmachine, .done _⟩)
          | error fault => exact runs_bind.2 (.inr ⟨fault, rfl, by simpa using hmachine⟩)
    · obtain ⟨rfl, rfl⟩ := runs_done.1 hend
      refine ⟨_, _, true, rfl, .nothing (by simp [hasked]), ?_⟩
      refine runs_now_bind.2 ⟨start, h₁ ++ [], rfl, ?_⟩
      simp only [hbudget]
      exact runs_bind.2 (.inr ⟨fault, rfl, by simpa using hstrict⟩)

/-- **The two parts of a run**: one of the uncompensated sequence, and one
deletion of the service that was made, if the first has failed. -/
theorem provision_parts {d : Descriptor} {o : Except Fault (Except Fault Machine × Descriptor)}
    (hr : Runs (c.provision d deadline) h o) :
    ∃ r d' h₁ h₂, o = .ok (r, d') ∧ h = h₁ ++ h₂ ∧
      Runs (c.uncompensated d deadline) h₁ (r.map (·, d')) ∧ DeletesNothing h₁.asked ∧
      ((h₂ = [] ∧ (r.isOk ∨ ¬ c.Made h₁.asked)) ∨
        r.isOk = false ∧ c.Made h₁.asked ∧ c.CleansUp (c.serviceOf d) deadline h₂) := by
  rw [provision_eq] at hr
  obtain ⟨x, h₁, h₂, rfl, hattempt, hend⟩ | ⟨_, _, hattempt⟩ := runs_bind.1 hr
  · obtain ⟨r, p, ok, hx, htells, hstrict⟩ := runs_attempted hattempt
    cases hx
    cases r with
    | ok machine =>
      obtain ⟨rfl, rfl⟩ := runs_done.1 hend
      exact ⟨.ok machine, p.descriptor, h₁, [], rfl, rfl, hstrict, htells.deletesNothing,
        .inl ⟨rfl, .inl rfl⟩⟩
    | error fault =>
      obtain ⟨_, h₃, h₄, rfl, hcompensate, hend⟩ | ⟨_, _, hcompensate⟩ := runs_bind.1 hend
      · obtain ⟨rfl, rfl⟩ := runs_done.1 hend
        obtain ⟨-, hmade, hnone⟩ := runs_compensate hcompensate
        refine ⟨.error fault, p.descriptor, h₁, h₃, rfl, by simp, hstrict,
          htells.deletesNothing, ?_⟩
        cases hcreated : p.created with
        | some service =>
          rw [hcreated] at htells
          obtain ⟨rfl, hm⟩ := htells.made_of_some
          exact .inr ⟨rfl, hm, hmade _ hcreated⟩
        | none =>
          rw [hcreated] at htells
          exact .inl ⟨hnone hcreated, .inr htells.not_made_of_none⟩
      · cases (runs_compensate hcompensate).1
  · obtain ⟨_, _, _, hx, -⟩ := runs_attempted hattempt
    cases hx

/-- A provisioning that ends well is the uncompensated sequence. -/
theorem runs_uncompensated_of_ok {d d' : Descriptor} {machine : Machine}
    (hr : Runs (c.provision d deadline) h (.ok (.ok machine, d'))) :
    Runs (c.uncompensated d deadline) h (.ok (machine, d')) := by
  obtain ⟨r, d'', h₁, h₂, hx, rfl, hstrict, -, hrest⟩ := provision_parts hr
  cases hx
  obtain ⟨rfl, -⟩ | ⟨hx, -⟩ := hrest
  · simpa [Except.map] using hstrict
  · cases hx

/-- **Every run of provisioning**, whatever it is answered. It succeeds as the
uncompensated sequence does, and deletes nothing. Or it ends with the fault
that ended that sequence; then what remains of the run is one deletion of the
cloud service, if that was made, and nothing otherwise. -/
theorem runs_provision {d : Descriptor} {o : Except Fault (Except Fault Machine × Descriptor)}
    (hr : Runs (c.provision d deadline) h o) :
    ∃ r d', o = .ok (r, d') ∧
      (∀ machine, r = .ok machine →
        Runs (c.uncompensated d deadline) h (.ok (machine, d')) ∧ DeletesNothing h.asked) ∧
      ∀ fault, r = .error fault → ∃ h₁ h₂, h = h₁ ++ h₂ ∧
        Runs (c.uncompensated d deadline) h₁ (.error fault) ∧ DeletesNothing h₁.asked ∧
        (c.Made h.asked → c.CleansUp (c.serviceOf d) deadline h₂) ∧
        (¬ c.Made h.asked → h₂ = []) := by
  obtain ⟨r, d', h₁, h₂, rfl, rfl, hstrict, hd, hparts⟩ := provision_parts hr
  refine ⟨r, d', rfl, ?_, ?_⟩
  · rintro machine rfl
    obtain ⟨rfl, -⟩ | ⟨hx, -⟩ := hparts
    · exact ⟨by simpa [Except.map] using hstrict, by simpa using hd⟩
    · cases hx
  · rintro fault rfl
    refine ⟨h₁, h₂, rfl, hstrict, hd, ?_⟩
    obtain ⟨rfl, hx | hm⟩ | ⟨-, hm, hcleans⟩ := hparts
    · cases hx
    · rw [List.append_nil]
      exact ⟨fun hm' => absurd hm' hm, fun _ => rfl⟩
    · refine ⟨fun _ => hcleans, fun hm' => absurd ?_ hm'⟩
      rw [History.asked_append]
      exact hm.append_left

/-! ## A service that is deleted again -/

/-- A provider that makes the cloud service and then fails to show it. -/
def fadingScript : Script := [
  ((.get, Path.cloudService "r"), [.refuses 404, .refuses 500]),
  ((.get, Path.cloudServices), [Script.listing [], Script.listing ["r"]]),
  ((.post, Path.cloudServices), [.accepts "1"]),
  Script.operationDone "1",
  ((.delete, Path.cloudService "r"), [.accepts "2"]),
  Script.operationDone "2"]

/-- The run of provisioning against it. -/
def faded :
    History Request (Except Fault Response) × Except Fault (Except Fault Machine × Descriptor) :=
  (plainClient.provision (plainDescriptor "r") ⟨400000⟩).alone Script.respond fadingScript 0

/-- The service that was made is cleaned up, once. -/
theorem runs_provision_faded : ∃ h₁ h₂, faded.1 = h₁ ++ h₂ ∧ DeletesNothing h₁.asked ∧
    plainClient.CleansUp "r" ⟨400000⟩ h₂ ∧ (acceptedDeletions h₂.asked).length = 1 := by
  have hend : (match faded.2 with | .ok (.error _, _) => true | _ => false) = true ∧
      (acceptedDeletions faded.1.asked).length = 1 := by decide +kernel
  have hservice : plainClient.serviceOf (plainDescriptor "r") = "r" := by decide
  have hr : Runs (plainClient.provision (plainDescriptor "r") ⟨400000⟩) faded.1 faded.2 :=
    runs_alone ..
  obtain ⟨r, d', ho, -, hfault⟩ := runs_provision hr
  rw [ho] at hend
  rw [hservice] at hfault
  cases r with
  | ok machine => cases hend.1
  | error fault =>
    obtain ⟨h₁, h₂, heq, -, hd, hmade, hnone⟩ := hfault fault rfl
    have hcount := hend.2
    rw [heq, History.asked_append, acceptedDeletions_append,
      acceptedDeletions_of_deletesNothing hd, List.nil_append] at hcount
    -- had the service not been made nothing would be left to delete it
    have hm : plainClient.Made faded.1.asked := Classical.byContradiction fun hm => by
      simp [hnone hm, acceptedDeletions] at hcount
    exact ⟨h₁, h₂, heq, hd, hmade hm, hcount⟩

end Client

end CloudOrchestration
