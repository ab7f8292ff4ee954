import CloudOrchestration.Proofs.Channel.Waits
import CloudOrchestration.Proofs.Client.Locks
import CloudOrchestration.Proofs.Lifecycle.Effects
/-!
# The steps of a teardown

What a teardown deletes it deletes in steps, each of which takes the course of its
intent: it changes nothing but the one resource, once at most, and not before it
was seen that the change is called for (`Intent.Course.mutatesOnly`,
`Intent.Course.justified_before`).

A disk is deleted only after it was seen to be attached nowhere, and an attempt
that ends well has seen the deletion succeed, or the disk gone
(`Client.attempts_of_runs`).
-/

namespace CloudOrchestration

open Workflow Channel Schedule

variable {c : Client} {deadline : Deadline} {h : History Request (Except Fault Response)}
variable {asked asked' before after : List Asked} {q target : Request}
variable {answer : Except Fault Response}

/-! ## Changes of one resource -/

/-- Of all requests that may change the provider's state only one was sent. -/
def MutatesOnly (target : Request) (asked : List Asked) : Prop :=
  ∀ x ∈ asked, x.1.isMutating → x.1 = target

theorem mutatesOnly_append :
    MutatesOnly target (asked ++ asked') ↔ MutatesOnly target asked ∧ MutatesOnly target asked' :=
  List.forall_mem_append

theorem mutatesOnly_of_not_mutates (hreads : ¬ Mutates asked) : MutatesOnly target asked :=
  fun x hx hmutating => absurd ⟨x, hx, hmutating⟩ hreads

namespace Intent.Course

variable {i : Intent} {o : Except Fault Action}

/-- **A call changes nothing but what it is to bring about.** -/
theorem mutatesOnly (hc : i.Course c asked o) : MutatesOnly i.change asked := by
  cases hc with
  | looked hreads => exact mutatesOnly_of_not_mutates hreads
  | changed hlooked _ hp hafter =>
    refine mutatesOnly_append.2 ⟨mutatesOnly_append.2 ⟨mutatesOnly_of_not_mutates hlooked, ?_⟩,
      mutatesOnly_of_not_mutates hafter⟩
    intro x hx hmutating
    obtain hchange | ⟨id, hread⟩ := hp.request_eq hx
    · exact hchange
    · rw [hread] at hmutating
      cases hmutating

/-- **The change is called for** by what was seen before it is sent. -/
theorem justified_before (hc : i.Course c asked o)
    (hs : asked = before ++ (q, answer) :: after) (hq : q.isMutating) : i.Justified c before := by
  cases hc with
  | looked hreads => exact absurd ⟨(q, answer), by simp [hs], hq⟩ hreads
  | @changed looked performed rest r _ hlooked hj _ _ _ =>
    rw [List.append_assoc] at hs
    obtain ⟨l, hl⟩ | ⟨l, rfl, -⟩ := append_cons_eq_append hs.symm
    · exact absurd ⟨(q, answer), by simp [hl], hq⟩ hlooked
    · exact hj.append

end Intent.Course

namespace Client

/-! ## Cloud services and storage accounts -/

variable {service account : String}

/-- **The step that deletes a cloud service**: nothing else is changed, and that not
before both its slots were read empty in the same step. -/
structure DeletesService (c : Client) (service : String) (asked : List Asked) : Prop where
  mutatesOnly : MutatesOnly (deletionOf service) asked
  vacant {before after : List Asked} {q : Request} {answer : Except Fault Response}
    (hs : asked = before ++ (q, answer) :: after) (hq : q.isMutating) :
    ∀ slot ∈ [Deployment.production, Deployment.staging],
      ∃ r, (.read (Path.slot service slot), .ok r) ∈ before ∧
        (c.channel.optionalDocument r : Except Fault (Option Deployment)) = .ok none

theorem deletesService_of_runs {o : Except Fault Action}
    (hr : Runs (c.deleteCloudService service deadline) h o) : c.DeletesService service h.asked := by
  have hcourse : (LifecycleCall.intent c (.deleteCloudService service)).Course c h.asked o :=
    follows_deleteCloudService h o hr
  refine ⟨hcourse.mutatesOnly, fun {before after q answer} hs hq slot hslot => ?_⟩
  exact (hcourse.justified_before hs hq).vacant _ (List.mem_map_of_mem hslot)

/-- **The step that deletes a storage account**: the accounts are listed, nothing else
is changed, and that once at most. -/
structure DeletesAccount (account : String) (asked : List Asked) : Prop where
  looked : ∃ answer, (.read Path.storageAccounts, answer) ∈ asked
  mutatesOnly : MutatesOnly { method := .delete, path := Path.storageAccount account } asked
  once : (acceptedChanges asked).length ≤ 1

theorem deletesAccount_of_runs {o : Except Fault Action}
    (hr : Runs (c.deleteStorageAccount account deadline) h o) : DeletesAccount account h.asked := by
  have hcourse : (LifecycleCall.intent c (.deleteStorageAccount account)).Course c h.asked o :=
    follows_deleteStorageAccount h o hr
  exact ⟨asked_of_runs_get_bind hr, hcourse.mutatesOnly, hcourse.length_acceptedChanges_le⟩

/-! ## Disks -/

variable {disk : String}

/-- The request that deletes a disk and the file behind it. -/
def diskDeletion (disk : String) : Request :=
  { method := .delete, path := Path.diskWithMedia disk }

/-- A listing showed a disk, attached nowhere. -/
def ShowsReleased (c : Client) (disk : String) (asked : List Asked) : Prop :=
  ∃ (r : Response) (disks : Disks) (d : Disk), (.read Path.disks, .ok r) ∈ asked ∧
    c.channel.document r = .ok disks ∧ disks.find? disk = some d ∧ d.attachedTo = none

/-- A listing showed no such disk. -/
def ShowsGone (c : Client) (disk : String) (asked : List Asked) : Prop :=
  ∃ (r : Response) (disks : Disks), (.read Path.disks, .ok r) ∈ asked ∧
    c.channel.document r = .ok disks ∧ disks.find? disk = none

theorem ShowsReleased.append_left (hs : c.ShowsReleased disk asked) :
    c.ShowsReleased disk (asked ++ asked') := by
  obtain ⟨r, disks, d, hx, hshown⟩ := hs
  exact ⟨r, disks, d, List.mem_append_left _ hx, hshown⟩

theorem ShowsReleased.append_right (hs : c.ShowsReleased disk asked') :
    c.ShowsReleased disk (asked ++ asked') := by
  obtain ⟨r, disks, d, hx, hshown⟩ := hs
  exact ⟨r, disks, d, List.mem_append_right _ hx, hshown⟩

/-- **An attempt to delete a disk**, and its end. -/
structure Attempts (c : Client) (disk : String) (asked : List Asked) (o : Except Fault Unit) :
    Prop where
  looked : ∃ answer, (.read Path.disks, answer) ∈ asked
  mutatesOnly : MutatesOnly (diskDeletion disk) asked
  once : (acceptedChanges asked).length ≤ 1
  /-- It is not deleted before a listing of the attempt showed it attached nowhere. -/
  released {before after : List Asked} {q : Request} {answer : Except Fault Response}
    (hs : asked = before ++ (q, answer) :: after) (hq : q.isMutating) : c.ShowsReleased disk before
  /-- What ended well has seen the deletion succeed, or else the disk gone. -/
  settled (ho : o = .ok ()) : ∃ waiting deleting, asked = waiting ++ deleting ∧
    c.ShowsReleased disk waiting ∧
      (c.channel.CarriesOut (diskDeletion disk) deleting ∨ c.ShowsGone disk deleting)

/-- A look for a disk lists them all. -/
theorem reads_of_runs_disk? {o : Except Fault (Option Disk)}
    (hr : Runs (c.disk? disk deadline) h o) : ∃ answer, Reads Path.disks h.asked answer := by
  obtain ⟨disks, h₁, h₂, rfl, hget, hr⟩ | ⟨fault, rfl, hget⟩ := runs_bind.1 hr
  · obtain ⟨rfl, -⟩ := runs_done.1 hr
    obtain ⟨answer, hreads, -⟩ := runs_get hget
    exact ⟨answer, by simpa using hreads⟩
  · obtain ⟨answer, hreads, -⟩ := runs_get hget
    exact ⟨answer, hreads⟩

/-- A wait for a disk to be free lists them at least once. -/
theorem looked_of_runs_awaitDetached {o : Except Fault Unit}
    (hr : Runs (c.awaitDetached disk deadline) h o) :
    ∃ answer, (.read Path.disks, answer) ∈ h.asked := by
  obtain ⟨looks, last, r, -, hlast, hasked, -⟩ := runs_awaitState hr
  obtain ⟨answer, hreads⟩ := reads_of_runs_disk? hlast
  rw [hasked]
  exact ⟨answer, List.mem_append_right _ hreads.mem⟩

/-- A wait for a disk to be free ends with a listing that shows it so. -/
theorem released_of_runs_awaitDetached (hr : Runs (c.awaitDetached disk deadline) h (.ok ())) :
    c.ShowsReleased disk h.asked := by
  obtain ⟨looks, last, r, -, hlast, hasked, ho⟩ := runs_awaitState hr
  obtain ⟨found, rfl, hready⟩ := lastLook_eq_ok ho
  obtain ⟨r, disks, hx, hdocument, hfound⟩ := listed_of_runs_disk? hlast
  rw [hasked]
  refine ShowsReleased.append_right ?_
  cases found with
  | none => cases hready
  | some d =>
    refine ⟨r, disks, d, hx, hdocument, hfound, ?_⟩
    cases hattached : d.attachedTo with
    | none => rfl
    | some a => simp [detachedReadiness, hattached] at hready

/-- A deletion that ended well has seen it succeed, or the disk gone. -/
theorem settled_of_runs_deleteDisk {action : Action}
    (hr : Runs (c.deleteDisk disk true deadline) h (.ok action)) :
    c.channel.CarriesOut (diskDeletion disk) h.asked ∨ c.ShowsGone disk h.asked := by
  obtain ⟨found, h₁, h₂, rfl, hlook, hr⟩ := runs_bind_ok.1 hr
  obtain ⟨r, disks, hx, hdocument, hfound⟩ := listed_of_runs_disk? hlook
  rw [History.asked_append]
  obtain ⟨hnone, rfl, -⟩ | ⟨-, o, hremove, ho⟩ := runs_unlessDone hr
  · rw [Option.isNone_iff_eq_none] at hnone
    subst hnone
    exact .inr ⟨r, disks, by simpa using hx, hdocument, hfound⟩
  · cases o with
    | error fault => cases ho
    | ok u =>
      obtain ⟨tried, r, id, awaited, hasked, hcarried⟩ := (runs_remove hremove).exists_accepted
      exact .inl ⟨h₁.asked ++ tried, r, id, awaited, by simp [hasked, diskDeletion], hcarried⟩

/-- **Every run of an attempt** to delete a disk that is to be free. -/
theorem attempts_of_runs {o : Except Fault Unit}
    (hr : Runs (c.deleteReleasedDisk disk deadline) h o) : c.Attempts disk h.asked o := by
  have hwaits : ∀ {h o}, Runs (c.awaitDetached disk deadline) h o → ¬ Mutates h.asked := fun hr =>
    not_mutates_of_asks (onlyAsks_awaitDetached (isRead_read _)).asks hr
  obtain ⟨_, h₁, h₂, rfl, hwait, hr⟩ | ⟨fault, rfl, hwait⟩ := runs_bind.1 hr
  case inr =>
    have hreads := hwaits hwait
    refine ⟨looked_of_runs_awaitDetached hwait, mutatesOnly_of_not_mutates hreads,
      by simp [acceptedChanges_of_not_mutates hreads], fun {before after q answer} hs hq => ?_,
      fun ho => nomatch ho⟩
    exact absurd ⟨(q, answer), by simp [hs], hq⟩ hreads
  have hreads := hwaits hwait
  have hreleased := released_of_runs_awaitDetached hwait
  obtain ⟨r, hdelete, hok⟩ : ∃ r, Runs (c.deleteDisk disk true deadline) h₂ r ∧
      (o = .ok () → ∃ action, r = .ok action) := by
    obtain ⟨action, h₃, h₄, rfl, hdelete, hend⟩ | ⟨fault, rfl, hdelete⟩ := runs_bind.1 hr
    · obtain ⟨rfl, -⟩ := runs_done.1 hend
      exact ⟨.ok action, by simpa using hdelete, fun _ => ⟨action, rfl⟩⟩
    · exact ⟨.error fault, hdelete, fun ho => nomatch ho⟩
  have hcourse : (LifecycleCall.intent c (.deleteDisk disk true)).Course c h₂.asked r :=
    follows_deleteDisk h₂ r hdelete
  rw [History.asked_append]
  refine ⟨?_, mutatesOnly_append.2 ⟨mutatesOnly_of_not_mutates hreads, hcourse.mutatesOnly⟩, ?_,
    fun {before after q answer} hs hq => ?_, fun ho => ?_⟩
  · obtain ⟨answer, hx⟩ := looked_of_runs_awaitDetached hwait
    exact ⟨answer, List.mem_append_left _ hx⟩
  · rw [acceptedChanges_append, acceptedChanges_of_not_mutates hreads, List.nil_append]
    exact hcourse.length_acceptedChanges_le
  · -- the deletion follows the wait
    obtain ⟨l, hl⟩ | ⟨l, rfl, -⟩ := append_cons_eq_append hs.symm
    · exact absurd ⟨(q, answer), by simp [hl], hq⟩ hreads
    · exact hreleased.append_left
  · obtain ⟨action, rfl⟩ := hok ho
    exact ⟨h₁.asked, h₂.asked, rfl, hreleased, settled_of_runs_deleteDisk hdelete⟩

end Client

end CloudOrchestration
