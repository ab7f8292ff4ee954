import CloudOrchestration.Client.DataDisks
import CloudOrchestration.Proofs.Client.Discipline
/-!
# Data disks and the storage lock

The calls that attach data disks keep to a section under the storage lock, and
so does the one that makes a disk by attaching and detaching it. The call that
detaches a disk takes no lock. So while one of them holds the lock, the others
ask for nothing, but for a detachment, which goes on and sends its removal
(`changes_under_holder_iff`); it happens (`detaches_under_holder`).
-/

namespace CloudOrchestration

open Workflow Channel Schedule

variable {c : Client} {deadline : Deadline} {service deployment role : String} {lun : UInt8}
variable {p : Request → Prop}

/-- A call that attaches or detaches data disks. -/
inductive DiskCall where
  | add (service deployment role account : String) (sizeGb : UInt32)
  | attach (service deployment role disk : String) (lun : UInt8)
  | detach (service deployment role : String) (lun : UInt8)
  | create (service deployment role account file : String) (sizeGb : UInt32)
  deriving DecidableEq, Repr

/-- What such a call answers. -/
inductive DiskAnswer where
  | attached (disk : DataDisk)
  | done (action : Action)
  | named (name : String)
  deriving DecidableEq, Repr

/-- The call itself. -/
def DiskCall.run (c : Client) (deadline : Deadline) : DiskCall → Call DiskAnswer
  | add service deployment role account sizeGb =>
    .attached <$> c.addDataDisk service deployment role account sizeGb deadline
  | attach service deployment role disk lun =>
    .attached <$> c.attachDataDisk service deployment role disk lun deadline
  | detach service deployment role lun =>
    .done <$> c.detachDataDisk service deployment role lun deadline
  | create service deployment role account file sizeGb =>
    .named <$> c.createDataDisk service deployment role account file sizeGb deadline

/-- A request that attaches or detaches a data disk. -/
def Request.ChangesDisks (q : Request) : Prop :=
  ∃ service deployment role,
    q.method = .post ∧ q.path = Path.dataDisks service deployment role ∨
      q.method = .delete ∧ ∃ lun, q.path = Path.dataDisk service deployment role lun

/-- The request that detaches the disk at a unit. -/
def removalAt (service deployment role : String) (lun : UInt8) : Request :=
  { method := .delete, path := Path.dataDisk service deployment role lun }

theorem changesDisks_removalAt : (removalAt service deployment role lun).ChangesDisks :=
  ⟨service, deployment, role, .inr ⟨rfl, lun, rfl⟩⟩

theorem Request.ChangesDisks.isMutating {q : Request} (hq : q.ChangesDisks) : q.isMutating := by
  obtain ⟨_, _, _, ⟨hmethod, -⟩ | ⟨hmethod, -⟩⟩ := hq <;>
    rw [Request.isMutating, hmethod] <;> rfl

namespace Client

/-! ## What the calls ask for -/

theorem onlyAsks_dataDisk? (hlook : p (.read (Path.dataDisk service deployment role lun))) :
    OnlyAsks p (c.dataDisk? service deployment role lun deadline) :=
  onlyAsks_bind (onlyAsks_ofExcept _) fun _ => onlyAsks_getOptional hlook

theorem onlyAsks_awaitDetached {disk : String} (hlook : p (.read Path.disks)) :
    OnlyAsks p (c.awaitDetached disk deadline) :=
  onlyAsks_awaitState (onlyAsks_bind (onlyAsks_get hlook) fun _ => onlyAsks_done _)

/-- **A detachment** sends its removal, and reads. -/
theorem onlyAsks_detachDataDiskUnlocked (hread : ∀ path, p (.read path))
    (hremoval : p (removalAt service deployment role lun)) :
    OnlyAsks p (c.detachDataDiskUnlocked service deployment role lun deadline) := by
  refine onlyAsks_bind (onlyAsks_dataDisk? (hread _)) fun found => ?_
  cases found with
  | none => exact onlyAsks_done _
  | some disk =>
    refine onlyAsks_bind (onlyAsks_remove (fun _ => hread _) hremoval) fun _ => ?_
    cases disk.diskName with
    | none => exact onlyAsks_done _
    | some name =>
      exact onlyAsks_bind (onlyAsks_awaitDetached (hread _)) fun _ => onlyAsks_done _

theorem onlyAsks_detachDataDisk (hread : ∀ path, p (.read path))
    (hremoval : p (removalAt service deployment role lun)) :
    OnlyAsks p (c.detachDataDisk service deployment role lun deadline) := by
  rw [detachDataDisk_eq]
  exact onlyAsks_detachDataDiskUnlocked hread hremoval

theorem onlyAsks_attaching {disk : DataDisk} :
    OnlyAsks Request.Any (c.submitDataDisk service deployment role disk deadline) :=
  onlyAsks_submitDataDisk (fun _ => trivial) trivial trivial

/-! ## The calls under the lock -/

theorem guarded_addDataDisk {account : String} {sizeGb : UInt32} :
    Guarded .storage (c.addDataDisk service deployment role account sizeGb deadline) :=
  guarded_exclusively (onlyAsks_bind onlyAsks_draw fun _ => onlyAsks_attaching)

theorem guarded_attachDataDisk {disk : String} :
    Guarded .storage (c.attachDataDisk service deployment role disk lun deadline) := by
  show Guarded .storage ((ofExcept (DataDisk.checkLun lun)).bind fun _ => _)
  cases DataDisk.checkLun lun with
  | error fault => exact guarded_fail fault
  | ok _ => exact guarded_exclusively onlyAsks_attaching

theorem guarded_createDataDisk {account file : String} {sizeGb : UInt32} :
    Guarded .storage (c.createDataDisk service deployment role account file sizeGb deadline) := by
  refine guarded_exclusively (p := Request.Any) ?_
  refine onlyAsks_bind (onlyAsks_dataDisk? trivial) fun found => ?_
  split
  · exact onlyAsks_fail _
  · refine onlyAsks_bind onlyAsks_attaching fun attached => ?_
    cases attached.diskName with
    | none => exact onlyAsks_fail _
    | some name =>
      have hdetach : OnlyAsks Request.Any
          (c.detachDataDiskUnlocked service deployment role DataDisk.scratchLun deadline) :=
        onlyAsks_detachDataDiskUnlocked (fun _ => trivial) trivial
      exact onlyAsks_bind hdetach fun _ => onlyAsks_done _

/-- **Every call but a detachment is guarded.** -/
theorem guarded_or_detaches (call : DiskCall) :
    Guarded .storage (call.run c deadline) ∨
      ∃ service deployment role lun, call = .detach service deployment role lun := by
  cases call with
  | add => exact .inl (guarded_map _ guarded_addDataDisk)
  | attach => exact .inl (guarded_map _ guarded_attachDataDisk)
  | create => exact .inl (guarded_map _ guarded_createDataDisk)
  | detach service deployment role lun => exact .inr ⟨service, deployment, role, lun, rfl⟩

theorem disciplined_diskCall (call : DiskCall) : Disciplined (call.run c deadline) := by
  obtain hguarded | ⟨service, deployment, role, lun, rfl⟩ := guarded_or_detaches call
  · exact hguarded.disciplined
  · have hdetach : OnlyAsks Request.Any
        (c.detachDataDisk service deployment role lun deadline) :=
      onlyAsks_detachDataDisk (fun _ => trivial) trivial
    exact disciplined_of_onlyAsks (onlyAsks_bind hdetach fun _ => onlyAsks_done _)

/-! ## Any order of steps -/

section AnyOrder

variable {σ : Type} {server : Server σ Request (Except Fault Response)} {w : World σ}
variable {calls : List (DiskCall × Deadline)}
variable {s : Schedule σ Request (Except Fault Response) DiskAnswer}

/-- **What is asked for while another call holds the storage lock** is asked
for by a detachment, and changes disks just if it is the removal. -/
theorem changes_under_holder_iff
    (hr : Reaches server (Schedule.start w (calls.map fun x => x.1.run c x.2)) s)
    {n i j : Nat} {a : DiskCall × Deadline} {q : Request} {r : Except Fault Response}
    (hn : s.seen[n]? = some (i, .asked q r)) (hi : calls[i]? = some a) (hne : i ≠ j)
    (hholds : Sight.holds .storage (sightsOf j (s.seen.take n))) :
    ∃ service deployment role lun, a.1 = .detach service deployment role lun ∧
      (q.ChangesDisks ↔ q = removalAt service deployment role lun) := by
  have hall : ∀ wf ∈ calls.map fun x => x.1.run c x.2, Disciplined wf :=
    List.forall_mem_map.2 fun x _ => disciplined_diskCall x.1
  have hcall : (calls.map fun x => x.1.run c x.2)[i]? = some (a.1.run c a.2) := by
    simp [hi]
  obtain hguarded | ⟨service, deployment, role, lun, hdetach⟩ :
      Guarded .storage (a.1.run c a.2) ∨ _ := guarded_or_detaches a.1
  · -- outside of its section such a call asks for nothing
    exact (hr.late_of_holds hall hcall hguarded.oneSection hn hne hholds).1.elim
  · refine ⟨service, deployment, role, lun, hdetach, fun hq => ?_, ?_⟩
    · obtain ⟨h, o, rest, hrun, hsights⟩ := hr.run_through hcall hn
      rw [hdetach] at hrun
      -- of what a detachment asks for only the removal is no read
      have hasks : OnlyAsks
          (fun q => q.isMutating → q = removalAt service deployment role lun)
          (DiskCall.run c a.2 (.detach service deployment role lun)) :=
        onlyAsks_bind (onlyAsks_detachDataDisk (fun path h => nomatch h) fun _ => rfl) fun _ =>
          onlyAsks_done _
      obtain ⟨q', r', hx, hremoval⟩ := hasks h o hrun (.asked q r) (by simp [hsights])
      cases hx
      exact hremoval hq.isMutating
    · rintro rfl
      exact changesDisks_removalAt

end AnyOrder

/-! ## A disk that is detached while another is attached -/

/-- A provider that takes its time over the attachment of a disk. -/
def attachingScript : Script := [
  ((.post, Path.dataDisks "w" "w" "a"), [.accepts "1" 100]),
  Script.operationDone "1",
  ((.get, Path.dataDisk "w" "w" "a" 3), [.shows (encode ({ lun := 3 } : DataDisk))]),
  ((.get, Path.dataDisk "w" "w" "b" 1), [.shows (encode ({ lun := 1 } : DataDisk))]),
  ((.delete, Path.dataDisk "w" "w" "b" 1), [.accepts "2"]),
  Script.operationDone "2"]

/-- One disk to attach, and one to detach. -/
def diskCalls : List (DiskCall × Deadline) :=
  [(.attach "w" "w" "a" "x" 3, ⟨400000⟩), (.detach "w" "w" "b" 1, ⟨400000⟩)]

/-- Both of them on their way. -/
def swapping : Schedule Script Request (Except Fault Response) DiskAnswer :=
  (Schedule.start { server := attachingScript }
    (diskCalls.map fun x => x.1.run plainClient x.2)).advance Script.respond 8

theorem reaches_swapping : Reaches Script.respond (Schedule.start { server := attachingScript }
    (diskCalls.map fun x => x.1.run plainClient x.2)) swapping :=
  Reaches.start.advance 8

/-- The removal is accepted while the attachment holds the lock. -/
theorem seen_swapping : Sight.holds .storage (sightsOf 0 (swapping.seen.take 3)) ∧
    ∃ r : Response, swapping.seen[3]? = some (1, .asked (removalAt "w" "w" "b" 1) (.ok r)) ∧
      r.isSuccess := by
  have hseen : Sight.holds .storage (sightsOf 0 (swapping.seen.take 3)) = true ∧
      swapping.seen[3]?.map (fun x => (x.1, x.2.accepted?)) =
        some (1, some (removalAt "w" "w" "b" 1)) := by decide +kernel
  exact ⟨hseen.1, exists_of_map_accepted? hseen.2⟩

/-- **A disk is detached while another is attached**: the removal is sent and
accepted between the attachment's acquisition of the storage lock and its
release. -/
theorem detaches_under_holder : ∃ (s : Schedule Script Request (Except Fault Response) DiskAnswer)
      (n i j : Nat) (q : Request) (r : Response),
    Reaches Script.respond (Schedule.start { server := attachingScript }
      (diskCalls.map fun x => x.1.run plainClient x.2)) s ∧
    i ≠ j ∧ s.seen[n]? = some (i, .asked q (.ok r)) ∧ q.ChangesDisks ∧ r.isSuccess ∧
    Sight.holds .storage (sightsOf j (s.seen.take n)) := by
  obtain ⟨hholds, r, hn, hsuccess⟩ := seen_swapping
  exact ⟨swapping, 3, 1, 0, _, r, reaches_swapping, by decide, hn, changesDisks_removalAt,
    hsuccess, hholds⟩

/-- It is the detachment that does so. -/
theorem changes_under_holder_iff_swapping : ∃ service deployment role lun,
    DiskCall.detach "w" "w" "b" 1 = .detach service deployment role lun ∧
      ((removalAt "w" "w" "b" 1).ChangesDisks ↔
        removalAt "w" "w" "b" 1 = removalAt service deployment role lun) := by
  obtain ⟨hholds, r, hn, -⟩ := seen_swapping
  exact changes_under_holder_iff reaches_swapping hn
    (a := (.detach "w" "w" "b" 1, ⟨400000⟩)) rfl (by decide) hholds

end Client

end CloudOrchestration
