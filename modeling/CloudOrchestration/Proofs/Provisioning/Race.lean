import CloudOrchestration.Proofs.Provisioning.Phases
import CloudOrchestration.Proofs.Schedule.Exclusion
/-!
# Machines that share a cloud service

No two machines are submitted at the same time: the general lock sees to
that. A clean-up is outside of it. So while one machine is submitted to a
cloud service, another that has made the service and has failed since may
delete it, and does so just if it saw the service without deployments
(`deletes_under_holder_iff`); it happens (`deletes_under_holder`).
-/

namespace CloudOrchestration

open Workflow Channel Schedule

variable {c : Client} {d : Descriptor} {deadline : Deadline}
variable {past rest : List (Sight Request (Except Fault Response))}
variable {x : Sight Request (Except Fault Response)}

/-- A sight of a deletion of the cloud service. -/
def Sight.Deletes (x : Sight Request (Except Fault Response)) (service : String) : Prop :=
  ∃ q r, x = .asked q r ∧ q.method = .delete ∧ q.path = Path.cloudService service

namespace Client

/-- Something is deleted only in the phase for it, and it is the service. -/
theorem eq_deletionOf_of_phases {service : String} {phase phase' : Phase} {q : Request}
    {r : Except Fault Response} (h : c.phases service phase (.asked q r) = some phase')
    (hq : q.method = .delete) : phase = .checking [] ∧ q = deletionOf service := by
  have hread : ∀ path, q ≠ .read path := by rintro path rfl; cases hq
  cases phase with
  | submitting => simp [phases, hq] at h
  | booting => simp [phases, hq, hread] at h
  | settled => simp [phases, hq] at h
  | checking slots =>
    cases slots with
    | cons slot rest => simp [phases, hread] at h
    | nil =>
      simp only [phases] at h
      split at h
      next heq => exact ⟨rfl, heq⟩
      next => cases h

/-- In that phase nothing else happens. -/
theorem eq_asked_of_phases {service : String} {phase' : Phase}
    (h : c.phases service (.checking []) x = some phase') :
    ∃ r, x = .asked (deletionOf service) r := by
  cases x with
  | asked q r =>
    simp only [phases] at h
    split at h
    next heq => exact ⟨r, by rw [heq]⟩
    next => cases h
  | acquired => cases h
  | refused => cases h
  | released => cases h

/-- **A call that is about to delete its cloud service.** It has made the
service, has given all locks back, and has seen the service listed and all of
its slots empty. -/
structure AtDeletion (c : Client) (service : String)
    (past : List (Sight Request (Except Fault Response))) : Prop where
  made : c.Made (past.filterMap Sight.asked?)
  free : ∀ domain, Sight.holds domain past = false
  released : .released .general ∈ past
  phase : (c.phases service).after .submitting past = some (.checking [])

/-- What comes before a deletion: the sequence that has failed, and looks of
the clean-up. -/
theorem past_of_deletion {h : History Request (Except Fault Response)}
    {o : Except Fault (Except Fault Machine × Descriptor)} {q : Request}
    {r : Except Fault Response} (hr : Runs (c.provision d deadline) h o)
    (hs : h.sights = past ++ .asked q r :: rest) (hq : q.method = .delete) :
    ∃ (h₁ : History Request (Except Fault Response)) (looked : List Asked) (o' : _),
      past = h₁.sights ++ sights looked ∧ Runs (c.uncompensated d deadline) h₁ o' ∧
        c.Made h₁.asked := by
  obtain ⟨r', d', h₁, h₂, rfl, rfl, hstrict, hd, hparts⟩ := provision_parts hr
  -- the deletion lies beyond the sequence, which deletes nothing
  have hkept : .asked q r ∉ h₁.sights := fun hx => hd _ (History.mem_asked.2 hx) hq
  rw [History.sights_append] at hs
  have hsplit : ∃ looked,
      past = h₁.sights ++ looked ∧ h₂.sights = looked ++ .asked q r :: rest := by
    obtain ⟨l, hl⟩ | hsplit := append_cons_eq_append hs.symm
    · exact absurd (by simp [hl]) hkept
    · exact hsplit
  obtain ⟨looked, rfl, hlooked⟩ := hsplit
  obtain ⟨rfl, -⟩ | ⟨-, hm, hcleans⟩ := hparts
  · simp at hlooked
  · obtain ⟨o', hdelete⟩ := hcleans.deletion
    have hasks : OnlyAsks Request.Any (c.deleteCloudService (c.serviceOf d) deadline) :=
      onlyAsks_deleteCloudService (fun _ => trivial) trivial
    rw [hasks.sights_eq hdelete] at hlooked
    obtain ⟨asked, _, -, rfl, -⟩ := List.map_eq_append_iff.1 hlooked
    exact ⟨h₁, asked, _, rfl, hstrict, hm⟩

/-- **Where a run of provisioning deletes**: where it is about to, the
service, and in no other place. -/
theorem deletes_iff {h : History Request (Except Fault Response)}
    {o : Except Fault (Except Fault Machine × Descriptor)}
    (hr : Runs (c.provision d deadline) h o) (hs : h.sights = past ++ x :: rest)
    (service : String) :
    x.Deletes service ↔ service = c.serviceOf d ∧ c.AtDeletion (c.serviceOf d) past := by
  obtain ⟨last, hphases, -⟩ := obeys_provision h o hr
  rw [hs, List.append_cons] at hphases
  obtain ⟨phase', hafter⟩ := Monitor.after_prefix hphases
  rw [Monitor.after_append, Option.bind_eq_some_iff] at hafter
  obtain ⟨phase, hpast, hx⟩ := hafter
  rw [Monitor.after_cons, Option.bind_eq_some_iff] at hx
  obtain ⟨_, hx, -⟩ := hx
  constructor
  · rintro ⟨q, r, rfl, hmethod, hpath⟩
    obtain ⟨rfl, hq⟩ := eq_deletionOf_of_phases hx hmethod
    refine ⟨Path.cloudService_injective (hpath.symm.trans (congrArg Request.path hq)), ?_⟩
    obtain ⟨h₁, looked, o', rfl, hstrict, hm⟩ := past_of_deletion hr hs hmethod
    obtain ⟨_, hdiscipline, rfl⟩ := disciplined_uncompensated h₁ o' hstrict
    -- the sequence holds no lock in the end, and a clean-up obtains none
    have hfree : lockDiscipline.after none (h₁.sights ++ sights looked) = some none := by
      rw [Monitor.after_append, hdiscipline]
      exact after_sights_of_same fun _ _ => rfl
    refine ⟨?_, fun domain => by simp [holds_eq_of_after hfree], released_of_phases hpast ?_, hpast⟩
    · rw [List.filterMap_append, ← History.asked_eq_sights]
      exact hm.append_left
    · exact fun h => nomatch h
  · rintro ⟨rfl, hat⟩
    rw [hat.phase] at hpast
    cases hpast
    obtain ⟨r, rfl⟩ := eq_asked_of_phases hx
    exact ⟨_, r, rfl, rfl, rfl⟩

/-! ## Any order of steps -/

variable {σ : Type} {server : Server σ Request (Except Fault Response)} {w : World σ}
variable {calls : List (Descriptor × Deadline)}
variable {s : Schedule σ Request (Except Fault Response) (Except Fault Machine × Descriptor)}

/-- **When a cloud service is deleted while its lock is held.** -/
theorem deletes_under_holder_iff
    (hr : Reaches server (Schedule.start w (calls.map fun x => c.provision x.1 x.2)) s)
    {n i j : Nat} {a b : Descriptor × Deadline} (hn : s.seen[n]? = some (i, x))
    (hi : calls[i]? = some a) (hj : calls[j]? = some b)
    (hholds : Sight.holds .general (sightsOf j (s.seen.take n))) :
    x.Deletes (c.serviceOf b.1) ↔
      c.serviceOf b.1 = c.serviceOf a.1 ∧
        c.AtDeletion (c.serviceOf a.1) (sightsOf i (s.seen.take n)) ∧ i ≠ j ∧
        ∃ l₃ l₄, s.seen.take n = l₃ ++ (j, .acquired .general) :: l₄ ∧
          .released .general ∈ sightsOf i l₃ := by
  have hall : ∀ wf ∈ calls.map fun x => c.provision x.1 x.2, Disciplined wf := by
    intro wf hwf
    obtain ⟨y, -, rfl⟩ := List.mem_map.1 hwf
    exact disciplined_provision
  have hcall : (calls.map fun x => c.provision x.1 x.2)[i]? = some (c.provision a.1 a.2) := by
    simp [hi]
  obtain ⟨strand, h, -, hat, hsights⟩ := hr.strand hcall
  obtain ⟨h', o, hrun⟩ := hat.runs
  obtain ⟨rest, hsplit⟩ := exists_sightsOf_eq hn
  have hs : (h ++ h').sights = sightsOf i (s.seen.take n) ++ x :: (rest ++ h'.sights) := by
    rw [History.sights_append, hsights, hsplit]
    simp
  rw [deletes_iff hrun hs]
  refine and_congr_right fun _ => ⟨fun hat => ⟨hat, ?_⟩, fun h => h.1⟩
  -- who is about to delete holds no lock
  have hne : i ≠ j := by
    rintro rfl
    rw [hat.free] at hholds
    cases hholds
  obtain ⟨held, hheld⟩ := hr.after fun wf hwf => hall wf (List.mem_of_getElem? hwf)
  rw [hsplit] at hheld
  obtain ⟨_, hbefore⟩ := Monitor.after_prefix hheld
  obtain ⟨_, hrow⟩ := (hr.interleaves hall).take n
  exact ⟨hne, hrow.released_before hne (acquired_of_released hbefore hat.released) hholds⟩

/-! ## A service that is deleted under a machine -/

/-- A provider that makes a cloud service and refuses the machine that is
submitted to it first. It lists the service after a while, and takes longer
over the second machine. -/
def racingScript : Script := [
  ((.get, Path.cloudService "w"), [.refuses 404, .shows (.obj [
    ("ServiceName", .str "w"),
    ("HostedServiceProperties", .obj [("Status", .str CloudService.created)])])]),
  ((.get, Path.cloudServices), [Script.listing [], { Script.listing ["w"] with delay := 20 }]),
  ((.post, Path.cloudServices), [.accepts "1"]),
  Script.operationDone "1",
  ((.post, Path.deployments "w"), [.refuses 400, .accepts "2" 1000]),
  ((.delete, Path.cloudService "w"), [.accepts "3"])]

/-- Two machines for one cloud service. -/
def racers : List (Descriptor × Deadline) :=
  ["a", "b"].map fun role => (plainDescriptor role (some "w"), ⟨400000⟩)

/-- Both of them on their way. -/
def racing : Schedule Script Request (Except Fault Response) (Except Fault Machine × Descriptor) :=
  (Schedule.start { server := racingScript }
    (racers.map fun x => plainClient.provision x.1 x.2)).advance Script.respond 24

theorem reaches_racing : Reaches Script.respond (Schedule.start { server := racingScript }
    (racers.map fun x => plainClient.provision x.1 x.2)) racing :=
  Reaches.start.advance 24

/-- The first machine's clean-up deletes the service while the second holds
the lock. -/
theorem seen_racing : Sight.holds .general (sightsOf 1 (racing.seen.take 15)) ∧
    ∃ r, racing.seen[15]? = some (0, .asked (deletionOf "w") (.ok r)) ∧ r.isSuccess := by
  have hseen : Sight.holds .general (sightsOf 1 (racing.seen.take 15)) = true ∧
      racing.seen[15]?.map (fun x => (x.1, x.2.accepted?)) = some (0, some (deletionOf "w")) := by
    decide +kernel
  exact ⟨hseen.1, exists_of_map_accepted? hseen.2⟩

/-- **A cloud service is deleted under a machine**: the deletion is sent and
accepted while another machine holds the general lock and is submitted to the
service. -/
theorem deletes_under_holder : ∃ (s : Schedule Script Request (Except Fault Response)
      (Except Fault Machine × Descriptor)) (n i j : Nat) (r : Response)
      (a b : Descriptor × Deadline),
    Reaches Script.respond (Schedule.start { server := racingScript }
      (racers.map fun x => plainClient.provision x.1 x.2)) s ∧
    racers[i]? = some a ∧ racers[j]? = some b ∧ i ≠ j ∧
    s.seen[n]? = some (i, .asked (deletionOf (plainClient.serviceOf b.1)) (.ok r)) ∧
    r.isSuccess ∧ Sight.holds .general (sightsOf j (s.seen.take n)) := by
  obtain ⟨hholds, r, hn, hsuccess⟩ := seen_racing
  exact ⟨racing, 15, 0, 1, r, _, _, reaches_racing, rfl, rfl, by decide, hn, hsuccess, hholds⟩

/-- The one that deletes has made the service, and has given back the lock
before the other obtained it. -/
theorem deletes_under_holder_iff_racing :
    plainClient.AtDeletion "w" (sightsOf 0 (racing.seen.take 15)) ∧
      ∃ l₃ l₄, racing.seen.take 15 = l₃ ++ (1, .acquired .general) :: l₄ ∧
        .released .general ∈ sightsOf 0 l₃ := by
  obtain ⟨hholds, r, hn, -⟩ := seen_racing
  obtain ⟨-, hat, -, hbefore⟩ :=
    (deletes_under_holder_iff reaches_racing hn (a := (plainDescriptor "a" (some "w"), ⟨400000⟩))
      (b := (plainDescriptor "b" (some "w"), ⟨400000⟩)) rfl rfl hholds).1
      ⟨_, _, rfl, rfl, rfl⟩
  exact ⟨hat, hbefore⟩

end Client

end CloudOrchestration
