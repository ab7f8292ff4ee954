import CloudOrchestration.Proofs.Teardown.Cabinet
import CloudOrchestration.Proofs.Teardown.Removal
/-!
# Machines that share a deployment

Whether a machine is taken down alone or with its deployment is settled before
the general lock is obtained. Against a provider that keeps role lists the
deployment may therefore have other machines by the time it is deleted. It has
one just if that was submitted between the look and the lock
(`deletes_others_iff`); it happens (`deletes_others`).
-/

namespace CloudOrchestration

open Workflow Channel Schedule

/-- A call that submits a machine, or takes one down. -/
inductive MachineCall where
  | provision (d : Descriptor)
  | deleteAt (address : String)

/-- What such a call ends with. -/
inductive MachineAnswer where
  | machine (outcome : Except Fault Machine) (d : Descriptor)
  | gone

/-- The call itself. -/
def MachineCall.run (c : Client) (deadline : Deadline) : MachineCall → Call MachineAnswer
  | provision d => (fun x => .machine x.1 x.2) <$> c.provision d deadline
  | deleteAt address => (fun _ => .gone) <$> c.deleteMachineAt address deadline

/-- **A machine that slips in.** After a call has looked, and while it waits for
the general lock, another call that holds it submits the machine, which stays. -/
structure SlipsIn {σ : Type} (c : Client) (calls : List (MachineCall × Deadline))
    (server : Server σ Request (Except Fault Response)) (accepts : σ → Request → Bool) (s : σ)
    (i look : Nat) (service deployment other : String)
    (before : List (Nat × Sight Request (Except Fault Response))) (j : Nat) (q : Request)
    (after : List (Nat × Sight Request (Except Fault Response))) : Prop
    extends Placed c.wire server accepts s service deployment other before q after where
  looked : look < before.length
  locked : .acquired .general ∈ sightsOf i after
  sender : ∃ d deadline, calls[j]? = some (.provision d, deadline) ∧ c.Submits d q
  held : Sight.holds .general (sightsOf j before)

namespace Client

variable {c : Client} {deadline : Deadline} {calls : List (MachineCall × Deadline)}

theorem disciplined_machineCall (call : MachineCall) : Disciplined (call.run c deadline) := by
  cases call with
  | provision d => exact disciplined_bind disciplined_provision fun _ => disciplined_done _
  | deleteAt address =>
    exact disciplined_bind disciplined_deleteMachineAt fun _ => disciplined_done _

section AnyOrder

variable {σ : Type} {server : Server σ Request (Except Fault Response)} {w : World σ}
variable {roles : σ → String → String → List String} {accepts : σ → Request → Bool}
variable {s : Schedule σ Request (Except Fault Response) MachineAnswer}
variable {n i j : Nat} {q : Request} {r : Except Fault Response}
variable {address service deployment other : String} {d : Deployment} {role : Role}

theorem getElem?_machineCall {a : MachineCall × Deadline} (hi : calls[i]? = some a) :
    (calls.map fun x => x.1.run c x.2)[i]? = some (a.1.run c a.2) := by
  rw [List.getElem?_map, hi]
  rfl

theorem interleaves_machineCalls
    (hr : Reaches server (Schedule.start w (calls.map fun x => x.1.run c x.2)) s) :
    Interleaves server w.server s.seen s.world.server := by
  refine hr.interleaves (P := fun _ held => held = none) ?_
  exact List.forall_mem_map.2 fun x _ => disciplined_machineCall x.1

/-- **Machines are submitted under the lock**, each by the call that provisions
it. -/
theorem submits_under_lock
    (hr : Reaches server (Schedule.start w (calls.map fun x => x.1.run c x.2)) s)
    (hn : s.seen[n]? = some (j, .asked q r)) (hq : q.SubmitsMachine) :
    (∃ d deadline, calls[j]? = some (.provision d, deadline) ∧ c.Submits d q) ∧
      Sight.holds .general (sightsOf j (s.seen.take n)) := by
  have hlt := hr.lt_of_mem_seen (List.mem_of_getElem? hn)
  rw [List.length_map] at hlt
  obtain ⟨⟨call, deadline⟩, hj⟩ : ∃ a, calls[j]? = some a := ⟨_, List.getElem?_eq_getElem hlt⟩
  obtain ⟨h, o, rest, hrun, hsights⟩ := hr.run_through (getElem?_machineCall hj) hn
  have hasked : (q, r) ∈ h.asked := History.mem_asked.2 (by simp [hsights])
  have hcall : Runs (call.run c deadline) h o := hrun
  cases call with
  | provision d =>
    obtain ⟨o', hprovision, -⟩ := runs_map hcall
    refine ⟨⟨d, deadline, hj, submits_of_provision hprovision hasked hq⟩, ?_⟩
    have hsectioned : Obeys (sectioned .general (Request.FollowsSubmission (c.serviceOf d)))
        .before ((MachineCall.provision d).run c deadline) fun _ _ => True :=
      obeys_bind sectioned_provision (fun _ _ _ => obeys_done trivial) fun _ _ _ => trivial
    obtain hholds | ⟨hlate, -⟩ := hr.inside_or_late (getElem?_machineCall hj) hsectioned hn
    · exact hholds
    · exact absurd hq hlate.1
  | deleteAt address =>
    -- a teardown reads and deletes
    obtain ⟨o', hteardown, -⟩ := runs_map hcall
    have hkind : q.method = .get ∨ q.method = .delete :=
      asks_deleteMachineAt h o' hteardown _ hasked
    rw [hq.1] at hkind
    rcases hkind with hkind | hkind <;> cases hkind

/-- **What a teardown has seen of its machine** is what the provider had. -/
theorem roles_of_shows (hkeeps : KeepsRoles c.wire server roles accepts)
    (hrow : Interleaves server w.server s.seen s.world.server) {look : Nat} {name : String}
    {shown : Response} (hshows : c.Shows address shown d service role)
    (hlook : s.seen[look]? = some (i, .asked (.read (Path.cloudServiceDetail name)) (.ok shown))) :
    roles (serverAfter server w.server (s.seen.take (look + 1))) service d.name =
      d.roles.map (·.name) := by
  obtain ⟨found, hread, rfl, listed, hlisted, rfl⟩ := hshows.document
  have hshown := hkeeps.shown (hrow.answer_eq hlook).symm hshows.isSuccess hread listed hlisted
  rw [List.take_add_one, hlook, Option.toList_some, serverAfter_append_one]
  exact (hkeeps.roles_read _ _ _).trans hshown.symm

/-- **Whoever adds a machine** before a call deletes under the lock has done so
before the call obtained it. -/
theorem slipsIn_of_placed
    (hr : Reaches server (Schedule.start w (calls.map fun x => x.1.run c x.2)) s)
    (hi : calls[i]? = some (.deleteAt address, deadline))
    (hholds : Sight.holds .general (sightsOf i (s.seen.take n)))
    {before after : List (Nat × Sight Request (Except Fault Response))} {look : Nat}
    (htake : s.seen.take n = before ++ (j, .asked q r) :: after) (hlook : look < before.length)
    (hplaced : Placed c.wire server accepts w.server service deployment other before q after) :
    SlipsIn c calls server accepts w.server i look service deployment other before j q after := by
  have hseen : s.seen = before ++ (j, .asked q r) :: (after ++ s.seen.drop n) := by
    calc s.seen = s.seen.take n ++ s.seen.drop n := (List.take_append_drop n s.seen).symm
      _ = before ++ (j, .asked q r) :: (after ++ s.seen.drop n) := by
        rw [htake, List.append_assoc, List.cons_append]
  have hj : s.seen[before.length]? = some (j, .asked q r) := by
    rw [hseen]
    simp
  have hbefore : s.seen.take before.length = before := by
    rw [hseen]
    simp
  obtain ⟨hsender, hheld⟩ :=
    submits_under_lock hr hj (Request.submitsMachine_of_mem_rolesPut hplaced.puts)
  rw [hbefore] at hheld
  have hne : i ≠ j := by
    rintro rfl
    obtain ⟨_, _, hprovision, -⟩ := hsender
    rw [hi] at hprovision
    cases hprovision
  -- two do not hold the lock at once
  obtain ⟨_, hrow⟩ := (interleaves_machineCalls hr).take before.length
  rw [hbefore] at hrow
  have hnot : ¬ Sight.holds .general (sightsOf i before) := fun h => hne (hrow.exclusive h hheld)
  rw [htake, List.append_cons, sightsOf_append, sightsOf_append_other hne] at hholds
  exact ⟨hplaced, hlook, (Sight.holds_or_acquired hholds).resolve_left hnot, hsender, hheld⟩

/-- **Who else is in a deployment that is deleted** has slipped in. -/
theorem companions_iff (hkeeps : KeepsRoles c.wire server roles accepts)
    (hr : Reaches server (Schedule.start w (calls.map fun x => x.1.run c x.2)) s)
    (hi : calls[i]? = some (.deleteAt address, deadline))
    (hholds : Sight.holds .general (sightsOf i (s.seen.take n))) {look : Nat}
    (hlook : look < (s.seen.take n).length)
    (hnot : other ∉ roles (serverAfter server w.server (s.seen.take (look + 1))) service
      deployment) :
    other ∈ roles (serverAfter server w.server (s.seen.take n)) service deployment ↔
      ∃ before j q r after, s.seen.take n = before ++ (j, .asked q r) :: after ∧
        SlipsIn c calls server accepts w.server i look service deployment other before j q
          after := by
  rw [List.length_take, Nat.lt_min] at hlook
  constructor
  · intro hmem
    obtain ⟨mid, hmid⟩ : ∃ mid, s.seen.take n = s.seen.take (look + 1) ++ mid := by
      obtain ⟨k, rfl⟩ := Nat.exists_eq_add_of_le (Nat.succ_le_of_lt hlook.1)
      exact ⟨_, List.take_add⟩
    rw [hmid, serverAfter_append] at hmem
    obtain ⟨hmem, -⟩ | ⟨before, j, q, r, after, rfl, hplaced⟩ := hkeeps.mem_roles_iff.1 hmem
    · exact absurd hmem hnot
    · rw [← List.append_assoc] at hmid
      have hbefore : look < (s.seen.take (look + 1) ++ before).length := by
        rw [List.length_append, List.length_take]
        omega
      exact ⟨_, j, q, r, after, hmid, slipsIn_of_placed hr hi hholds hmid hbefore
        (KeepsRoles.placed_append hplaced)⟩
  · rintro ⟨before, j, q, r, after, htake, hslips⟩
    rw [htake]
    exact hkeeps.mem_roles_iff.2 (.inr ⟨before, j, q, r, after, rfl, hslips.toPlaced⟩)

/-- A call has looked up the machine at an address, with a sight that showed
it. -/
def LookedUp (c : Client) (address : String)
    (seen : List (Nat × Sight Request (Except Fault Response))) (i look : Nat) (d : Deployment)
    (service : String) (role : Role) : Prop :=
  ∃ name shown,
    seen[look]? = some (i, .asked (.read (Path.cloudServiceDetail name)) (.ok shown)) ∧
      c.Shows address shown d service role

/-- **When others are deleted with a machine.** Under the lock a call that takes a
machine down deletes what it has settled by a look before. If it saw the machine
alone, then another is in the deployment that it deletes just if it has slipped in
since. -/
theorem deletes_others_iff (hkeeps : KeepsRoles c.wire server roles accepts)
    (hr : Reaches server (Schedule.start w (calls.map fun x => x.1.run c x.2)) s)
    (hi : calls[i]? = some (.deleteAt address, deadline))
    (hn : s.seen[n]? = some (i, .asked q r)) (hq : q.method = .delete) :
    ∃ (d : Deployment) (service : String) (role : Role) (look : Nat),
      look < n ∧ c.LookedUp address s.seen i look d service role ∧
        if Sight.holds .general (sightsOf i (s.seen.take n)) then
          q = removalOf d service role ∧
            (d.roles.length < 2 → ∀ other, other ≠ role.name →
              (other ∈ roles (serverAfter server w.server (s.seen.take n)) service d.name ↔
                ∃ before j q' r' after, s.seen.take n = before ++ (j, .asked q' r') :: after ∧
                  SlipsIn c calls server accepts w.server i look service d.name other before j q'
                    after))
        else q.ClearsAway service := by
  obtain ⟨h, o, rest, hrun, hsights⟩ := hr.run_through (getElem?_machineCall hi) hn
  obtain ⟨o', hteardown, -⟩ := runs_map hrun
  obtain ⟨d, service, role, name, shown, hmem, hshows, hdeletes⟩ :=
    deletion_of_teardown hteardown hsights hq
  obtain ⟨look, hlook⟩ := List.mem_iff_getElem?.1 (mem_sightsOf.1 hmem)
  have hlength : look < (s.seen.take n).length := (List.getElem?_eq_some_iff.1 hlook).1
  have hlt : look < n := Nat.lt_of_lt_of_le hlength (List.length_take_le ..)
  rw [List.getElem?_take_of_lt hlt] at hlook
  refine ⟨d, service, role, look, hlt, ⟨name, shown, hlook, hshows⟩, ?_⟩
  split at hdeletes
  next hholds =>
    rw [if_pos hholds]
    refine ⟨hdeletes, fun halone other hother => ?_⟩
    -- the look showed one machine, so no other was in the deployment then
    refine companions_iff hkeeps hr hi hholds hlength ?_
    rw [roles_of_shows hkeeps (interleaves_machineCalls hr) hshows hlook, hshows.roles_eq halone]
    simpa using hother
  next hfree => rwa [if_neg hfree]

end AnyOrder

end Client

/-! ## A deployment that is deleted with two machines -/

namespace Cabinet

/-- A machine that is submitted, and one that is taken down. -/
def calls : List (MachineCall × Deadline) :=
  [(.provision (plainDescriptor "b" (some "w")), ⟨400000⟩), (.deleteAt (addressOf "a"), ⟨400000⟩)]

/-- Both of them on their way. -/
def working : Schedule Cabinet Request (Except Fault Response) MachineAnswer :=
  (Schedule.start { server := {} } (calls.map fun x => x.1.run plainClient x.2)).advance respond 22

theorem reaches_working : Reaches respond
    (Schedule.start { server := {} } (calls.map fun x => x.1.run plainClient x.2)) working :=
  Reaches.start.advance 22

/-- What is seen of the two: the second machine is submitted, nothing else is
deleted before the lock is passed on, and then the deployment is deleted. -/
theorem seen_working : Sight.holds .general (sightsOf 1 (working.seen.take 11)) ∧
    (∀ q ∈ acceptedRequests respond accepts {} (working.seen.take 11), q.method ≠ .delete) ∧
    (∃ q r, working.seen[5]? = some (0, Sight.asked q r) ∧ q.method = .post ∧
      q.path = Path.roles "w" "w") ∧
    ∃ r, working.seen[11]? =
      some (1, Sight.asked { method := .delete, path := Path.deployment "w" "w" } (.ok r)) ∧
        r.isSuccess := by
  have hseen : Sight.holds .general (sightsOf 1 (working.seen.take 11)) = true ∧
      (∀ q ∈ acceptedRequests respond accepts {} (working.seen.take 11), q.method ≠ .delete) ∧
      working.seen[5]?.map (fun x => (x.1, x.2.accepted?.map fun q => (q.method, q.path))) =
        some (0, some (.post, Path.roles "w" "w")) ∧
      working.seen[11]?.map (fun x => (x.1, x.2.accepted?)) =
        some (1, some { method := .delete, path := Path.deployment "w" "w" }) := by
    decide +kernel
  obtain ⟨hholds, hnone, hsubmitted, hdeleted⟩ := hseen
  refine ⟨hholds, hnone, ?_, exists_of_map_accepted? hdeleted⟩
  obtain ⟨⟨i, x⟩, hx, heq⟩ := Option.map_eq_some_iff.1 hsubmitted
  obtain ⟨rfl, haccepted⟩ := Prod.mk.inj heq
  obtain ⟨q, hq, hkind⟩ := Option.map_eq_some_iff.1 haccepted
  obtain ⟨r, rfl, -⟩ := Sight.accepted?_eq_some.1 hq
  obtain ⟨hmethod, hpath⟩ := Prod.mk.inj hkind
  exact ⟨q, _, hx, hmethod, hpath⟩

theorem rolesPut_submission {q : Request} {r : Except Fault Response}
    (hn : working.seen[5]? = some (0, Sight.asked q r)) (hmethod : q.method = .post)
    (hpath : q.path = Path.roles "w" "w") : q.rolesPut .json "w" "w" = ["b"] := by
  obtain ⟨⟨d, deadline, hcall, d', kind, hsettled, rfl⟩, -⟩ :=
    Client.submits_under_lock reaches_working hn ⟨hmethod, "w", .inr ⟨"w", hpath⟩⟩
  cases hcall
  have hservice : plainClient.serviceOf (plainDescriptor "b" (some "w")) = "w" := rfl
  rw [hservice] at hsettled hpath ⊢
  have hput := Client.rolesPut_submissionOf (c := plainClient) rfl d' "w" kind
  -- it is submitted to the deployment that the path names
  cases kind with
  | role =>
    rw [Path.roles_injective hpath] at hput
    obtain ⟨_, _, rfl⟩ := hsettled
    exact hput
  | deployment => exact absurd hpath.symm Path.roles_ne_deployments

/-- **Both machines are in the deployment** when it is deleted. -/
theorem mem_roles_working {role : String} (hrole : role ∈ ["a", "b"]) :
    role ∈ roles (serverAfter respond {} (working.seen.take 11)) "w" "w" := by
  obtain ⟨-, hnone, ⟨q, r, hn, hmethod, hpath⟩, -⟩ := seen_working
  have hput := rolesPut_submission hn hmethod hpath
  have hkept : ∀ q ∈ acceptedRequests respond accepts {} (working.seen.take 11),
      q.takesRole "w" "w" role = false := fun q hq => by
    simp [Request.takesRole, hnone q hq]
  refine keepsRoles.mem_roles_iff.2 ?_
  obtain rfl | hrole := List.mem_cons.1 hrole
  · exact .inl ⟨by decide, hkept⟩
  · rw [← List.getElem?_take_of_lt (by decide : 5 < 11)] at hn
    have hsplit := (take_append_cons_drop hn).symm
    refine .inr ⟨_, 0, q, r, _, hsplit, ?_, ?_, fun q' hq' => hkept q' ?_⟩
    · simp [accepts, Request.isMutating, Method.isMutating, hmethod]
    · rwa [hput]
    · rw [hsplit, acceptedRequests_append, acceptedRequests]
      exact List.mem_append_right _ (List.mem_append_right _ hq')

/-- Who looks up the machine at an address finds the one that has it. -/
theorem eq_of_lookedUp {role : String} {i look : Nat} {d : Deployment} {service : String}
    {found : Role}
    (h : plainClient.LookedUp (addressOf role) working.seen i look d service found) :
    service = "w" ∧ d.name = "w" ∧ found.name = role := by
  obtain ⟨name, shown, hlook, hshows⟩ := h
  have hanswer := (Client.interleaves_machineCalls reaches_working).answer_eq hlook
  obtain ⟨document, hread, rfl, listed, hlisted, rfl⟩ := hshows.document
  obtain ⟨hservice, hlists⟩ := lists_of_respond hanswer.symm hshows.isSuccess hread
  refine ⟨hservice, (hlists listed hlisted).name, ?_⟩
  -- an instance has the address of the role that it names
  obtain ⟨machine, hmachine, hrole⟩ := Option.bind_eq_some_iff.1 hshows.role
  have haddress : machine.address = some (addressOf role) := by
    simpa using List.find?_some hmachine
  rw [(hlists listed hlisted).addresses machine (List.mem_of_find?_eq_some hmachine),
    Option.some.injEq] at haddress
  have hname : found.name = machine.role := by simpa using List.find?_some hrole
  rw [hname, (String.append_right_inj _).1 haddress]

end Cabinet

namespace Client

open Cabinet

/-- **A deployment is deleted with a machine that shares it**: the deletion is sent
for the machine at one address and is accepted, and a machine of another address
is in the deployment. -/
theorem deletes_others : ∃ (s : Schedule Cabinet Request (Except Fault Response) MachineAnswer)
      (n i : Nat) (r : Response) (role other service deployment : String),
    KeepsRoles plainClient.wire respond roles accepts ∧
    Reaches respond
      (Schedule.start { server := {} } (calls.map fun x => x.1.run plainClient x.2)) s ∧
    calls[i]? = some (.deleteAt (addressOf role), ⟨400000⟩) ∧
    s.seen[n]? = some (i, .asked { method := .delete, path := Path.deployment service deployment }
      (.ok r)) ∧ r.isSuccess ∧
    (∀ name ∈ [role, other],
      name ∈ roles (serverAfter respond {} (s.seen.take n)) service deployment) ∧
    addressOf other ≠ addressOf role := by
  obtain ⟨-, -, -, r, hn, hsuccess⟩ := seen_working
  exact ⟨working, 11, 1, r, "a", "b", "w", "w", keepsRoles, reaches_working, rfl, hn, hsuccess,
    fun _ => mem_roles_working, by decide⟩

/-- The other machine has slipped in. -/
theorem deletes_others_iff_sharing : ∃ look before j q r after,
    working.seen.take 11 = before ++ (j, .asked q r) :: after ∧
      SlipsIn plainClient calls respond accepts {} 1 look "w" "w" "b" before j q after := by
  obtain ⟨hholds, -, -, r, hn, -⟩ := seen_working
  obtain ⟨d, service, role, look, -, hlooked, hdeletes⟩ :=
    deletes_others_iff (keepsRoles : KeepsRoles plainClient.wire _ _ _) reaches_working
      (rfl : calls[1]? = some (.deleteAt (addressOf "a"), ⟨400000⟩)) hn rfl
  obtain ⟨rfl, hname, hrole⟩ := eq_of_lookedUp hlooked
  rw [if_pos hholds, hname] at hdeletes
  obtain ⟨hremoval, hiff⟩ := hdeletes
  -- it was seen alone, or its role would be deleted
  have halone : d.roles.length < 2 := by
    refine Nat.lt_of_not_le fun hshared => ?_
    have hpath : Path.deployment "w" "w" = (removalOf d "w" role).path :=
      congrArg Request.path hremoval
    rw [removalOf, if_pos hshared, hname, hrole] at hpath
    exact absurd hpath (by decide)
  exact ⟨look, (hiff halone "b" (by simp [hrole])).1 (mem_roles_working (by simp))⟩

end Client

end CloudOrchestration
