import CloudOrchestration.Proofs.Document.Topology
import CloudOrchestration.Proofs.Network.Coverage
import CloudOrchestration.Proofs.Network.Editing
import CloudOrchestration.Proofs.Network.Unchanged
/-!
# What a call writes for what it has read

Before a call writes the topology it has read it, for the last time in that
call, and what it writes is what it makes of what it was shown
(`Client.EditsRead`). So the value that is written has of the one that was read
what the topology names, and nothing else
(`NetworkCall.write_rests_on_read`): a member that the topology does not name is
lost with the first write, wherever it stands (`NetworkCall.forgets_members`).
-/

namespace CloudOrchestration

open Workflow Channel Json

variable {c : Client} {deadline : Deadline} {f : Topology → Topology} {t : Topology}
variable {h : History Request (Except Fault Response)}

namespace Client

/-- A success that shows a topology holds the value of one. -/
theorem decode_of_shown {r : Response} (hsuccess : r.isSuccess)
    (h : c.shownTopology (.ok r) = .ok t) :
    ∃ v, c.wire.decode r.body = .ok v ∧ Document.decode v = some t := by
  obtain ⟨_, found, ⟨⟩, hfound, rfl⟩ := shownTopology_eq_ok h
  obtain ⟨-, hstatus | ⟨hnot, -⟩⟩ | ⟨t, rfl, -, hread⟩ := optionalDocument_eq_ok hfound
  · simp [Response.isSuccess, hstatus] at hsuccess
  · rw [hsuccess] at hnot
    cases hnot
  · exact Wire.exists_decode_of_read hread

/-! ## The writes of a call -/

/-- A request that replaces the topology. -/
def Replaces (c : Client) (t : Topology) (q : Request) : Prop :=
  ∃ body, c.wire.write t = .ok body ∧
    q = { method := .put, path := Path.topology, body := some body, contentType := .plain }

theorem onlyAsks_replaces :
    OnlyAsks (fun q => c.Replaces t q ∨ q.IsAside) (c.writeTopology t deadline) := by
  rw [writeTopology, replace, put]
  cases hbody : c.channel.wire.write t with
  | error fault => exact onlyAsks_fail fault
  | ok body =>
    exact onlyAsks_bind (onlyAsks_submit (.inl ⟨body, hbody, rfl⟩)) fun id =>
      onlyAsks_awaitOperation (.inr (isAside_operation id))

/-- **The requests of a call that makes `f` of the topology.** All that it writes
is what it makes of what the last read of the topology has shown. -/
inductive EditsRead (c : Client) (f : Topology → Topology) : List Asked → Prop where
  | spared {asked : List Asked} (hspares : ∀ x ∈ asked, x.1.SparesTopology) :
      EditsRead c f asked
  | edited {before after : List Asked} {r : Response} {t : Topology}
      (hbefore : ∀ x ∈ before, x.1.SparesTopology) (hshown : c.shownTopology (.ok r) = .ok t)
      (hafter : ∀ x ∈ after, c.Replaces (f t) x.1 ∨ x.1.IsAside) :
      EditsRead c f (before ++ (.read Path.topology, .ok r) :: after)

namespace EditsRead

variable {asked asked' : List Asked}

/-- What comes before may read the topology. -/
theorem append_left (h : c.EditsRead f asked') (hspares : ∀ x ∈ asked, x.1.SparesTopology) :
    c.EditsRead f (asked ++ asked') := by
  cases h with
  | spared hspares' => exact .spared (List.forall_mem_append.2 ⟨hspares, hspares'⟩)
  | edited hbefore hshown hafter =>
    rw [← List.append_assoc]
    exact .edited (List.forall_mem_append.2 ⟨hspares, hbefore⟩) hshown hafter

/-- What comes after must not. -/
theorem append_right (h : c.EditsRead f asked) (haside : ∀ x ∈ asked', x.1.IsAside) :
    c.EditsRead f (asked ++ asked') := by
  cases h with
  | spared hspares =>
    exact .spared (List.forall_mem_append.2 ⟨hspares, fun x hx => (haside x hx).sparesTopology⟩)
  | edited hbefore hshown hafter =>
    rw [List.append_assoc, List.cons_append]
    exact .edited hbefore hshown
      (List.forall_mem_append.2 ⟨hafter, fun x hx => .inr (haside x hx)⟩)

/-- **What was written was made of what was read.** -/
theorem exists_read (h : c.EditsRead f asked) {q : Request} {answer : Except Fault Response}
    (hx : (q, answer) ∈ asked) (hq : ¬ q.SparesTopology) :
    ∃ before r after t, asked = before ++ (.read Path.topology, .ok r) :: after ∧
      (∀ x ∈ before, x.1.SparesTopology) ∧ (∀ x ∈ after, x.1 ≠ .read Path.topology) ∧
      c.shownTopology (.ok r) = .ok t ∧ c.Replaces (f t) q := by
  cases h with
  | spared hspares => exact absurd (hspares _ hx) hq
  | @edited before after r t hbefore hshown hafter =>
    refine ⟨before, r, after, t, rfl, hbefore, fun x hx hread => ?_, hshown, ?_⟩
    · -- a read of the topology is no write, and not aside
      obtain ⟨_, -, hwrite⟩ | haside := hafter x hx
      · rw [hread] at hwrite
        cases hwrite
      · exact haside (congrArg Request.path hread)
    · rcases List.mem_append.1 hx with hx | hx
      · exact absurd (hbefore _ hx) hq
      · rcases List.mem_cons.1 hx with hx | hx
        · cases hx
          exact absurd (sparesTopology_read _) hq
        · exact (hafter _ hx).resolve_right fun haside => hq haside.sparesTopology

end EditsRead

/-- **A part under the network lock** that reads the topology first. -/
theorem editsRead_exclusively {g : Topology → Call Action} {o : Except Fault Action}
    (hg : ∀ t, OnlyAsks (fun q => c.Replaces (f t) q ∨ q.IsAside) (g t))
    (hr : Runs (exclusively .network deadline (c.topology deadline >>= g)) h o) :
    c.EditsRead f h.asked := by
  obtain ⟨h', hasked, hbody⟩ | ⟨hasked, -⟩ := runs_exclusively hr
  · rw [hasked]
    obtain ⟨t, h₁, h₂, rfl, hread, hrest⟩ | ⟨fault, rfl, hread⟩ := runs_bind.1 hbody
    · obtain ⟨answer, ⟨failures, hasked₁⟩, hshown⟩ := runs_topology hread
      obtain ⟨r, found, rfl, -, -⟩ := shownTopology_eq_ok hshown.symm
      rw [History.asked_append, hasked₁, List.append_assoc, List.singleton_append]
      refine .edited (fun x hx => ?_) hshown.symm fun x hx => (hg t).of_mem_asked hrest hx
      obtain ⟨failure, -, rfl⟩ := List.mem_map.1 hx
      exact sparesTopology_read _
    · obtain ⟨answer, hreads, -⟩ := runs_topology hread
      exact .spared (spares_of_reads hreads)
  · exact .spared (by simp [hasked])

theorem editsRead_mergeNetwork {delta : Delta} {o : Except Fault Action}
    (hr : Runs (c.mergeNetwork delta deadline) h o) :
    c.EditsRead (fun t => (delta.into t).value) h.asked := by
  obtain ⟨action, h₁, h₂, rfl, hmerge, hr⟩ | ⟨fault, rfl, hmerge⟩ := runs_bind.1 hr
  · rw [History.asked_append]
    refine (editsRead_exclusively (fun t => onlyAsks_unlessDone onlyAsks_replaces)
      hmerge).append_right fun x hx => ?_
    -- the connection is set up aside of the topology
    cases hvpn : delta.vpn with
    | none =>
      simp only [hvpn, pure_eq, runs_done] at hr
      rw [hr.1] at hx
      cases hx
    | some vpn =>
      simp only [hvpn, bind_eq] at hr
      exact (onlyAsks_bind onlyAsks_connect_aside fun _ => onlyAsks_done action).of_mem_asked hr hx
  · exact editsRead_exclusively (fun t => onlyAsks_unlessDone onlyAsks_replaces) hmerge

end Client

namespace NetworkCall

open Client

/-- **Every call on networks writes for what it has read.** -/
theorem editsRead_run (call : NetworkCall) {o : Except Fault Action}
    (hr : Runs (call.run c deadline) h o) : c.EditsRead call.transform h.asked := by
  cases call with
  | merge delta => exact editsRead_mergeNetwork hr
  | ensureSite name affinityGroup addressSpace =>
    obtain ⟨action, h₁, h₂, rfl, hmerge, hr⟩ | ⟨fault, rfl, hmerge⟩ := runs_bind.1 hr
    · have hnil : h₂ = [] := by
        cases action <;> exact (runs_done.1 hr).1
      rw [hnil, List.append_nil]
      exact editsRead_mergeNetwork hmerge
    · exact editsRead_mergeNetwork hmerge
  | addSubnet site subnet addressPrefix =>
    refine editsRead_exclusively (fun t => ?_) hr
    split
    · exact onlyAsks_fail _
    · exact onlyAsks_unlessDone onlyAsks_replaces
  | removeSubnet site subnet =>
    refine editsRead_exclusively (fun t => ?_) hr
    split
    · exact onlyAsks_done _
    · exact onlyAsks_unlessDone onlyAsks_replaces
  | deleteSite name =>
    obtain ⟨t, h₁, h₂, rfl, hread, hr⟩ | ⟨fault, rfl, hread⟩ := runs_bind.1 hr
    · obtain ⟨answer, hreads, -⟩ := runs_topology hread
      rw [History.asked_append]
      refine EditsRead.append_left ?_ (spares_of_reads hreads)
      split at hr
      · obtain ⟨rfl, -⟩ := runs_done.1 hr
        exact .spared (List.forall_mem_nil _)
      · obtain ⟨_, h₃, h₄, rfl, hremove, hr⟩ | ⟨fault, rfl, hremove⟩ := runs_bind.1 hr
        · rw [History.asked_append]
          exact (editsRead_exclusively (fun t => onlyAsks_unlessDone onlyAsks_replaces)
            hr).append_left fun x hx => onlyAsks_removeGateway.of_mem_asked hremove hx
        · exact .spared fun x hx => onlyAsks_removeGateway.of_mem_asked hremove hx
    · obtain ⟨answer, hreads, -⟩ := runs_topology hread
      exact .spared (spares_of_reads hreads)

/-- **A write of the topology that rests on a read.** Of the document that was
read last, if there was one, it has at a place what that had there just if the
topology names the place and it was no `null`, nor an array in place of an object,
apart from what the call takes away. -/
def RestsOnRead (c : Client) (call : NetworkCall) (asked : List Asked) (q : Request) : Prop :=
  ∃ before r after body, asked = before ++ (.read Path.topology, .ok r) :: after ∧
    (∀ x ∈ before, x.1.SparesTopology) ∧ (∀ x ∈ after, x.1 ≠ .read Path.topology) ∧
    q = { method := .put, path := Path.topology, body := some body, contentType := .plain } ∧
    (r.isSuccess → ∃ v w, c.wire.decode r.body = .ok v ∧ c.wire.encode w = .ok body ∧
      call.Rewrites v w)

/-- **Every write of the topology rests on a read.** -/
theorem write_rests_on_read {call : NetworkCall} {o : Except Fault Action} {q : Request}
    {answer : Except Fault Response} (hr : Runs (call.run c deadline) h o)
    (hx : (q, answer) ∈ h.asked) (hq : ¬ q.SparesTopology) : call.RestsOnRead c h.asked q := by
  obtain ⟨before, r, after, t, hasked, hbefore, hafter, hshown, body, hbody, rfl⟩ :=
    (call.editsRead_run hr).exists_read hx hq
  refine ⟨before, r, after, body, hasked, hbefore, hafter, rfl, fun hsuccess => ?_⟩
  obtain ⟨v, hv, ht⟩ := decode_of_shown hsuccess hshown
  exact ⟨v, encode (call.transform t), hv, hbody, call.rewrites_of_decode ht⟩

/-! ## A topology with members of other programs -/

/-- A topology with a site whose subnet carries more than the topology names. -/
def labelled : Json := .obj [("VirtualNetworkSites", .arr [.obj [
  ("Label", .str "main"),
  ("Name", .str "v"),
  ("Subnets", .arr [.obj [
    ("AddressPrefix", .str "p"), ("Name", .str "a"), ("SecurityGroup", .str "web")]])]])]

/-- What is read of it. -/
def unlabelled : Topology where
  sites := [{ name := "v", affinityGroup := "", addressSpace := {}, subnets := [⟨"a", "p"⟩] }]

/-- Where the members of the subnet are. -/
def subnetPlace (key : String) : Place :=
  [.member "VirtualNetworkSites", .item 0, .member "Subnets", .item 0, .member key]

/-- A change for which the subnet should be there, and another one. -/
def twoSubnets : Delta where
  site := "v"
  affinityGroup := ""
  addressSpace := ""
  subnets := [⟨"a", "p"⟩, ⟨"b", "q"⟩]

/-- A provider with that topology. -/
def labelledScript : Script := [
  ((.get, Path.topology), [.shows labelled]),
  ((.put, Path.topology), [.accepts "1"]),
  Script.operationDone "1"]

/-- What the provider answers with it. -/
def labelledAnswer : Response := { status := 200, requestId := none, body := labelled.toBytes }

/-- The other subnet is added: the call reads nothing but that topology, and writes
one. -/
theorem played_labelled :
    ((merge twoSubnets).played labelledScript).2 = .ok .update ∧
      (∃ x ∈ ((merge twoSubnets).played labelledScript).1.asked, ¬ x.1.SparesTopology) ∧
      ∀ x ∈ ((merge twoSubnets).played labelledScript).1.asked,
        x.1 = .read Path.topology → x.2 = .ok labelledAnswer := by
  decide +kernel

/-- The write rests on the read. -/
theorem write_rests_on_read_labelled :
    ∃ x ∈ ((merge twoSubnets).played labelledScript).1.asked, ¬ x.1.SparesTopology ∧
      (merge twoSubnets).RestsOnRead plainClient
        ((merge twoSubnets).played labelledScript).1.asked x.1 := by
  obtain ⟨hupdate, ⟨x, hx, hwrites⟩, -⟩ := played_labelled
  exact ⟨x, hx, hwrites, write_rests_on_read (runs_played hupdate) hx hwrites⟩

/-- It is read from its bytes. -/
theorem ofBytes?_labelledAnswer : Json.ofBytes? labelledAnswer.body = some labelled := by
  have hsubnet : Json.Writable 1 (.obj [
      ("AddressPrefix", .str "p"), ("Name", .str "a"), ("SecurityGroup", .str "web")]) :=
    .obj (by simpa using ⟨.str _, .str _, .str _⟩) (by unfold Members.Sorted; decide)
  have hsite : Json.Writable 3 (.obj [("Label", .str "main"), ("Name", .str "v"),
      ("Subnets", .arr [.obj [
        ("AddressPrefix", .str "p"), ("Name", .str "a"), ("SecurityGroup", .str "web")]])]) :=
    .obj (by simpa using ⟨.str _, .str _, .arr (by simpa using hsubnet)⟩)
      (by unfold Members.Sorted; decide)
  have hwritable : Json.Writable 5 labelled :=
    .obj (by simpa using .arr (by simpa using hsite)) (by unfold Members.Sorted; decide)
  exact Json.ofBytes?_toBytes (hwritable.mono (by decide))

/-- **A write does not keep all that was there**: the subnet is kept, and what else
it carried is gone, though the merge has only added another. -/
theorem forgets_members :
    ∃ h r q answer body w,
      Runs ((merge twoSubnets).run plainClient ⟨1000⟩) h (.ok .update) ∧
      (.read Path.topology, .ok r) ∈ h.asked ∧ (q, answer) ∈ h.asked ∧
      q = { method := .put, path := Path.topology, body := some body, contentType := .plain } ∧
      Json.ofBytes? r.body = some labelled ∧ Json.ofBytes? body = some w ∧
      labelled.at? (subnetPlace "Name") = some (.str "a") ∧
      w.at? (subnetPlace "Name") = some (.str "a") ∧
      labelled.at? (subnetPlace "SecurityGroup") = some (.str "web") ∧
      w.at? (subnetPlace "SecurityGroup") = none := by
  obtain ⟨hupdate, ⟨⟨q, answer⟩, hx, hwrites⟩, honly⟩ := played_labelled
  have hr := runs_played hupdate
  obtain ⟨before, r, after, t, hasked, -, -, hshown, body, hbody, rfl⟩ :=
    ((merge twoSubnets).editsRead_run hr).exists_read hx hwrites
  have hread : (.read Path.topology, .ok r) ∈
      ((merge twoSubnets).played labelledScript).1.asked := by simp [hasked]
  cases honly _ hread rfl
  obtain ⟨v, hv, ht⟩ := decode_of_shown rfl hshown
  obtain rfl : labelled = v := by
    simpa [plainClient, Wire.json, ofBytes?_labelledAnswer] using hv
  cases (show decode labelled = some unlabelled from rfl).symm.trans ht
  have hwritable : Json.Writable Json.maxDepth (encode (twoSubnets.into unlabelled).value) :=
    (Topology.faithful.writable _).mono (by decide)
  have hwritten := Json.ofBytes?_toBytes hwritable
  have hsent : (encode (twoSubnets.into unlabelled).value).toBytes = body := Except.ok.inj hbody
  rw [hsent] at hwritten
  exact ⟨_, labelledAnswer, _, answer, body, _, hr, hread, hx, rfl,
    ofBytes?_labelledAnswer, hwritten, rfl, rfl, rfl, rfl⟩

end NetworkCall

end CloudOrchestration
