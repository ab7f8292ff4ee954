import CloudOrchestration.Proofs.Network.Gateways
/-!
# Deleting a site

A site goes after its gateway. Its deletion looks whether there is a site at all, takes
the gateway down outside of the lock, and revises the topology under it
(`Client.Deletes`). So whatever the call is answered, before it writes the topology the
gateway was last seen gone, and if its removal was asked for, that was carried out before
it was seen so (`Client.site_goes_after_gateway`).
-/

namespace CloudOrchestration

open Workflow Channel

namespace Channel

variable {asked : List Asked} {q : Request} {answer : Except Fault Response}

/-- The exchanges of a call with a part under a lock. -/
theorem filterMap_asked?_locked {outside inside : List Asked} {d : Domain} :
    (sights outside ++ Sight.acquired d :: (sights inside ++ [Sight.released d])).filterMap
      Sight.asked? = outside ++ inside := by
  simp [List.filterMap_append, List.filterMap_cons, Sight.asked?]

theorem filterMap_asked?_refused {outside : List Asked} {d : Domain} :
    (sights outside ++ [Sight.refused d]).filterMap Sight.asked? = outside := by
  simp [List.filterMap_append, List.filterMap_cons, Sight.asked?]

/-- An exchange that is seen splits the exchanges. -/
theorem exists_of_sights_eq {past rest : List (Sight Request (Except Fault Response))}
    (h : sights asked = past ++ .asked q answer :: rest) :
    ∃ before after, asked = before ++ (q, answer) :: after ∧ past = sights before ∧
      rest = sights after := by
  obtain ⟨before, tail, rfl, rfl, htail⟩ := List.map_eq_append_iff.1 h
  obtain ⟨x, after, rfl, hx, rfl⟩ := List.map_eq_cons_iff.1 htail
  cases hx
  exact ⟨before, after, rfl, rfl, rfl⟩

end Channel

namespace Client

variable {c : Client} {name : String} {deadline : Deadline}
variable {h : History Request (Except Fault Response)} {o : Except Fault Action}
variable {asked before after : List Asked} {q : Request} {answer : Except Fault Response}

/-- **The course of a deletion**, as it is seen. -/
inductive Deletes (c : Client) (name : String) :
    List (Sight Request (Except Fault Response)) → Except Fault Action → Prop where
  /-- The topology could not be read. -/
  | unread {reading : List Asked} {answer : Except Fault Response} {fault : Fault}
      (hreads : Reads Path.topology reading answer)
      (hfault : c.shownTopology answer = .error fault) :
      Deletes c name (sights reading) (.error fault)
  /-- There is no such site. -/
  | missing {reading : List Asked} {r : Response} {t : Topology}
      (hreads : Reads Path.topology reading (.ok r)) (hshown : c.shownTopology (.ok r) = .ok t)
      (hmissing : (t.site? name).isNone) : Deletes c name (sights reading) (.ok .unchanged)
  /-- The gateway was not seen gone. -/
  | kept {reading taking : List Asked} {r : Response} {t : Topology} {fault : Fault}
      (hreads : Reads Path.topology reading (.ok r)) (hshown : c.shownTopology (.ok r) = .ok t)
      (hfound : (t.site? name).isNone = false)
      (htakes : c.RemovesGateway name taking (.error fault)) :
      Deletes c name (sights (reading ++ taking)) (.error fault)
  /-- The lock was not obtained. -/
  | lockedOut {reading taking : List Asked} {r : Response} {t : Topology} {fault : Fault}
      (hreads : Reads Path.topology reading (.ok r)) (hshown : c.shownTopology (.ok r) = .ok t)
      (hfound : (t.site? name).isNone = false) (htakes : c.RemovesGateway name taking (.ok ())) :
      Deletes c name (sights (reading ++ taking) ++ [.refused .network]) (.error fault)
  /-- The topology was revised under the lock. -/
  | revised {reading taking revising : List Asked} {r : Response} {t : Topology}
      {o : Except Fault Action} (hreads : Reads Path.topology reading (.ok r))
      (hshown : c.shownTopology (.ok r) = .ok t) (hfound : (t.site? name).isNone = false)
      (htakes : c.RemovesGateway name taking (.ok ()))
      (hrevises : c.Revises (fun t => (t.site? name).isNone) (·.removeSite name) .delete
        revising o) :
      Deletes c name (sights (reading ++ taking) ++
        .acquired .network :: (sights revising ++ [.released .network])) o

theorem deletes_of_runs (hr : Runs (c.deleteSite name deadline) h o) :
    c.Deletes name h.sights o := by
  have hsights : ∀ {α : Type} {w : Call α} {h o}, OnlyAsks Request.SparesTopology w →
      Runs w h o → h.sights = sights h.asked := fun hw hr => hw.sights_eq hr
  have htopology : OnlyAsks Request.SparesTopology (c.topology deadline) :=
    onlyAsks_topology (sparesTopology_read Path.topology)
  obtain ⟨t, h₁, h₂, rfl, hread, hr⟩ | ⟨fault, rfl, hread⟩ := runs_bind.1 hr
  case inr =>
    obtain ⟨answer, hreads, hfault⟩ := runs_topology hread
    rw [hsights htopology hread]
    exact .unread hreads hfault.symm
  obtain ⟨answer, hreads, hshown⟩ := runs_topology hread
  obtain ⟨r, -, rfl, -⟩ := shownTopology_eq_ok hshown.symm
  rw [History.sights_append, hsights htopology hread]
  split at hr
  next hmissing =>
    obtain ⟨rfl, rfl⟩ := runs_done.1 hr
    simpa using Deletes.missing hreads hshown.symm hmissing
  next hfound =>
    have hfound : (t.site? name).isNone = false := Bool.eq_false_iff.2 hfound
    obtain ⟨_, h₃, h₄, rfl, htake, hr⟩ | ⟨fault, rfl, htake⟩ := runs_bind.1 hr
    · have htakes := removesGateway_of_runs htake
      rw [History.sights_append, hsights onlyAsks_removeGateway htake, ← List.append_assoc,
        ← sights_append]
      obtain ⟨hrevises, hlocked⟩ | ⟨-, hrefused, fault, rfl⟩ := seen_of_runs_revision hr
      · rw [hlocked]
        exact .revised hreads hshown.symm hfound htakes hrevises
      · rw [hrefused]
        exact .lockedOut hreads hshown.symm hfound htakes
    · rw [hsights onlyAsks_removeGateway htake, ← sights_append]
      exact .kept hreads hshown.symm hfound (removesGateway_of_runs htake)

/-! ## Before a write -/

/-- A look that finds no gateway, or one that is not provisioned. -/
def FindsGone (found : Option GatewayInfo) : Prop :=
  found.map (·.state) = none ∨ found.map (·.state) = some .notProvisioned

/-- **What has come before a write of the topology**, outside of the lock and under it. -/
structure RemovesFrom (c : Client) (name : String) (t : Topology) (asked : List Asked)
    (outside reading tries : List Asked) (past : List (Sight Request (Except Fault Response)))
    (q : Request) : Prop where
  /-- Under the lock the topology is read and the write is tried, and nothing else. -/
  locked : past = sights outside ++ .acquired .network :: sights (reading ++ tries)
  shown : ∃ r, Reads Path.topology reading (.ok r) ∧ c.shownTopology (.ok r) = .ok t
  tried : ∀ x ∈ tries, x.1 = q
  /-- The gateway was last seen gone, after its removal if there was any. -/
  gone : ∃ (found : Option GatewayInfo) (earlier : List Asked),
    c.channel.SeenLast (Path.gateway name) found earlier (outside ++ (reading ++ tries)) ∧
      FindsGone found ∧
      ∀ x ∈ asked, x.1.method = .delete → x.1.path = Path.gateway name →
        c.channel.CarriesOut (gatewayRemoval name) earlier
  /-- What is written is the document that was read, without just the sites of the
  name. -/
  sent : c.Replaces { t with sites := t.sites.filter fun site => site.name ≠ name } q
  decoded (hwire : c.wire.Faithful) : ∃ body, q.body = some body ∧
    c.wire.read body = .ok { t with sites := t.sites.filter fun site => site.name ≠ name }

theorem removeSite_eq (t : Topology) (name : String) :
    t.removeSite name = { t with sites := t.sites.filter fun site => site.name ≠ name } := by
  have htest : (fun site : Site => site.name != name) = fun site => decide (site.name ≠ name) := by
    funext site
    by_cases hname : site.name = name <;> simp [hname]
  rw [Topology.removeSite, htest]

/-- What replaces the topology is read as what it was made of. -/
theorem Replaces.decoded {t : Topology} (hq : c.Replaces t q) (hwire : c.wire.Faithful) :
    ∃ body, q.body = some body ∧ c.wire.read body = .ok t := by
  obtain ⟨body, hbody, rfl⟩ := hq
  exact ⟨body, rfl, (Topology.faithful.survives t).read_of_write (by decide) hwire hbody⟩

/-- A request that takes the gateway down is not among those of a revision. -/
theorem Revises.not_removal {isDone : Topology → Bool} {f : Topology → Topology} {action : Action}
    (hr : c.Revises isDone f action asked o) {x : Asked} (hx : x ∈ asked)
    (hmethod : x.1.method = .delete) : x.1.path ≠ Path.gateway name := by
  obtain hpath | ⟨id, heq⟩ := hr.request_eq hx
  · rw [hpath]
    exact Path.topology_ne_gateway name
  · rw [heq] at hmethod
    cases hmethod

/-- **Once a gateway was taken down** it was last seen gone, and a removal that was asked
for was carried out before. -/
theorem RemovesGateway.gone (htakes : c.RemovesGateway name asked (.ok ())) :
    ∃ (found : Option GatewayInfo) (earlier : List Asked),
      c.channel.SeenLast (Path.gateway name) found earlier asked ∧ FindsGone found ∧
        ∀ x ∈ asked, x.1.method = .delete → c.channel.CarriesOut (gatewayRemoval name) earlier := by
  obtain ⟨found, earlier, hseen, ⟨hnot, hreads⟩ | ⟨hready, hcarried⟩⟩ := htakes.seenLast
  · refine ⟨found, earlier, hseen, ?_, fun x hx hmethod => ?_⟩
    · unfold FindsGone
      by_contra hneither
      exact hnot (not_or.1 hneither)
    · rw [hreads x hx] at hmethod
      cases hmethod
  · refine ⟨found, earlier, hseen, ?_, fun _ _ _ => hcarried⟩
    unfold FindsGone
    cases hstate : found.map (·.state) with
    | none => exact .inl rfl
    | some state =>
      rw [hstate] at hready
      cases state <;> first | exact .inr rfl | cases hready

/-- Up to then the topology is not written. -/
theorem RemovesGateway.spares {reading taking : List Asked} {answer : Except Fault Response}
    {o : Except Fault Unit} (htakes : c.RemovesGateway name taking o)
    (hreads : Reads Path.topology reading answer) :
    ∀ x ∈ reading ++ taking, x.1.SparesTopology := by
  refine List.forall_mem_append.2 ⟨spares_of_reads hreads, fun x hx => ?_⟩
  refine (htakes.request_eq (p := Request.SparesTopology) (fun hs x hx => ?_) hx).elim
    (fun heq => heq ▸ sparesTopology_read _) id
  obtain heq | heq | ⟨id, heq⟩ := hs.request_eq hx <;> rw [heq]
  · exact fun _ => (Path.topology_ne_gateway name).symm
  · exact sparesTopology_read _
  · exact sparesTopology_read _

variable {l past rest : List (Sight Request (Except Fault Response))}

/-- **A write follows the gateway's end.** -/
theorem Deletes.removesFrom (hd : c.Deletes name l o) (hs : l = past ++ .asked q answer :: rest)
    (hq : ¬ q.SparesTopology) :
    ∃ t outside reading tries,
      c.RemovesFrom name t (l.filterMap Sight.asked?) outside reading tries past q := by
  have hnot : ∀ {asked : List Asked}, (∀ x ∈ asked, x.1.SparesTopology) →
      .asked q answer ∉ sights asked := by
    intro asked hspares hseen
    obtain ⟨x, hx, heq⟩ := List.mem_map.1 hseen
    cases heq
    exact hq (hspares x hx)
  cases hd with
  | unread hreads => exact absurd (by simp [hs]) (hnot (spares_of_reads hreads))
  | missing hreads => exact absurd (by simp [hs]) (hnot (spares_of_reads hreads))
  | kept hreads _ _ htakes => exact absurd (by simp [hs]) (hnot (htakes.spares hreads))
  | lockedOut hreads _ _ htakes =>
    have hx := hnot (htakes.spares hreads)
    obtain ⟨l, -, hl⟩ := split_of_not_mem_left hx hs
    cases l <;> simp at hl
  | @revised reading taking revising _ _ _ hreads _ _ htakes hrevises =>
    have hx := hnot (htakes.spares hreads)
    obtain ⟨l, rfl, hl⟩ := split_of_not_mem_left hx hs
    -- the write lies between the acquisition of the lock and its release
    cases l with
    | nil => cases hl
    | cons x l =>
      obtain ⟨rfl, htail⟩ := List.cons.inj hl
      have hrelease : Sight.asked q answer ∉ [.released .network] := by simp
      obtain ⟨l', hl', -⟩ := split_of_not_mem_right hrelease htail
      obtain ⟨before, after, rfl, rfl, -⟩ := exists_of_sights_eq hl'
      obtain ⟨again, tries, r, t, rfl, hagain, hshown, htries, hsent⟩ :=
        hrevises.write_of_read rfl hq
      obtain ⟨found, earlier, hseen, hgone, hremoved⟩ := htakes.gone
      have hwrite : ∀ x ∈ again ++ tries, x.1 ≠ .read (Path.gateway name) := by
        intro x hx heq
        obtain hpath | ⟨id, hread⟩ := hrevises.request_eq (List.mem_append_left _ hx)
        · exact Path.topology_ne_gateway name (hpath.symm.trans (congrArg Request.path heq))
        · exact Path.operationPath_ne_gateway id name
            (congrArg Request.path (hread.symm.trans heq))
      rw [removeSite_eq] at hsent
      refine ⟨t, reading ++ taking, again, tries, rfl, ⟨r, hagain, hshown⟩, htries,
        ⟨found, _, hseen.prepend.append hwrite, hgone, fun x hx hmethod hpath => ?_⟩, hsent,
        hsent.decoded⟩
      rw [filterMap_asked?_locked] at hx
      rcases List.mem_append.1 hx with hx | hx
      · rcases List.mem_append.1 hx with hx | hx
        · rw [hreads.request_eq hx] at hmethod
          cases hmethod
        · exact (hremoved x hx hmethod).prepend
      · exact absurd hpath (hrevises.not_removal hx hmethod)

/-! ## Ends without a write -/

/-- A gateway that is being set up ends the wait for its end. -/
theorem RemovesGateway.stuck_after {reading taking : List Asked} {answer : Except Fault Response}
    {o : Except Fault Unit} (htakes : c.RemovesGateway name taking o)
    (hreads : Reads Path.topology reading answer) {r : Response} {info : GatewayInfo}
    (hs : reading ++ taking = before ++ (.read (Path.gateway name), .ok r) :: after)
    (hsent : ∃ x ∈ before, x.1 = gatewayRemoval name)
    (hshown : c.channel.optionalDocument r = .ok (some info))
    (hstate : info.state = .provisioning) :
    after = [] ∧ o = .error (.invalidState
      (.stuck s!"gateway of {name} to be deprovisioned" "gateway is being provisioned")) := by
  have hread : ∀ x ∈ reading, x.1 = .read Path.topology := fun x hx => hreads.request_eq hx
  have hlook : (Request.read (Path.gateway name), Except.ok r) ∉ reading := fun hx =>
    Path.topology_ne_gateway name (congrArg Request.path (hread _ hx)).symm
  obtain ⟨l, rfl, hl⟩ := split_of_not_mem_left hlook hs
  obtain ⟨x, hx, heq⟩ := hsent
  rcases List.mem_append.1 hx with hx | hx
  · rw [hread x hx] at heq
    cases heq
  · exact htakes.stuck rfl hl ⟨x, hx, heq⟩ hshown (by simp [hstate, GatewayInfo.takenDown])

/-- **A gateway that is being set up cannot be waited for**: the call ends with that, and
has written nothing. -/
theorem Deletes.stuck (hd : c.Deletes name l o) {r : Response} {info : GatewayInfo}
    (hs : l.filterMap Sight.asked? = before ++ (.read (Path.gateway name), .ok r) :: after)
    (hsent : ∃ x ∈ before, x.1 = gatewayRemoval name)
    (hshown : c.channel.optionalDocument r = .ok (some info))
    (hstate : info.state = .provisioning) :
    o = .error (.invalidState
        (.stuck s!"gateway of {name} to be deprovisioned" "gateway is being provisioned")) ∧
      ∀ x ∈ l.filterMap Sight.asked?, x.1.SparesTopology := by
  have hnone : ∀ {reading answer'}, Reads Path.topology reading answer' →
      reading ≠ before ++ (.read (Path.gateway name), .ok r) :: after := by
    intro reading answer' hreads heq
    obtain ⟨x, hx, hremoval⟩ := hsent
    rw [hreads.request_eq (x := x) (by simp [heq, hx])] at hremoval
    cases hremoval
  cases hd with
  | unread hreads => exact absurd (by simpa using hs) (hnone hreads)
  | missing hreads => exact absurd (by simpa using hs) (hnone hreads)
  | kept hreads _ _ htakes =>
    rw [filterMap_asked?_sights] at hs ⊢
    obtain ⟨-, heq⟩ := htakes.stuck_after hreads hs hsent hshown hstate
    cases heq
    exact ⟨rfl, htakes.spares hreads⟩
  | lockedOut hreads _ _ htakes =>
    rw [filterMap_asked?_refused] at hs
    cases (htakes.stuck_after hreads hs hsent hshown hstate).2
  | @revised reading taking revising _ _ _ hreads _ _ htakes hrevises =>
    rw [filterMap_asked?_locked] at hs
    have hlook : (Request.read (Path.gateway name), Except.ok r) ∉ revising := by
      intro hx
      obtain hpath | ⟨id, heq⟩ := hrevises.request_eq hx
      · exact Path.topology_ne_gateway name hpath.symm
      · exact Path.operationPath_ne_gateway id name (congrArg Request.path heq).symm
    obtain ⟨l, hl, -⟩ := split_of_not_mem_right hlook hs
    cases (htakes.stuck_after hreads hl hsent hshown hstate).2

/-- **Without such a site** nothing but the read of the topology is sent. -/
theorem Deletes.missing_of_read (hd : c.Deletes name l o) {first after : List Asked}
    {r : Response} {t : Topology} (hs : l.filterMap Sight.asked? = first ++ after)
    (hfirst : Reads Path.topology first (.ok r)) (hshown : c.shownTopology (.ok r) = .ok t)
    (hmissing : ∀ site ∈ t.sites, site.name ≠ name) : after = [] ∧ o = .ok .unchanged := by
  have hnone : (t.site? name).isNone := by
    rw [Option.isNone_iff_eq_none, Topology.site?, List.find?_eq_none]
    simpa using hmissing
  -- where the call goes on, its first read has found a site
  have hfound : ∀ {reading rest r' t'}, Reads Path.topology reading (.ok r') →
      c.shownTopology (.ok r') = .ok t' → (t'.site? name).isNone = false →
      reading ++ rest ≠ first ++ after := by
    intro reading rest r' t' hreads hshown' hsite heq
    obtain ⟨rfl, -⟩ := hreads.unique hfirst heq
    cases hshown'.symm.trans hshown
    rw [hnone] at hsite
    cases hsite
  cases hd with
  | unread hreads hfault =>
    rw [filterMap_asked?_sights] at hs
    rw [hreads.eq_answer (hs ▸ List.mem_append_left _ hfirst.mem), hshown] at hfault
    cases hfault
  | @missing reading _ _ hreads =>
    have hs : reading ++ [] = first ++ after := by simpa using hs
    exact ⟨(hreads.unique hfirst hs).2.symm, rfl⟩
  | kept hreads hshown' hsite =>
    rw [filterMap_asked?_sights] at hs
    exact absurd hs (hfound hreads hshown' hsite)
  | lockedOut hreads hshown' hsite =>
    rw [filterMap_asked?_refused] at hs
    exact absurd hs (hfound hreads hshown' hsite)
  | revised hreads hshown' hsite =>
    rw [filterMap_asked?_locked, List.append_assoc] at hs
    exact absurd hs (hfound hreads hshown' hsite)

/-! ## The deletion as a whole -/

/-- **The deletion of a site**, as it is seen, and its end. -/
structure DeletesSite (c : Client) (name : String) (h : History Request (Except Fault Response))
    (o : Except Fault Action) : Prop where
  /-- Where the topology is written, the gateway was last seen gone. -/
  written {past rest : List (Sight Request (Except Fault Response))} {q : Request}
    {answer : Except Fault Response} (hs : h.sights = past ++ .asked q answer :: rest)
    (hq : ¬ q.SparesTopology) :
    ∃ t outside reading tries, c.RemovesFrom name t h.asked outside reading tries past q
  /-- Where the gateway is seen being set up while its end is waited for, the call fails. -/
  stuck {before after : List Asked} {r : Response} {info : GatewayInfo}
    (hs : h.asked = before ++ (.read (Path.gateway name), .ok r) :: after)
    (hsent : ∃ x ∈ before, x.1 = gatewayRemoval name)
    (hshown : c.channel.optionalDocument r = .ok (some info))
    (hstate : info.state = .provisioning) :
    o = .error (.invalidState
        (.stuck s!"gateway of {name} to be deprovisioned" "gateway is being provisioned")) ∧
      ∀ x ∈ h.asked, x.1.SparesTopology
  /-- Where the first read shows no such site, nothing else is sent. -/
  missing {first after : List Asked} {r : Response} {t : Topology}
    (hs : h.asked = first ++ after) (hfirst : Reads Path.topology first (.ok r))
    (hshown : c.shownTopology (.ok r) = .ok t) (hmissing : ∀ site ∈ t.sites, site.name ≠ name) :
    after = [] ∧ o = .ok .unchanged

/-- **A site goes after its gateway**, whatever the call is answered. -/
theorem site_goes_after_gateway (hr : Runs (c.deleteSite name deadline) h o) :
    c.DeletesSite name h o := by
  have hd := deletes_of_runs hr
  have hasked := h.asked_eq_sights
  refine ⟨fun hs hq => ?_, fun hs hsent hshown hstate => ?_,
    fun hs hfirst hshown hmissing => ?_⟩
  · rw [hasked]
    exact hd.removesFrom hs hq
  · rw [hasked] at hs ⊢
    exact hd.stuck hs hsent hshown hstate
  · rw [hasked] at hs
    exact hd.missing_of_read hs hfirst hshown hmissing

/-! ## A site and its gateway -/

/-- A provider with two sites, of which one has a gateway. The gateway is gone at the
third look, and the first write of the topology is put off. -/
def retiringScript : Script := [
  ((.get, Path.topology), [.shows (.obj [("VirtualNetworkSites", .arr [
    .obj [("Name", .str "v")], .obj [("Name", .str "w")]])])]),
  ((.get, Path.gateway "v"), [
    NetworkCall.gatewayReply .provisioned, NetworkCall.gatewayReply .deprovisioning,
    NetworkCall.gatewayReply .notProvisioned]),
  ((.delete, Path.gateway "v"), [.accepts "1"]),
  Script.operationDone "1",
  ((.put, Path.topology), [.postpones, .accepts "2"]),
  Script.operationDone "2"]

/-- The run of a deletion against it. -/
def retired : History Request (Except Fault Response) × Except Fault Action :=
  (plainClient.deleteSite "v" ⟨400000⟩).alone Script.respond retiringScript 0

/-- The gateway goes first, and then the site. -/
theorem site_goes_after_gateway_retired :
    plainClient.DeletesSite "v" retired.1 retired.2 ∧ plainClient.wire.Faithful ∧
      retired.1.asked.map (fun x => (x.1.method, x.1.path)) = [
        (.get, Path.topology),
        (.get, Path.gateway "v"), (.delete, Path.gateway "v"), (.get, operationPath "1"),
        (.get, Path.gateway "v"), (.get, Path.gateway "v"),
        (.get, Path.topology),
        (.put, Path.topology), (.put, Path.topology), (.get, operationPath "2")] ∧
      retired.2 = .ok .delete := by
  have hr : Runs (plainClient.deleteSite "v" ⟨400000⟩) retired.1 retired.2 := runs_alone ..
  exact ⟨site_goes_after_gateway hr, Wire.faithful_json, by decide +kernel⟩

end Client

end CloudOrchestration
