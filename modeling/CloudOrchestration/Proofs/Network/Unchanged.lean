import CloudOrchestration.Proofs.Client.Scripts
import CloudOrchestration.Proofs.Network.Calls
/-!
# Calls that leave the topology unchanged

A call that answers `Action.unchanged` has not written the topology. Most
such calls have sent nothing but reads; but the gateway is set up and taken
down outside of the document, and the answer does not tell of it.
`NetworkCall.StirsGateway` says when that happens, from what was seen of the
gateway, and `NetworkCall.sends_iff_of_unchanged` that this is the only way.
-/

namespace CloudOrchestration

open Workflow Channel

variable {c : Client} {deadline : Deadline} {network : String}
variable {h : History Request (Except Fault Response)}

/-- A request that may change the provider's state was sent. -/
def Mutates (asked : List Asked) : Prop := ∃ x ∈ asked, x.1.isMutating

theorem mutates_append {asked asked' : List Asked} :
    Mutates (asked ++ asked') ↔ Mutates asked ∨ Mutates asked' := by
  simp only [Mutates, List.mem_append, or_and_right, exists_or]

instance {asked : List Asked} : Decidable (Mutates asked) :=
  inferInstanceAs (Decidable (∃ x ∈ asked, x.1.isMutating))

theorem not_mutates_nil : ¬ Mutates [] := fun ⟨_, hx, _⟩ => nomatch hx

theorem Channel.Reads.not_mutates {path : String} {asked : List Asked}
    {answer : Except Fault Response} (hr : Reads path asked answer) : ¬ Mutates asked := by
  rintro ⟨x, hx, hmutating⟩
  rw [hr.request_eq hx] at hmutating
  cases hmutating

/-- A change that ended well was sent. -/
theorem Channel.Performs.mutates {channel : Channel} {q : Request} {asked : List Asked}
    (hp : channel.Performs q asked (.ok ())) (hq : q.isMutating) : Mutates asked := by
  obtain ⟨r, id, hx, -⟩ := (hp.eq_ok_iff hq).1 rfl
  exact ⟨_, hx, hq⟩

namespace Client

/-! ## What is seen of a gateway -/

/-- What one exchange shows of the gateway of a network. -/
def gatewayLook (c : Client) (network : String) : Asked → Option (Option GatewayState)
  | (q, .ok r) =>
    if q = .read (Path.gateway network) then
      match c.channel.optionalDocument r with
      | .ok found => some (found.map GatewayInfo.state)
      | .error _ => none
    else none
  | (_, .error _) => none

/-- What was seen of the gateway of a network, look by look. -/
def gatewayLooks (c : Client) (network : String) (asked : List Asked) :
    List (Option GatewayState) :=
  asked.filterMap (c.gatewayLook network)

theorem gatewayLooks_append {asked asked' : List Asked} :
    c.gatewayLooks network (asked ++ asked') =
      c.gatewayLooks network asked ++ c.gatewayLooks network asked' :=
  List.filterMap_append

/-- Reads of the topology show nothing of a gateway. -/
theorem gatewayLooks_of_topology {asked : List Asked} {answer : Except Fault Response}
    (hr : Reads Path.topology asked answer) : c.gatewayLooks network asked = [] := by
  refine List.filterMap_eq_nil_iff.2 fun x hx => ?_
  have hq := hr.request_eq hx
  obtain ⟨q, answer'⟩ := x
  cases answer' with
  | error fault => rfl
  | ok r =>
    refine if_neg fun hgateway => ?_
    rw [hgateway] at hq
    exact Path.topology_ne_gateway network (congrArg Request.path hq).symm

/-- A look at the gateway is seen as such. -/
theorem runs_gateway?_ok {found : Option GatewayInfo}
    (hr : Runs (c.gateway? network deadline) h (.ok found)) :
    ¬ Mutates h.asked ∧ c.gatewayLooks network h.asked = [found.map GatewayInfo.state] := by
  obtain ⟨r, hreads, hdocument⟩ := reads_of_runs_getOptional hr
  refine ⟨hreads.not_mutates, ?_⟩
  obtain ⟨failures, hasked⟩ := hreads
  -- tries without an answer show nothing
  have hnone : c.gatewayLooks network
      (failures.map fun failure => (.read (Path.gateway network), .error (.connection failure))) =
        [] := by
    simp [gatewayLooks, gatewayLook, List.filterMap_map]
  rw [hasked, gatewayLooks_append, hnone]
  simp [gatewayLooks, gatewayLook, hdocument]

theorem runs_gatewayIs_ok {state : GatewayState} {b : Bool}
    (hr : Runs (c.gatewayIs network state deadline) h (.ok b)) :
    ¬ Mutates h.asked ∧ ∃ seen, c.gatewayLooks network h.asked = [seen] ∧
      (b = true ↔ seen = some state) := by
  obtain ⟨found, h₁, h₂, rfl, hlook, hr⟩ := runs_bind_ok.1 hr
  obtain ⟨rfl, hb⟩ := runs_done.1 hr
  obtain ⟨hreads, hlooks⟩ := runs_gateway?_ok hlook
  refine ⟨by simpa using hreads, _, by simpa using hlooks, ?_⟩
  cases hb
  cases found <;> simp

/-! ## Setting up and taking down -/

theorem mutates_of_createGateway {vpn : Vpn}
    (hr : Runs (c.createGateway network vpn deadline) h (.ok ())) : Mutates h.asked := by
  obtain ⟨_, h₁, h₂, rfl, hcreate, -⟩ := runs_bind_ok.1 hr
  rw [History.asked_append]
  exact mutates_append.2 (.inl ((runs_create hcreate).mutates rfl))

/-- **When setting up a connection changes anything**: the first look found
no gateway, or the second found one to give the key to. -/
theorem mutates_connect_iff {vpn : Vpn}
    (hr : Runs (c.connect network vpn deadline) h (.ok ())) :
    Mutates h.asked ↔ (c.gatewayLooks network h.asked)[0]? = some (some .notProvisioned) ∨
      (c.gatewayLooks network h.asked)[1]? = some (some .provisioned) := by
  obtain ⟨absent, h₁, h₂, rfl, hfirst, hr⟩ := runs_bind_ok.1 hr
  obtain ⟨hreads₁, seen₁, hlooks₁, habsent⟩ := runs_gatewayIs_ok hfirst
  rw [History.asked_append, gatewayLooks_append, hlooks₁, mutates_append]
  cases absent with
  | true =>
    obtain ⟨_, h₃, h₄, rfl, hcreate, -⟩ := runs_bind_ok.1 hr
    -- the gateway is created, whatever the second look sees
    have hmutates := mutates_of_createGateway hcreate
    simp [habsent.1 rfl, mutates_append, hmutates]
  | false =>
    -- nothing was sent after the first look, so the second decides
    have hne : seen₁ ≠ some .notProvisioned := fun heq => nomatch habsent.2 heq
    obtain ⟨present, h₃, h₄, rfl, hsecond, hr⟩ := runs_bind_ok.1 hr
    obtain ⟨hreads₂, seen₂, hlooks₂, hpresent⟩ := runs_gatewayIs_ok hsecond
    rw [History.asked_append, gatewayLooks_append, hlooks₂, mutates_append]
    cases present with
    | true =>
      have hmutates := (runs_create hr).mutates rfl
      simp [hpresent.1 rfl, hmutates]
    | false =>
      have hne' : seen₂ ≠ some .provisioned := fun heq => nomatch hpresent.2 heq
      obtain ⟨rfl, -⟩ := runs_done.1 hr
      simp [hreads₁, hreads₂, hne, hne', not_mutates_nil]

/-- When taking down a gateway changes anything: one was found. -/
theorem mutates_removeGateway_iff
    (hr : Runs (c.removeGateway network deadline) h (.ok ())) :
    Mutates h.asked ↔ ∃ state, (c.gatewayLooks network h.asked).head? = some (some state) ∧
      state ≠ .notProvisioned := by
  obtain ⟨found, h₁, h₂, rfl, hlook, hr⟩ := runs_bind_ok.1 hr
  obtain ⟨hreads, hlooks⟩ := runs_gateway?_ok hlook
  rw [History.asked_append, gatewayLooks_append, hlooks, mutates_append]
  cases found with
  | none =>
    obtain ⟨rfl, -⟩ := runs_done.1 hr
    simp [hreads, not_mutates_nil]
  | some info =>
    dsimp only at hr
    split at hr
    next hstate =>
      obtain ⟨_, h₃, h₄, rfl, hremove, -⟩ := runs_bind_ok.1 hr
      have hmutates := (runs_remove hremove).mutates rfl
      simpa [mutates_append, hmutates] using hstate
    next hstate =>
      obtain ⟨rfl, -⟩ := runs_done.1 hr
      have hnot : info.state = .notProvisioned := by simpa using hstate
      simp [hreads, not_mutates_nil, hnot]

/-! ## The calls -/

/-- A change of the topology that found nothing to do has read it and nothing
else. -/
theorem reads_of_unchanged {isDone : Bool} {action : Action} {change : Call Unit}
    (haction : action ≠ .unchanged)
    (hr : Runs (unlessDone isDone action change) h (.ok .unchanged)) : h = [] := by
  obtain ⟨-, rfl, -⟩ | ⟨-, r, -, ho⟩ := runs_unlessDone hr
  · rfl
  · cases r with
    | error fault => cases ho
    | ok u => cases ho; exact absurd rfl haction

/-- What a call does under the lock when it finds nothing to do: it reads the
topology. -/
theorem reads_of_exclusively {f : Topology → Call Action}
    (hf : ∀ t h', Runs (f t) h' (.ok .unchanged) → h' = [])
    (hr : Runs (exclusively .network deadline (c.topology deadline >>= f)) h (.ok .unchanged)) :
    ∃ answer, Reads Path.topology h.asked answer := by
  obtain ⟨h', hasked, hbody⟩ | ⟨-, _, hx⟩ := runs_exclusively hr
  · obtain ⟨t, h₁, h₂, rfl, hread, hrest⟩ := runs_bind_ok.1 hbody
    obtain ⟨answer, hreads, -⟩ := runs_topology hread
    -- all that is left of the run is the read
    rw [hf t h₂ hrest, List.append_nil] at hasked
    exact ⟨answer, hasked ▸ hreads⟩
  · cases hx

theorem spares_of_reads {asked : List Asked} {answer : Except Fault Response}
    (hr : Reads Path.topology asked answer) : ∀ x ∈ asked, x.1.SparesTopology := by
  intro x hx
  rw [hr.request_eq hx]
  exact sparesTopology_read _

theorem mergeNetwork_unchanged {delta : Delta}
    (hr : Runs (c.mergeNetwork delta deadline) h (.ok .unchanged)) :
    (Mutates h.asked ↔ delta.vpn.isSome ∧
      ((c.gatewayLooks delta.site h.asked)[0]? = some (some .notProvisioned) ∨
        (c.gatewayLooks delta.site h.asked)[1]? = some (some .provisioned))) ∧
      ∀ x ∈ h.asked, x.1.SparesTopology := by
  obtain ⟨action, h₁, h₂, rfl, hmerge, hr⟩ := runs_bind_ok.1 hr
  cases hvpn : delta.vpn with
  | none =>
    simp only [hvpn, pure_eq, runs_done] at hr
    obtain ⟨rfl, hx⟩ := hr
    cases hx
    obtain ⟨answer, hreads⟩ :=
      reads_of_exclusively (fun t h' => reads_of_unchanged (by decide)) hmerge
    exact ⟨by simp [hreads.not_mutates], by simpa using spares_of_reads hreads⟩
  | some vpn =>
    simp only [hvpn, bind_eq] at hr
    obtain ⟨_, h₃, h₄, rfl, hconnect, hr⟩ := runs_bind_ok.1 hr
    obtain ⟨rfl, hx⟩ := runs_done.1 hr
    cases hx
    obtain ⟨answer, hreads⟩ :=
      reads_of_exclusively (fun t h' => reads_of_unchanged (by decide)) hmerge
    constructor
    · simpa [mutates_append, hreads.not_mutates, gatewayLooks_append,
        gatewayLooks_of_topology hreads] using mutates_connect_iff hconnect
    · intro x hx
      rw [History.asked_append, List.append_nil] at hx
      rcases List.mem_append.1 hx with hx | hx
      · exact spares_of_reads hreads x hx
      · exact onlyAsks_connect.of_mem_asked hconnect hx

theorem deleteSite_unchanged (hr : Runs (c.deleteSite network deadline) h (.ok .unchanged)) :
    (Mutates h.asked ↔ ∃ state, (c.gatewayLooks network h.asked).head? = some (some state) ∧
      state ≠ .notProvisioned) ∧ ∀ x ∈ h.asked, x.1.SparesTopology := by
  obtain ⟨t, h₁, h₂, rfl, hread, hr⟩ := runs_bind_ok.1 hr
  obtain ⟨answer, hreads, -⟩ := runs_topology hread
  rw [History.asked_append, gatewayLooks_append, gatewayLooks_of_topology hreads,
    mutates_append, or_iff_right hreads.not_mutates, List.nil_append, List.forall_mem_append]
  rw [and_left_comm]
  refine ⟨spares_of_reads hreads, ?_⟩
  split at hr
  · obtain ⟨rfl, -⟩ := runs_done.1 hr
    simp [not_mutates_nil, gatewayLooks]
  · obtain ⟨_, h₃, h₄, rfl, hremove, hr⟩ := runs_bind_ok.1 hr
    obtain ⟨answer', hreads'⟩ :=
      reads_of_exclusively (fun t h' => reads_of_unchanged (by decide)) hr
    constructor
    · simpa [mutates_append, hreads'.not_mutates, gatewayLooks_append,
        gatewayLooks_of_topology hreads'] using mutates_removeGateway_iff hremove
    · intro x hx
      rcases List.mem_append.1 (by simpa using hx) with hx | hx
      · exact onlyAsks_removeGateway.of_mem_asked hremove hx
      · exact spares_of_reads hreads' x hx

end Client

namespace NetworkCall

/-- **When a call that leaves the topology changes a gateway**, as seen from
its looks at the gateway. A merge sets up the connection that it asks for in
any case; a deletion takes down the gateway before it finds the site gone. -/
def StirsGateway (c : Client) (asked : List Asked) : NetworkCall → Prop
  | merge delta =>
    delta.vpn.isSome ∧
      ((c.gatewayLooks delta.site asked)[0]? = some (some .notProvisioned) ∨
        (c.gatewayLooks delta.site asked)[1]? = some (some .provisioned))
  | deleteSite name =>
    ∃ state, (c.gatewayLooks name asked).head? = some (some state) ∧ state ≠ .notProvisioned
  | ensureSite _ _ _ | addSubnet _ _ _ | removeSubnet _ _ => False

/-- **A call that answers that nothing was changed** has sent a change just
if it has stirred the gateway, and has not written the topology. -/
theorem sends_iff_of_unchanged {call : NetworkCall}
    (hr : Runs (call.run c deadline) h (.ok .unchanged)) :
    (Mutates h.asked ↔ call.StirsGateway c h.asked) ∧ ∀ x ∈ h.asked, x.1.SparesTopology := by
  cases call with
  | merge delta => exact Client.mergeNetwork_unchanged hr
  | deleteSite name => exact Client.deleteSite_unchanged hr
  | ensureSite name affinityGroup addressSpace =>
    obtain ⟨action, h₁, h₂, rfl, hmerge, hr⟩ := runs_bind_ok.1 hr
    cases action with
    | unchanged =>
      obtain ⟨rfl, -⟩ := runs_done.1 hr
      simpa [StirsGateway] using Client.mergeNetwork_unchanged hmerge
    | create => cases (runs_done.1 hr).2
    | update => cases (runs_done.1 hr).2
    | delete => cases (runs_done.1 hr).2
  | addSubnet site subnet addressPrefix =>
    obtain ⟨answer, hreads⟩ := Client.reads_of_exclusively (fun t h' hr' => by
      split at hr'
      · cases (runs_fail.1 hr').2
      · exact Client.reads_of_unchanged (by decide) hr') hr
    exact ⟨by simp [StirsGateway, hreads.not_mutates], Client.spares_of_reads hreads⟩
  | removeSubnet site subnet =>
    obtain ⟨answer, hreads⟩ := Client.reads_of_exclusively (fun t h' hr' => by
      split at hr'
      · exact (runs_done.1 hr').1
      · exact Client.reads_of_unchanged (by decide) hr') hr
    exact ⟨by simp [StirsGateway, hreads.not_mutates], Client.spares_of_reads hreads⟩

/-! ## A gateway that is stirred -/

/-- A site to be connected to an office. -/
def officeDelta : Delta where
  site := "v"
  affinityGroup := ""
  addressSpace := ""
  vpn := some {
    localSite := { name := "o", addressSpace := {}, gatewayAddress := "" }
    gatewayPrefix := "p"
    gatewayKind := "StaticRouting"
    sharedKey := "k" }

/-- What is seen of a gateway. -/
def gatewayReply (state : GatewayState) : ScriptedReply := .shows (.obj [("State", encode state)])

/-- A provider that has the connection already and whose gateway is up. -/
def connectedScript : Script := [
  ((.get, Path.topology), [.shows (.obj [
    ("LocalNetworkSites", .arr [.obj [("Name", .str "o")]]),
    ("VirtualNetworkSites", .arr [.obj [
      ("Name", .str "v"),
      ("Subnets", .arr [encode (Subnet.mk Delta.gatewaySubnet "p")]),
      ("Gateway", encode (⟨[⟨"o"⟩]⟩ : Gateway))]])])]),
  ((.get, Path.gateway "v"), [gatewayReply .provisioned]),
  ((.post, Path.sharedKey "v" "o"), [.accepts "1"]),
  Script.operationDone "1"]

/-- A provider whose site vanishes while its gateway is taken down. -/
def vanishingScript : Script := [
  ((.get, Path.topology), [
    .shows (.obj [("VirtualNetworkSites", .arr [.obj [("Name", .str "v")]])]), .shows (.obj [])]),
  ((.get, Path.gateway "v"), [gatewayReply .provisioned, gatewayReply .notProvisioned]),
  ((.delete, Path.gateway "v"), [.accepts "1"]),
  Script.operationDone "1"]

/-- The run of a call by itself. -/
def played (call : NetworkCall) (script : Script) :
    History Request (Except Fault Response) × Except Fault Action :=
  (call.run plainClient ⟨1000⟩).alone Script.respond script 0

theorem runs_played {call : NetworkCall} {script : Script} {o : Except Fault Action}
    (ho : (call.played script).2 = o) :
    Runs (call.run plainClient ⟨1000⟩) (call.played script).1 o :=
  ho ▸ runs_alone Script.respond _ script 0

/-- For the site that vanishes nothing is left to do in the end, but its
gateway was taken down. -/
theorem played_vanishing :
    ((deleteSite "v").played vanishingScript).2 = .ok .unchanged ∧
      Mutates ((deleteSite "v").played vanishingScript).1.asked := by decide +kernel

/-- The site is gone in the end, and the gateway was stirred. -/
theorem sends_iff_of_unchanged_vanishing :
    Runs ((deleteSite "v").run plainClient ⟨1000⟩)
      ((deleteSite "v").played vanishingScript).1 (.ok .unchanged) ∧
    (deleteSite "v").StirsGateway plainClient
      ((deleteSite "v").played vanishingScript).1.asked := by
  have hr := runs_played played_vanishing.1
  exact ⟨hr, (sends_iff_of_unchanged hr).1.1 played_vanishing.2⟩

/-- **Not all calls that answer so have sent reads only**: a connection that
is in place has its key sent again, and a gateway is taken down for a site
that has vanished in the end. -/
theorem unchanged_yet_mutates :
    (∃ h, Runs ((merge officeDelta).run plainClient ⟨1000⟩) h (.ok .unchanged) ∧
      Mutates h.asked) ∧
    ∃ h, Runs ((deleteSite "v").run plainClient ⟨1000⟩) h (.ok .unchanged) ∧
      Mutates h.asked := by
  have hmerge : ((merge officeDelta).played connectedScript).2 = .ok .unchanged ∧
      Mutates ((merge officeDelta).played connectedScript).1.asked := by decide +kernel
  exact ⟨⟨_, runs_played hmerge.1, hmerge.2⟩,
    ⟨_, runs_played played_vanishing.1, played_vanishing.2⟩⟩

end NetworkCall

end CloudOrchestration
