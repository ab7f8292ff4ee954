import CloudOrchestration.Proofs.Channel.Looks
import CloudOrchestration.Proofs.Network.Rewrites
import CloudOrchestration.Proofs.Provisioning.Creation
/-!
# The steps of the calls on networks

The calls that change the topology take two kinds of steps. Under the lock a document is
read, and what is made of it written, unless there is nothing to change
(`Client.Revises`). Outside of it the gateway is looked at, and only if the look calls
for it is something done (`Client.ActsOn`): the gateway is taken down or set up, or given
the key of a connection.
-/

namespace CloudOrchestration

open Workflow Channel

variable {c : Client} {deadline : Deadline} {network : String}
variable {h : History Request (Except Fault Response)}
variable {asked before after : List Asked} {q : Request}
variable {answer : Except Fault Response}

namespace Client

/-! ## The document -/

variable {isDone : Topology → Bool} {f : Topology → Topology} {action : Action}

/-- **A revision of the topology**, and its end. -/
inductive Revises (c : Client) (isDone : Topology → Bool) (f : Topology → Topology)
    (action : Action) : List Asked → Except Fault Action → Prop where
  /-- The document could not be read. -/
  | unread {reading : List Asked} {answer : Except Fault Response} {fault : Fault}
      (hreads : Reads Path.topology reading answer)
      (hfault : c.shownTopology answer = .error fault) :
      Revises c isDone f action reading (.error fault)
  /-- There is nothing to change. -/
  | upToDate {reading : List Asked} {r : Response} {t : Topology}
      (hreads : Reads Path.topology reading (.ok r)) (hshown : c.shownTopology (.ok r) = .ok t)
      (hdone : isDone t) : Revises c isDone f action reading (.ok .unchanged)
  /-- What was made of the document is written, for better or worse. -/
  | written {reading writing : List Asked} {r : Response} {t : Topology} {o : Except Fault Unit}
      (hreads : Reads Path.topology reading (.ok r)) (hshown : c.shownTopology (.ok r) = .ok t)
      (hdone : isDone t = false) (hp : c.channel.Performs (c.replacing (f t)) writing o)
      (hsent : ∀ x ∈ writing, c.Replaces (f t) x.1 ∨ x.1.IsAside) :
      Revises c isDone f action (reading ++ writing) (o.map fun _ => action)

theorem revises_of_runs {o : Except Fault Action}
    (hr : Runs (c.topology deadline >>= fun t =>
      unlessDone (isDone t) action (c.writeTopology (f t) deadline)) h o) :
    c.Revises isDone f action h.asked o := by
  obtain ⟨t, h₁, h₂, rfl, hread, hr⟩ | ⟨fault, rfl, hread⟩ := runs_bind.1 hr
  · obtain ⟨answer, hreads, hshown⟩ := runs_topology hread
    obtain ⟨r, -, rfl, -⟩ := shownTopology_eq_ok hshown.symm
    rw [History.asked_append]
    obtain ⟨hdone, rfl, rfl⟩ | ⟨hdone, o, hwrite, rfl⟩ := runs_unlessDone hr
    · simpa using Revises.upToDate hreads hshown.symm hdone
    · exact .written hreads hshown.symm hdone (runs_replace hwrite)
        fun x hx => onlyAsks_replaces.of_mem_asked hwrite hx
  · obtain ⟨answer, hreads, hfault⟩ := runs_topology hread
    exact .unread hreads hfault.symm

/-- **A revision under the lock**, as it is seen, unless the lock was not obtained. -/
theorem seen_of_runs_revision {o : Except Fault Action}
    (hr : Runs (exclusively .network deadline (c.topology deadline >>= fun t =>
      unlessDone (isDone t) action (c.writeTopology (f t) deadline))) h o) :
    (c.Revises isDone f action h.asked o ∧
      h.sights = .acquired .network :: (sights h.asked ++ [.released .network])) ∨
      h.asked = [] ∧ h.sights = [.refused .network] ∧ ∃ fault, o = .error fault := by
  obtain ⟨h', hlocked, hbody⟩ | ⟨hrefused, hfault⟩ := seen_of_runs_exclusively hr
  · have hsights : h'.sights = sights h'.asked :=
      OnlyAsks.sights_eq (p := Request.Any)
        (onlyAsks_topology_bind fun t => onlyAsks_unlessDone onlyAsks_writeTopology) hbody
    have hasked : h.asked = h'.asked := by
      rw [h.asked_eq_sights, hlocked, hsights]
      simp [List.filterMap_append, List.filterMap_cons, Sight.asked?]
    rw [hasked]
    exact .inl ⟨revises_of_runs hbody, by rw [hlocked, hsights]; rfl⟩
  · exact .inr ⟨by rw [h.asked_eq_sights, hrefused]; rfl, hrefused, hfault⟩

/-- A revision is about the topology and about operations. -/
theorem Revises.request_eq {o : Except Fault Action} (hr : c.Revises isDone f action asked o)
    {x : Asked} (hx : x ∈ asked) :
    x.1.path = Path.topology ∨ ∃ id, x.1 = .read (operationPath id) := by
  have hread : ∀ {reading answer}, Reads Path.topology reading answer → x ∈ reading →
      x.1.path = Path.topology := fun hreads hx => congrArg Request.path (hreads.request_eq hx)
  cases hr with
  | unread hreads => exact .inl (hread hreads hx)
  | upToDate hreads => exact .inl (hread hreads hx)
  | written hreads _ _ hp =>
    rcases List.mem_append.1 hx with hx | hx
    · exact .inl (hread hreads hx)
    · exact (hp.request_eq hx).imp_left fun heq => by rw [heq]; rfl

/-- **A write follows a read**, and makes of the document what is to be made of it. -/
theorem Revises.write_of_read {o : Except Fault Action} (hr : c.Revises isDone f action asked o)
    (hs : asked = before ++ (q, answer) :: after) (hq : ¬ q.SparesTopology) :
    ∃ reading tries r t, before = reading ++ tries ∧ Reads Path.topology reading (.ok r) ∧
      c.shownTopology (.ok r) = .ok t ∧ (∀ x ∈ tries, x.1 = q) ∧ c.Replaces (f t) q := by
  have hread : ∀ {reading answer'}, Reads Path.topology reading answer' →
      (q, answer) ∉ reading := fun hreads hx => hq (spares_of_reads hreads _ hx)
  cases hr with
  | unread hreads => exact absurd (by simp [hs]) (hread hreads)
  | upToDate hreads => exact absurd (by simp [hs]) (hread hreads)
  | @written reading writing r t _ hreads hshown _ hp hsent =>
    obtain ⟨tries, rfl, rfl⟩ := split_of_not_mem_left (hread hreads) hs
    have hmutating : q.isMutating := by
      by_contra hnot
      exact hq fun h => absurd h hnot
    obtain ⟨rfl, htries⟩ := hp.split rfl hmutating
    have hreplaces := (hsent _ (List.mem_append_right _ List.mem_cons_self)).resolve_right
      fun haside => hq haside.sparesTopology
    exact ⟨reading, tries, r, t, rfl, hreads, hshown, htries, hreplaces⟩

/-! ## The gateway -/

/-- The request that takes a gateway down. -/
def gatewayRemoval (network : String) : Request :=
  { method := .delete, path := Path.gateway network }

/-- The request that creates a gateway. -/
def gatewayOrder (c : Client) (network : String) (vpn : Vpn) : Request :=
  c.channel.sending .post (Path.gateway network) (GatewayOrder.mk vpn.gatewayKind)
    c.channel.wire.contentType

/-- The request that gives a gateway the key of a connection. -/
def keyOrder (c : Client) (network : String) (vpn : Vpn) : Request :=
  c.channel.sending .post (Path.sharedKey network vpn.localSite.name) (SharedKey.mk vpn.sharedKey)
    c.channel.wire.contentType

variable {vpn : Vpn} {calledFor : Option GatewayState → Prop}
variable {acts : List Asked → Except Fault Unit → Prop} {o : Except Fault Unit}
variable {r : Response} {found : Option GatewayInfo}

/-- What a read of the gateway makes of an answer. -/
def shownGateway (c : Client) (network : String) (answer : Except Fault Response) :
    Except Fault (Option GatewayInfo) :=
  c.channel.fetched (Path.gateway network) answer >>= c.channel.optionalDocument

/-- An answer that shows the gateway, or that there is none, is no fault. -/
theorem shownGateway_ne_error {network : String} {fault : Fault}
    (hfound : c.channel.optionalDocument r = .ok found) :
    c.shownGateway network (.ok r) ≠ .error fault := by
  intro hfault
  have hdocument : c.channel.optionalDocument r = .error fault := hfault
  rw [hfound] at hdocument
  cases hdocument

/-- **A step that depends on the gateway**, and its end. -/
inductive ActsOn (c : Client) (network : String) (calledFor : Option GatewayState → Prop)
    (acts : List Asked → Except Fault Unit → Prop) : List Asked → Except Fault Unit → Prop where
  /-- The gateway could not be looked at. -/
  | unseen {looked : List Asked} {answer : Except Fault Response} {fault : Fault}
      (hreads : Reads (Path.gateway network) looked answer)
      (hfault : c.shownGateway network answer = .error fault) :
      ActsOn c network calledFor acts looked (.error fault)
  /-- What is seen of it does not call for the step, which is left out. -/
  | leftOut {looked : List Asked} {r : Response} {found : Option GatewayInfo}
      (hreads : Reads (Path.gateway network) looked (.ok r))
      (hfound : c.channel.optionalDocument r = .ok found)
      (hnot : ¬ calledFor (found.map (·.state))) :
      ActsOn c network calledFor acts looked (.ok ())
  | acted {looked acting : List Asked} {r : Response} {found : Option GatewayInfo}
      {o : Except Fault Unit} (hreads : Reads (Path.gateway network) looked (.ok r))
      (hfound : c.channel.optionalDocument r = .ok found)
      (hcalled : calledFor (found.map (·.state))) (hacts : acts acting o) :
      ActsOn c network calledFor acts (looked ++ acting) o

/-- A change of the gateway, and the wait for a state of it. -/
abbrev ChangesGateway (c : Client) (network : String) (q : Request) (what : String)
    (judge : Option GatewayState → Readiness Unit) : List Asked → Except Fault Unit → Prop :=
  c.channel.BringsAbout q (Path.gateway network) what
    fun found : Option GatewayInfo => judge (found.map (·.state))

/-- **A gateway is taken down** unless it is gone. -/
abbrev RemovesGateway (c : Client) (network : String) : List Asked → Except Fault Unit → Prop :=
  c.ActsOn network (fun state => state ≠ none ∧ state ≠ some .notProvisioned)
    (c.ChangesGateway network (gatewayRemoval network) s!"gateway of {network} to be deprovisioned"
      GatewayInfo.takenDown)

/-- **A gateway is set up** if it is seen not to be provisioned. -/
abbrev SetsUp (c : Client) (network : String) (vpn : Vpn) : List Asked → Except Fault Unit → Prop :=
  c.ActsOn network (· = some .notProvisioned)
    (c.ChangesGateway network (c.gatewayOrder network vpn)
      s!"gateway of {network} to be provisioned" GatewayInfo.setUp)

/-- **A gateway is given its key** if it is seen to be provisioned. -/
abbrev GivesKey (c : Client) (network : String) (vpn : Vpn) :
    List Asked → Except Fault Unit → Prop :=
  c.ActsOn network (· = some .provisioned) (c.channel.Performs (c.keyOrder network vpn))

theorem runs_gateway? {o : Except Fault (Option GatewayInfo)}
    (hr : Runs (c.gateway? network deadline) h o) :
    ∃ answer, Reads (Path.gateway network) h.asked answer ∧ o = c.shownGateway network answer :=
  runs_getOptional hr

theorem removesGateway_of_runs (hr : Runs (c.removeGateway network deadline) h o) :
    c.RemovesGateway network h.asked o := by
  obtain ⟨found, h₁, h₂, rfl, hlook, hr⟩ | ⟨fault, rfl, hlook⟩ := runs_bind.1 hr
  · obtain ⟨r, hreads, hfound⟩ := reads_of_runs_getOptional hlook
    have hleft : ¬ (found.map (·.state) ≠ none ∧ found.map (·.state) ≠ some .notProvisioned) →
        c.RemovesGateway network h₁.asked (.ok ()) := fun hnot => .leftOut hreads hfound hnot
    rw [History.asked_append]
    cases found with
    | none =>
      obtain ⟨rfl, rfl⟩ := runs_done.1 hr
      simpa using hleft (by simp)
    | some info =>
      dsimp only at hr
      split at hr
      next hstate =>
        exact .acted hreads hfound (by simpa using hstate)
          (bringsAbout_of_runs (fun hremove => runs_remove hremove) hr)
      next hstate =>
        obtain ⟨rfl, rfl⟩ := runs_done.1 hr
        simpa using hleft (by simpa using hstate)
  · obtain ⟨answer, hreads, hfault⟩ := runs_gateway? hlook
    exact .unseen hreads hfault.symm

/-- A step that is taken if the gateway is seen in a state. -/
theorem actsOn_of_runs {state : GatewayState} {step : Call Unit}
    (hstep : ∀ {h o}, Runs step h o → acts h.asked o)
    (hr : Runs (do if ← c.gatewayIs network state deadline then step) h o) :
    c.ActsOn network (· = some state) acts h.asked o := by
  obtain ⟨seen, h₁, h₂, rfl, hlook, hr⟩ | ⟨fault, rfl, hlook⟩ := runs_bind.1 hr
  · obtain ⟨found, h₃, h₄, rfl, hget, hseen⟩ := runs_bind_ok.1 hlook
    obtain ⟨rfl, hseen⟩ := runs_done.1 hseen
    obtain ⟨r, hreads, hfound⟩ := reads_of_runs_getOptional hget
    have hstate : seen = true ↔ found.map (·.state) = some state := by
      cases hseen
      cases found <;> simp
    rw [List.append_nil, History.asked_append]
    cases seen with
    | true => exact .acted hreads hfound (hstate.1 rfl) (hstep hr)
    | false =>
      obtain ⟨rfl, rfl⟩ := runs_done.1 hr
      have hleft : c.ActsOn network (· = some state) acts h₃.asked (.ok ()) :=
        .leftOut hreads hfound fun heq => nomatch hstate.2 heq
      simpa using hleft
  · obtain ⟨found, h₁, h₂, rfl, hlook, hseen⟩ | ⟨fault, hx, hlook⟩ := runs_bind.1 hlook
    · cases (runs_done.1 hseen).2
    · cases hx
      obtain ⟨answer, hreads, hfault⟩ := runs_gateway? hlook
      exact .unseen hreads hfault.symm

namespace ActsOn

/-- It reads the gateway, whatever it does besides. -/
theorem request_eq {p : Request → Prop} (ha : c.ActsOn network calledFor acts asked o)
    (hacts : ∀ {acting o}, acts acting o → ∀ x ∈ acting, p x.1) {x : Asked} (hx : x ∈ asked) :
    x.1 = .read (Path.gateway network) ∨ p x.1 := by
  cases ha with
  | unseen hreads => exact .inl (hreads.request_eq hx)
  | leftOut hreads => exact .inl (hreads.request_eq hx)
  | acted hreads _ _ hacting =>
    rcases List.mem_append.1 hx with hx | hx
    · exact .inl (hreads.request_eq hx)
    · exact .inr (hacts hacting x hx)

/-- It starts with a look at the gateway. -/
theorem exists_cons (ha : c.ActsOn network calledFor acts asked o) :
    ∃ first rest, asked = (.read (Path.gateway network), first) :: rest := by
  cases ha with
  | unseen hreads => exact hreads.exists_cons
  | leftOut hreads => exact hreads.exists_cons
  | acted hreads =>
    obtain ⟨first, rest, rfl⟩ := hreads.exists_cons
    exact ⟨first, _, rfl⟩

/-- **What is no read follows a look that calls for the step.** -/
theorem calledFor_before (ha : c.ActsOn network calledFor acts asked o)
    (hs : asked = before ++ (q, answer) :: after) (hq : q.isMutating) :
    ∃ (looked tries : List Asked) (r : Response) (found : Option GatewayInfo),
      before = looked ++ tries ∧ Reads (Path.gateway network) looked (.ok r) ∧
        c.channel.optionalDocument r = .ok found ∧ calledFor (found.map (·.state)) ∧
          acts (tries ++ (q, answer) :: after) o := by
  have hread : ∀ {looked answer'}, Reads (Path.gateway network) looked answer' →
      (q, answer) ∉ looked := fun hreads hx => hreads.not_mutates ⟨_, hx, hq⟩
  cases ha with
  | unseen hreads => exact absurd (by simp [hs]) (hread hreads)
  | leftOut hreads => exact absurd (by simp [hs]) (hread hreads)
  | acted hreads hfound hcalled hacts =>
    obtain ⟨l, rfl, rfl⟩ := split_of_not_mem_left (hread hreads) hs
    exact ⟨_, l, _, _, rfl, hreads, hfound, hcalled, hacts⟩

/-- **A look that does not call for the step ends it**, if nothing was looked at
later. -/
theorem not_calledFor (ha : c.ActsOn network calledFor acts asked o)
    (hs : asked = before ++ (.read (Path.gateway network), .ok r) :: after)
    (hfound : c.channel.optionalDocument r = .ok found) (hnot : ¬ calledFor (found.map (·.state)))
    (hfirst : ∀ {looked l acting r' o}, Reads (Path.gateway network) looked (.ok r') →
      before = looked ++ l → acts acting o →
        acting ≠ l ++ (.read (Path.gateway network), .ok r) :: after) :
    after = [] ∧ o = .ok () := by
  cases ha with
  | unseen hreads hfault =>
    obtain ⟨-, rfl, -⟩ := hreads.split hs
    have hfault : c.channel.optionalDocument r = .error _ := hfault
    rw [hfound] at hfault
    cases hfault
  | leftOut hreads =>
    obtain ⟨-, -, rfl, -⟩ := hreads.split hs
    exact ⟨rfl, rfl⟩
  | acted hreads hfound' hcalled hacting =>
    obtain ⟨l, rfl⟩ | ⟨l, rfl, hl⟩ := Schedule.append_cons_eq_append hs.symm
    · obtain ⟨-, heq, -⟩ := hreads.split rfl
      cases heq
      rw [hfound] at hfound'
      cases hfound'
      exact absurd hcalled hnot
    · exact absurd hl (hfirst hreads rfl hacting)

end ActsOn

/-! ## Changes that are waited for -/

section Changes

variable {what : String} {judge : Option GatewayState → Readiness Unit}

/-- **Where a change ends well** the gateway was last seen not to call for it, and it was
not sent; or it was carried out, and the gateway last seen in the state that was waited
for. -/
theorem ActsOn.seenLast
    (ha : c.ActsOn network calledFor (c.ChangesGateway network q what judge) asked (.ok ())) :
    ∃ (found : Option GatewayInfo) (earlier : List Asked),
      c.channel.SeenLast (Path.gateway network) found earlier asked ∧
        ((¬ calledFor (found.map (·.state)) ∧ ∀ x ∈ asked, x.1 = .read (Path.gateway network)) ∨
          judge (found.map (·.state)) = .ready () ∧ c.channel.CarriesOut q earlier) := by
  cases ha with
  | leftOut hreads hfound hnot =>
    obtain ⟨earlier, hseen⟩ := hreads.seenLast hfound
    exact ⟨_, earlier, hseen, .inl ⟨hnot, fun x hx => hreads.request_eq hx⟩⟩
  | acted hreads _ _ hs =>
    obtain ⟨found, earlier, hready, hseen, hcarried⟩ := hs.seenLast
    exact ⟨found, _, hseen.prepend, .inr ⟨hready, hcarried.prepend⟩⟩

/-- **A look after the change** decides the whole, or the gateway is looked at again. -/
theorem ActsOn.look_after
    (ha : c.ActsOn network calledFor (c.ChangesGateway network q what judge) asked o)
    (hq : q.isMutating) (hs : asked = before ++ (.read (Path.gateway network), answer) :: after)
    (hsent : ∃ x ∈ before, x.1 = q) :
    (after = [] ∧ o = lastLook what (fun found : Option GatewayInfo => judge (found.map (·.state)))
      (c.shownGateway network answer)) ∨
      c.channel.GoesOn (fun found : Option GatewayInfo => judge (found.map (·.state))) answer ∧
        ∃ next rest, after = (.read (Path.gateway network), next) :: rest := by
  have hne : q ≠ .read (Path.gateway network) := fun heq => by
    rw [heq] at hq
    cases hq
  have hread : ∀ {looked answer'}, Reads (Path.gateway network) looked answer' →
      ∀ x ∈ looked, x.1 ≠ q := fun hreads x hx heq => hne (heq.symm.trans (hreads.request_eq hx))
  obtain ⟨x, hx, hxq⟩ := hsent
  cases ha with
  | unseen hreads => exact absurd hxq (hread hreads x (by simp [hs, hx]))
  | leftOut hreads => exact absurd hxq (hread hreads x (by simp [hs, hx]))
  | acted hreads _ _ hbrings =>
    -- the change lies between the first look and this one
    obtain ⟨l, hl⟩ | ⟨l, rfl, hl⟩ := Schedule.append_cons_eq_append hs.symm
    · exact absurd hxq (hread hreads x (by simp [hl, hx]))
    · exact hbrings.split_look (fun id => Path.operationPath_ne_gateway id network) hne hl

/-- **A state that cannot be left ends the wait**, and the whole. -/
theorem ActsOn.stuck
    (ha : c.ActsOn network calledFor (c.ChangesGateway network q what judge) asked o)
    (hq : q.isMutating) {reason : String}
    (hs : asked = before ++ (.read (Path.gateway network), .ok r) :: after)
    (hsent : ∃ x ∈ before, x.1 = q) (hfound : c.channel.optionalDocument r = .ok found)
    (hstuck : judge (found.map (·.state)) = .stuck reason) :
    after = [] ∧ o = .error (.invalidState (.stuck what reason)) := by
  obtain ⟨rfl, rfl⟩ | ⟨⟨_, hx⟩ | ⟨r', found', state, hr', hfound', hpending⟩, -⟩ :=
    ha.look_after hq hs hsent
  · refine ⟨rfl, ?_⟩
    show lastLook what _ (c.channel.optionalDocument r) = _
    rw [hfound]
    simp [lastLook, hstuck]
  · cases hx
  · cases hr'
    rw [hfound] at hfound'
    cases hfound'
    have hpending : judge (found.map (·.state)) = .pending state := hpending
    rw [hstuck] at hpending
    cases hpending

end Changes

end Client

end CloudOrchestration
