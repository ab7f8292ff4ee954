import CloudOrchestration.Proofs.Network.Connection
/-!
# Connecting a site

A merge that comes with a connection has two parts. Under the lock the topology is
revised, and after its release the gateway is set up and given the key. Each step of the
second part is gated by a look at the gateway (`Client.Gated`), so that the gateway is
ordered only where it was first seen not to be provisioned, and the key sent only where it
was last seen to be (`Client.connection_is_gated`).
-/

namespace CloudOrchestration

open Workflow Channel

namespace Client

variable {c : Client} {network : String} {vpn : Vpn} {delta : Delta} {deadline : Deadline}
variable {h : History Request (Except Fault Response)}
variable {asked before after : List Asked} {q : Request} {r : Response}
variable {answer : Except Fault Response} {o : Except Fault Unit} {fault : Fault}
variable {found : Option GatewayInfo}

/-! ## The gates -/

/-- **The gates of a connection**: what is seen of the gateway decides which of the two
steps are taken, and how the whole ends. -/
structure Gated {α : Type} (c : Client) (network : String) (vpn : Vpn) (asked : List Asked)
    (o : Except Fault α) : Prop where
  /-- The gateway is ordered only if it was first seen not to be provisioned. -/
  ordered {before after : List Asked} {q : Request} {answer : Except Fault Response}
    (hs : asked = before ++ (q, answer) :: after) (hmethod : q.method = .post)
    (hpath : q.path = Path.gateway network) :
    q = c.gatewayOrder network vpn ∧ c.FirstSeen network (some .notProvisioned) before
  once : (acceptedOf (fun q => q.method = .post ∧ q.path = Path.gateway network) asked).length ≤ 1
  /-- The key is sent only if the gateway was last seen to be provisioned, and if the
  gateway was ordered, only after it has come up. -/
  keyed {before after : List Asked} {q : Request} {answer : Except Fault Response}
    (hs : asked = before ++ (q, answer) :: after) (hmethod : q.method = .post)
    (hpath : q.path = Path.sharedKey network vpn.localSite.name) :
    q = c.keyOrder network vpn ∧
      ∃ earlier, c.LastSeen network (some .provisioned) earlier before ∧
        ((∃ x ∈ before, x.1.method = .post ∧ x.1.path = Path.gateway network) →
          c.ComesUp network vpn earlier)
  /-- In any other state at the first look it is not ordered, and looked at again. -/
  unordered {before after : List Asked} {r : Response} {found : Option GatewayInfo}
    (hs : asked = before ++ (.read (Path.gateway network), .ok r) :: after)
    (hfirst : ∀ x ∈ before, x.1 = .read (Path.gateway network) → ∀ r', x.2 ≠ .ok r')
    (hfound : c.channel.optionalDocument r = .ok found)
    (hstate : found.map (·.state) ≠ some .notProvisioned) :
    (∀ x ∈ asked, x.1.method = .post → x.1.path ≠ Path.gateway network) ∧
      ∃ next rest, after = (.read (Path.gateway network), next) :: rest
  /-- In any other state at the second look no key is sent, and the call ends well. -/
  unkeyed {before after : List Asked} {r : Response} {found : Option GatewayInfo}
    (hs : asked = before ++ (.read (Path.gateway network), .ok r) :: after)
    (hsecond : (∃ state, c.FirstSeen network state before ∧ state ≠ some .notProvisioned) ∨
      c.ComesUp network vpn before)
    (hfound : c.channel.optionalDocument r = .ok found)
    (hstate : found.map (·.state) ≠ some .provisioned) : after = [] ∧ ∃ a, o = .ok a
  /-- A look that fails is the end of the call. -/
  unread {before after : List Asked} {answer : Except Fault Response} {fault : Fault}
    (hs : asked = before ++ (.read (Path.gateway network), answer) :: after)
    (hfault : c.shownGateway network answer = .error fault) :
    LookFails network answer fault after o
  /-- So is a change that is refused. -/
  refused {before after : List Asked} {q : Request} {answer : Except Fault Response}
    {fault : Fault} (hs : asked = before ++ (q, answer) :: after) (hmethod : q.method = .post)
    (hpath : q.path = Path.gateway network ∨ q.path = Path.sharedKey network vpn.localSite.name)
    (hrefused : c.channel.submitted q answer = .error fault) : c.TryFails q answer fault after o
  /-- And a state that an ordered gateway cannot come up from. -/
  stuck {before after : List Asked} {r : Response} {found : Option GatewayInfo} {reason : String}
    (hs : asked = before ++ (.read (Path.gateway network), .ok r) :: after)
    (hsent : ∃ x ∈ before, x.1 = c.gatewayOrder network vpn)
    (hnot : ¬ c.ComesUp network vpn before) (hfound : c.channel.optionalDocument r = .ok found)
    (hstuck : GatewayInfo.setUp (found.map (·.state)) = .stuck reason) :
    after = [] ∧
      o = .error (.invalidState (.stuck s!"gateway of {network} to be provisioned" reason))

namespace Connects

theorem ordered (hconn : c.Connects network vpn asked o)
    (hs : asked = before ++ (q, answer) :: after) (hmethod : q.method = .post)
    (hpath : q.path = Path.gateway network) :
    q = c.gatewayOrder network vpn ∧ c.FirstSeen network (some .notProvisioned) before := by
  obtain ⟨rest, o', hsets, -⟩ | ⟨setting, l, rfl, -, hgives⟩ := hconn.split_cases hs
  · exact SetsUp.ordered hsets rfl (Request.isMutating_of_method hmethod rfl)
  · have hkey := (GivesKey.keyed hgives rfl (Request.isMutating_of_method hmethod rfl)).1
    rw [hkey] at hpath
    exact absurd hpath.symm (Path.gateway_ne_sharedKey network _)

theorem length_acceptedOf_le (hconn : c.Connects network vpn asked o) :
    (acceptedOf (fun q => q.method = .post ∧ q.path = Path.gateway network) asked).length ≤ 1 := by
  have hread : ∀ path, ¬ ((Request.read path).method = .post ∧
      (Request.read path).path = Path.gateway network) := fun path h => nomatch h.1
  cases hconn with
  | notSetUp hsets => exact SetsUp.length_acceptedOf_le hsets hread
  | keyed hsets hgives =>
    have hnone := acceptedOf_of_forall_not
      (p := fun q => q.method = .post ∧ q.path = Path.gateway network) fun x hx hx' => by
        rw [GivesKey.request_eq hgives hx (Request.isMutating_of_method hx'.1 rfl)] at hx'
        exact Path.gateway_ne_sharedKey network _ hx'.2.symm
    rw [acceptedOf_append, hnone, List.append_nil]
    exact SetsUp.length_acceptedOf_le hsets hread

theorem key_sent (hconn : c.Connects network vpn asked o)
    (hs : asked = before ++ (q, answer) :: after) (hmethod : q.method = .post)
    (hpath : q.path = Path.sharedKey network vpn.localSite.name) :
    q = c.keyOrder network vpn ∧
      ∃ earlier, c.LastSeen network (some .provisioned) earlier before ∧
        ((∃ x ∈ before, x.1.method = .post ∧ x.1.path = Path.gateway network) →
          c.ComesUp network vpn earlier) := by
  obtain ⟨rest, o', hsets, -⟩ | ⟨setting, l, rfl, hsets, hgives⟩ := hconn.split_cases hs
  · have horder := (SetsUp.ordered hsets rfl (Request.isMutating_of_method hmethod rfl)).1
    rw [horder] at hpath
    exact absurd hpath (Path.gateway_ne_sharedKey network _)
  · obtain ⟨rfl, earlier, found, hseen, hstate⟩ :=
      GivesKey.keyed hgives rfl (Request.isMutating_of_method hmethod rfl)
    refine ⟨rfl, setting ++ earlier, ⟨found, hseen.prepend, hstate⟩, ?_⟩
    rintro ⟨x, hx, hxmethod, hxpath⟩
    rcases List.mem_append.1 hx with hx | hx
    · exact (SetsUp.comesUp hsets ⟨x, hx, Request.isMutating_of_method hxmethod rfl⟩).append
    · have hkey := GivesKey.request_eq hgives (List.mem_append_left _ hx)
        (Request.isMutating_of_method hxmethod rfl)
      rw [hkey] at hxpath
      exact absurd hxpath.symm (Path.gateway_ne_sharedKey network _)

theorem unordered (hconn : c.Connects network vpn asked o)
    (hs : asked = before ++ (.read (Path.gateway network), .ok r) :: after)
    (hfirst : ∀ x ∈ before, x.1 = .read (Path.gateway network) → ∀ r', x.2 ≠ .ok r')
    (hfound : c.channel.optionalDocument r = .ok found)
    (hstate : found.map (·.state) ≠ some .notProvisioned) :
    (∀ x ∈ asked, x.1.method = .post → x.1.path ≠ Path.gateway network) ∧
      ∃ next rest, after = (.read (Path.gateway network), next) :: rest := by
  have hseen : c.channel.SeenFirst (Path.gateway network) found asked :=
    ⟨before, r, after, hs, hfirst, hfound⟩
  refine ⟨fun x hx hmethod hpath => ?_, ?_⟩
  · obtain ⟨before', after', hs'⟩ := List.append_of_mem hx
    obtain ⟨-, found', hseen', hstate'⟩ := hconn.ordered hs' hmethod hpath
    have hwhole : c.channel.SeenFirst (Path.gateway network) found' asked :=
      hs' ▸ hseen'.append
    rw [hseen.unique hwhole] at hstate
    exact hstate hstate'
  · obtain ⟨rest, o', hsets, hend⟩ | ⟨setting, l, rfl, hsets, -⟩ := hconn.split_cases hs
    · obtain ⟨rfl, rfl⟩ := SetsUp.leftOut hsets rfl hfirst hfound hstate
      obtain ⟨-, rfl, fault, hfault⟩ | ⟨-, keying, rfl, hgives⟩ := hend
      · cases hfault
      · exact hgives.exists_cons
    · obtain ⟨r', hlook⟩ := SetsUp.exists_seen hsets
      exact absurd rfl (hfirst _ (List.mem_append_left _ hlook) rfl r')

theorem unkeyed (hconn : c.Connects network vpn asked o)
    (hs : asked = before ++ (.read (Path.gateway network), .ok r) :: after)
    (hsecond : (∃ state, c.FirstSeen network state before ∧ state ≠ some .notProvisioned) ∨
      c.ComesUp network vpn before)
    (hfound : c.channel.optionalDocument r = .ok found)
    (hstate : found.map (·.state) ≠ some .provisioned) : after = [] ∧ ∃ u, o = .ok u := by
  obtain ⟨rest, o', hsets, -⟩ | ⟨setting, l, rfl, -, hgives⟩ := hconn.split_cases hs
  · exact absurd hsecond (SetsUp.not_look_after hsets rfl)
  · obtain ⟨hafter, ho⟩ := GivesKey.leftOut hgives rfl hfound hstate
    exact ⟨hafter, (), ho⟩

theorem unread (hconn : c.Connects network vpn asked o)
    (hs : asked = before ++ (.read (Path.gateway network), answer) :: after)
    (hfault : c.shownGateway network answer = .error fault) :
    LookFails network answer fault after o := by
  obtain ⟨rest, o', hsets, hend⟩ | ⟨setting, l, rfl, -, hgives⟩ := hconn.split_cases hs
  · have hfails := SetsUp.unread hsets rfl hfault
    obtain ⟨rfl, rfl, -⟩ | ⟨rfl, keying, rfl, -⟩ := hend
    · exact hfails
    · exact hfails.of_ok
  · exact GivesKey.unread hgives rfl hfault

theorem refused (hconn : c.Connects network vpn asked o)
    (hs : asked = before ++ (q, answer) :: after) (hmethod : q.method = .post)
    (hrefused : c.channel.submitted q answer = .error fault) :
    c.TryFails q answer fault after o := by
  obtain ⟨rest, o', hsets, hend⟩ | ⟨setting, l, rfl, -, hgives⟩ := hconn.split_cases hs
  · have hfails := SetsUp.refused hsets rfl (Request.isMutating_of_method hmethod rfl) hrefused
    obtain ⟨rfl, rfl, -⟩ | ⟨rfl, keying, rfl, -⟩ := hend
    · exact hfails
    · exact hfails.of_ok
  · exact GivesKey.refused hgives rfl (Request.isMutating_of_method hmethod rfl) hrefused

theorem stuck (hconn : c.Connects network vpn asked o) {reason : String}
    (hs : asked = before ++ (.read (Path.gateway network), .ok r) :: after)
    (hsent : ∃ x ∈ before, x.1 = c.gatewayOrder network vpn)
    (hnot : ¬ c.ComesUp network vpn before) (hfound : c.channel.optionalDocument r = .ok found)
    (hstuck : GatewayInfo.setUp (found.map (·.state)) = .stuck reason) :
    after = [] ∧
      o = .error (.invalidState (.stuck s!"gateway of {network} to be provisioned" reason)) := by
  obtain ⟨rest, o', hsets, hend⟩ | ⟨setting, l, rfl, hsets, hgives⟩ := hconn.split_cases hs
  · obtain ⟨rfl, rfl⟩ := ActsOn.stuck hsets rfl rfl hsent hfound hstuck
    obtain ⟨rfl, rfl, -⟩ | ⟨hok, -⟩ := hend
    · exact ⟨rfl, rfl⟩
    · cases hok
  · obtain ⟨x, hx, horder⟩ := hsent
    have hmutating : x.1.isMutating := horder ▸ rfl
    rcases List.mem_append.1 hx with hx | hx
    · exact absurd (SetsUp.comesUp hsets ⟨x, hx, hmutating⟩).append hnot
    · have hkey := GivesKey.request_eq hgives (List.mem_append_left _ hx) hmutating
      rw [horder] at hkey
      exact absurd (congrArg Request.path hkey) (Path.gateway_ne_sharedKey network _)

/-- **A connection is gated.** -/
theorem gated (hconn : c.Connects network vpn asked o) : c.Gated network vpn asked o where
  ordered := hconn.ordered
  once := hconn.length_acceptedOf_le
  keyed := hconn.key_sent
  unordered := hconn.unordered
  unkeyed := hconn.unkeyed
  unread := hconn.unread
  refused := fun hs hmethod _ hrefused => hconn.refused hs hmethod hrefused
  stuck := hconn.stuck

end Connects

namespace Gated

variable {α β : Type} {a : Except Fault α}

/-- Where nothing is asked the gates are kept. -/
theorem nil : c.Gated network vpn [] a :=
  have hnone : ∀ {x : Asked} {before after : List Asked}, [] ≠ before ++ x :: after := by simp
  { ordered := fun hs => absurd hs hnone
    once := by simp [acceptedOf]
    keyed := fun hs => absurd hs hnone
    unordered := fun hs => absurd hs hnone
    unkeyed := fun hs => absurd hs hnone
    unread := fun hs => absurd hs hnone
    refused := fun hs => absurd hs hnone
    stuck := fun hs => absurd hs hnone }

/-- What the call answers in the end makes no difference to its gates. -/
theorem map (hg : c.Gated network vpn asked a) (f : α → β) :
    c.Gated network vpn asked (a.map f) where
  ordered := hg.ordered
  once := hg.once
  keyed := hg.keyed
  unordered := hg.unordered
  unkeyed hs hsecond hfound hstate := by
    obtain ⟨hafter, v, rfl⟩ := hg.unkeyed hs hsecond hfound hstate
    exact ⟨hafter, f v, rfl⟩
  unread hs hfault := by
    refine (hg.unread hs hfault).imp_left ?_
    rintro ⟨hafter, rfl⟩
    exact ⟨hafter, rfl⟩
  refused hs hmethod hpath hrefused := by
    refine (hg.refused hs hmethod hpath hrefused).imp_left ?_
    rintro ⟨hafter, rfl⟩
    exact ⟨hafter, rfl⟩
  stuck hs hsent hnot hfound hstuck := by
    obtain ⟨hafter, rfl⟩ := hg.stuck hs hsent hnot hfound hstuck
    exact ⟨hafter, rfl⟩

end Gated

/-! ## The merge as a whole -/

section Merge

variable {o : Except Fault Action}

/-- **What a delta asks for is settled**: the document had it already, or what was made
of the document was written, and the operation seen to succeed. -/
def HasMerged (c : Client) (delta : Delta) (asked : List Asked) : Prop :=
  ∃ reading writing r t, asked = reading ++ writing ∧ Reads Path.topology reading (.ok r) ∧
    c.shownTopology (.ok r) = .ok t ∧
      if (delta.into t).changed then c.channel.CarriesOut (c.replacing (delta.into t).value) writing
      else writing = []

theorem hasMerged_of_revises {action action' : Action}
    (hr : c.Revises (fun t => !(delta.into t).changed) (fun t => (delta.into t).value) action asked
      (.ok action')) : c.HasMerged delta asked := by
  generalize ho : (Except.ok action' : Except Fault Action) = o at hr
  cases hr with
  | unread => cases ho
  | @upToDate _ r t hreads hshown hdone =>
    have hunchanged : (delta.into t).changed = false := by simpa using hdone
    exact ⟨asked, [], r, t, by simp, hreads, hshown, by simp [hunchanged]⟩
  | @written reading writing r t result hreads hshown hdone hp =>
    have hchanged : (delta.into t).changed = true := by simpa using hdone
    cases result with
    | error fault => cases ho
    | ok => exact ⟨reading, writing, r, t, rfl, hreads, hshown, by simp [hchanged, hp.carriesOut]⟩

/-- A request about the gateway, or the key of the connection. -/
def TouchesGateway (network : String) (vpn : Vpn) (q : Request) : Prop :=
  q.path = Path.gateway network ∨ q.path = Path.sharedKey network vpn.localSite.name

/-- **A merge and its connection**, told apart. -/
structure MergesThenConnects (c : Client) (delta : Delta) (vpn : Vpn)
    (revising connecting : List Asked) (h : History Request (Except Fault Response))
    (o : Except Fault Action) : Prop where
  parts : h.asked = revising ++ connecting
  /-- Up to the end of the revision the gateway is not touched. -/
  apart : ∀ x ∈ revising, ¬ TouchesGateway delta.site vpn x.1
  /-- What follows comes after the document was settled and the lock released. -/
  settled : connecting ≠ [] → c.HasMerged delta revising ∧ h.sights =
    .acquired .network :: (sights revising ++ .released .network :: sights connecting)
  /-- And goes by what is seen of the gateway. -/
  gated : c.Gated delta.site vpn connecting o

/-- The part under the lock does not touch the gateway. -/
theorem Revises.not_touches {isDone : Topology → Bool} {f : Topology → Topology} {action : Action}
    (hr : c.Revises isDone f action asked o) :
    ∀ x ∈ asked, ¬ TouchesGateway network vpn x.1 := by
  intro x hx htouches
  obtain hpath | ⟨id, heq⟩ := hr.request_eq hx
  · obtain hgateway | hkey := htouches
    · exact Path.topology_ne_gateway network (hpath.symm.trans hgateway)
    · exact Path.topology_ne_sharedKey network _ (hpath.symm.trans hkey)
  · rw [heq] at htouches
    obtain hgateway | hkey := htouches
    · exact Path.operationPath_ne_gateway id network hgateway
    · exact Path.operationPath_ne_sharedKey id network _ hkey

/-- A merge without a connection, or with one that was not come to. -/
theorem mergesThenConnects_of_nil (hasked : h.asked = asked)
    (havoids : ∀ x ∈ asked, ¬ TouchesGateway delta.site vpn x.1) :
    c.MergesThenConnects delta vpn asked [] h o where
  parts := by simp [hasked]
  apart := havoids
  settled := fun hne => absurd rfl hne
  gated := .nil

/-- **The connection of a site is gated**: it starts when the document is settled and the
lock released, and each of its steps is taken, left out or fails by what was seen of the
gateway. -/
theorem connection_is_gated (hvpn : delta.vpn = some vpn)
    (hr : Runs (c.mergeNetwork delta deadline) h o) :
    ∃ revising connecting, c.MergesThenConnects delta vpn revising connecting h o := by
  rw [mergeNetwork, hvpn] at hr
  obtain ⟨action, h₁, h₂, rfl, hlock, hr⟩ | ⟨fault, rfl, hlock⟩ := runs_bind.1 hr
  · obtain ⟨hrevises, hlocked⟩ | ⟨-, -, fault, hfault⟩ := seen_of_runs_revision hlock
    · have hgated : c.Gated delta.site vpn h₂.asked o := by
        obtain ⟨_, h₃, h₄, rfl, hconnect, hr⟩ | ⟨fault, rfl, hconnect⟩ := runs_bind.1 hr
        · obtain ⟨rfl, rfl⟩ := runs_done.1 hr
          simpa [Except.map] using (connects_of_runs hconnect).gated.map fun _ => action
        · exact (connects_of_runs hconnect).gated.map fun _ => action
      have hsights : h₂.sights = sights h₂.asked :=
        (onlyAsks_bind onlyAsks_connect fun _ => onlyAsks_done _).sights_eq hr
      refine ⟨h₁.asked, h₂.asked, History.asked_append .., hrevises.not_touches, fun _ => ?_,
        hgated⟩
      exact ⟨hasMerged_of_revises hrevises, by simp [hlocked, hsights]⟩
    · cases hfault
  · obtain ⟨hrevises, -⟩ | ⟨hasked, -⟩ := seen_of_runs_revision hlock
    · exact ⟨h.asked, [], mergesThenConnects_of_nil rfl hrevises.not_touches⟩
    · exact ⟨[], [], mergesThenConnects_of_nil hasked (by simp)⟩

end Merge

/-! ## A site that is connected -/

/-- A provider without the site. Its gateway is up at the second look after it was
ordered. -/
def connectingScript : Script := [
  ((.get, Path.topology), [.shows (.obj [])]),
  ((.put, Path.topology), [.accepts "1"]),
  Script.operationDone "1",
  ((.get, Path.gateway "v"), [
    NetworkCall.gatewayReply .notProvisioned, NetworkCall.gatewayReply .provisioning,
    NetworkCall.gatewayReply .provisioned]),
  ((.post, Path.gateway "v"), [.postpones, .accepts "2"]),
  Script.operationDone "2",
  ((.post, Path.sharedKey "v" "o"), [.accepts "3"]),
  Script.operationDone "3"]

/-- The run of a merge against it. -/
def connected : History Request (Except Fault Response) × Except Fault Action :=
  (plainClient.mergeNetwork NetworkCall.officeDelta ⟨400000⟩).alone Script.respond
    connectingScript 0

/-- The document is settled, the gateway comes up, and gets its key. -/
theorem connection_is_gated_connected :
    (∃ vpn, NetworkCall.officeDelta.vpn = some vpn ∧ ∃ revising connecting,
      plainClient.MergesThenConnects NetworkCall.officeDelta vpn revising connecting
        connected.1 connected.2) ∧
      connected.1.asked.map (fun x => (x.1.method, x.1.path)) = [
        (.get, Path.topology), (.put, Path.topology), (.get, operationPath "1"),
        (.get, Path.gateway "v"),
        (.post, Path.gateway "v"), (.post, Path.gateway "v"), (.get, operationPath "2"),
        (.get, Path.gateway "v"), (.get, Path.gateway "v"),
        (.get, Path.gateway "v"),
        (.post, Path.sharedKey "v" "o"), (.get, operationPath "3")] ∧
      connected.2 = .ok .update := by
  have hr : Runs (plainClient.mergeNetwork NetworkCall.officeDelta ⟨400000⟩) connected.1
      connected.2 := runs_alone ..
  exact ⟨⟨_, rfl, connection_is_gated rfl hr⟩, by decide +kernel⟩

end Client

end CloudOrchestration
