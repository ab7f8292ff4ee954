import CloudOrchestration.Proofs.Network.Gateways
/-!
# The course of a connection

A connection is made in two steps, each of which starts with a look at the gateway: the
gateway is set up if it is seen not to be provisioned, and given the key if it is seen to
be (`Client.Connects`). What is sent, what ends a step and how a look or a change can fail
is told step by step, at any place of the exchanges.
-/

namespace CloudOrchestration

open Workflow Channel

namespace Client

variable {c : Client} {network : String} {vpn : Vpn} {deadline : Deadline}
variable {h : History Request (Except Fault Response)}
variable {asked asked' before after : List Asked} {q : Request} {r : Response}
variable {answer : Except Fault Response} {o : Except Fault Unit} {fault : Fault}
variable {found : Option GatewayInfo}

/-! ## The course of a connection -/

/-- **The course of a connection**, and its end. -/
inductive Connects (c : Client) (network : String) (vpn : Vpn) :
    List Asked → Except Fault Unit → Prop where
  /-- The gateway could not be set up. -/
  | notSetUp {setting : List Asked} {fault : Fault}
      (hsets : c.SetsUp network vpn setting (.error fault)) :
      Connects c network vpn setting (.error fault)
  | keyed {setting keying : List Asked} {o : Except Fault Unit}
      (hsets : c.SetsUp network vpn setting (.ok ())) (hgives : c.GivesKey network vpn keying o) :
      Connects c network vpn (setting ++ keying) o

/-- The two steps of a connection. -/
theorem connect_eq : c.connect network vpn deadline =
    Workflow.bind
      (do if ← c.gatewayIs network .notProvisioned deadline then
            c.createGateway network vpn deadline)
      fun _ => (do
        if ← c.gatewayIs network .provisioned deadline then
          c.channel.create (Path.sharedKey network vpn.localSite.name)
            (SharedKey.mk vpn.sharedKey) deadline) := by
  simp only [connect, bind_eq, bind_assoc]
  congr 1
  funext seen
  cases seen <;> rfl

theorem connects_of_runs (hr : Runs (c.connect network vpn deadline) h o) :
    c.Connects network vpn h.asked o := by
  have hsetsUp : ∀ {h o}, Runs (c.createGateway network vpn deadline) h o →
      c.ChangesGateway network (c.gatewayOrder network vpn)
        s!"gateway of {network} to be provisioned" GatewayInfo.setUp h.asked o :=
    fun hr => bringsAbout_of_runs (fun hcreate => runs_create hcreate) hr
  rw [connect_eq] at hr
  obtain ⟨_, h₁, h₂, rfl, hset, hgive⟩ | ⟨fault, rfl, hset⟩ := runs_bind.1 hr
  · rw [History.asked_append]
    exact .keyed (actsOn_of_runs hsetsUp hset) (actsOn_of_runs (fun hr => runs_create hr) hgive)
  · exact .notSetUp (actsOn_of_runs hsetsUp hset)

/-- **An exchange of a connection** lies in its first step, whose failure is that of the
whole, or else in its second. -/
theorem Connects.split_cases {x : Asked} (hconn : c.Connects network vpn asked o)
    (hs : asked = before ++ x :: after) :
    (∃ rest o', c.SetsUp network vpn (before ++ x :: rest) o' ∧
      ((after = rest ∧ o = o' ∧ ∃ fault, o = .error fault) ∨ o' = .ok () ∧
        ∃ keying, after = rest ++ keying ∧ c.GivesKey network vpn keying o)) ∨
      ∃ setting l, before = setting ++ l ∧ c.SetsUp network vpn setting (.ok ()) ∧
        c.GivesKey network vpn (l ++ x :: after) o := by
  cases hconn with
  | notSetUp hsets =>
    subst hs
    exact .inl ⟨after, _, hsets, .inl ⟨rfl, rfl, _, rfl⟩⟩
  | @keyed setting keying _ hsets hgives =>
    obtain ⟨rest, rfl⟩ | ⟨l, rfl, rfl⟩ := Schedule.append_cons_eq_append hs.symm
    · obtain rfl : after = rest ++ keying := by simpa using hs.symm
      exact .inl ⟨rest, _, hsets, .inr ⟨rfl, keying, rfl, hgives⟩⟩
    · exact .inr ⟨setting, l, rfl, hsets, hgives⟩

/-! ## What is seen of a gateway -/

/-- The state of a gateway as it was first seen. -/
def FirstSeen (c : Client) (network : String) (state : Option GatewayState)
    (asked : List Asked) : Prop :=
  ∃ found : Option GatewayInfo, c.channel.SeenFirst (Path.gateway network) found asked ∧
    found.map (·.state) = state

/-- The state of a gateway as it was last seen, and what had come before that. -/
def LastSeen (c : Client) (network : String) (state : Option GatewayState)
    (earlier asked : List Asked) : Prop :=
  ∃ found : Option GatewayInfo, c.channel.SeenLast (Path.gateway network) found earlier asked ∧
    found.map (·.state) = state

/-- **A gateway that has come up**: its order was carried out, and after that it was seen
to be provisioned. -/
def ComesUp (c : Client) (network : String) (vpn : Vpn) (asked : List Asked) : Prop :=
  ∃ (creating after : List Asked) (r : Response) (found : Option GatewayInfo),
    asked = creating ++ (.read (Path.gateway network), .ok r) :: after ∧
      c.channel.optionalDocument r = .ok found ∧ found.map (·.state) = some .provisioned ∧
        c.channel.CarriesOut (c.gatewayOrder network vpn) creating

theorem ComesUp.append (hup : c.ComesUp network vpn asked) :
    c.ComesUp network vpn (asked ++ asked') := by
  obtain ⟨creating, after, r, found, rfl, hup⟩ := hup
  exact ⟨creating, after ++ asked', r, found, by simp, hup⟩

/-! ## Setting the gateway up -/

namespace SetsUp

/-- The gateway is ordered after a look that finds it not to be provisioned. -/
theorem ordered (hsets : c.SetsUp network vpn asked o)
    (hs : asked = before ++ (q, answer) :: after) (hq : q.isMutating) :
    q = c.gatewayOrder network vpn ∧ c.FirstSeen network (some .notProvisioned) before := by
  obtain ⟨looked, tries, r, found, rfl, hreads, hfound, hcalled, hchanges⟩ :=
    hsets.calledFor_before hs hq
  exact ⟨(hchanges.split rfl hq).1, found, (hreads.seenFirst hfound).append, hcalled⟩

/-- At most one order is accepted. -/
theorem length_acceptedOf_le (hsets : c.SetsUp network vpn asked o) {p : Request → Prop}
    [DecidablePred p] (hread : ∀ path, ¬ p (.read path)) : (acceptedOf p asked).length ≤ 1 := by
  cases hsets with
  | unseen hreads => simp [hreads.acceptedOf_eq_nil hread]
  | leftOut hreads => simp [hreads.acceptedOf_eq_nil hread]
  | acted hreads _ _ hchanges =>
    rw [acceptedOf_append, hreads.acceptedOf_eq_nil hread, List.nil_append]
    exact hchanges.length_acceptedOf_le hread

/-- **A gateway that was ordered comes up**, or the step fails. -/
theorem comesUp (hsets : c.SetsUp network vpn asked (.ok ()))
    (hsent : ∃ x ∈ asked, x.1.isMutating) : c.ComesUp network vpn asked := by
  obtain ⟨found, earlier, ⟨r, later, rfl, -, hfound⟩, ⟨-, hreads⟩ | ⟨hready, hcarried⟩⟩ :=
    hsets.seenLast
  · obtain ⟨x, hx, hq⟩ := hsent
    rw [hreads x hx] at hq
    cases hq
  · refine ⟨earlier, later, r, found, rfl, hfound, ?_, hcarried⟩
    cases hstate : found.map (·.state) with
    | none =>
      rw [hstate] at hready
      cases hready
    | some state =>
      rw [hstate] at hready
      cases state <;> first | rfl | cases hready

/-- **Where the gateway is first seen in any other state** the step ends, and well. -/
theorem leftOut (hsets : c.SetsUp network vpn asked o)
    (hs : asked = before ++ (.read (Path.gateway network), .ok r) :: after)
    (hfirst : ∀ x ∈ before, x.1 = .read (Path.gateway network) → ∀ r', x.2 ≠ .ok r')
    (hfound : c.channel.optionalDocument r = .ok found)
    (hstate : found.map (·.state) ≠ some .notProvisioned) : after = [] ∧ o = .ok () := by
  refine hsets.not_calledFor hs hfound hstate fun hreads hbefore _ _ => ?_
  exact hfirst _ (hbefore ▸ List.mem_append_left _ hreads.mem) rfl _ rfl

/-- It has seen the gateway, if it ends well. -/
theorem exists_seen (hsets : c.SetsUp network vpn asked (.ok ())) :
    ∃ r, (.read (Path.gateway network), .ok r) ∈ asked := by
  obtain ⟨_, _, ⟨r, later, rfl, -⟩, -⟩ := hsets.seenLast
  exact ⟨r, by simp⟩

/-- What follows a look at a gateway that was not called for, or has come up, is no look
of this step. -/
theorem not_look_after (hsets : c.SetsUp network vpn asked o)
    (hs : asked = before ++ (.read (Path.gateway network), .ok r) :: after) :
    ¬ ((∃ state, c.FirstSeen network state before ∧ state ≠ some .notProvisioned) ∨
      c.ComesUp network vpn before) := by
  have hnone : ∀ {answer}, Reads (Path.gateway network) asked answer →
      ∀ x ∈ before, x.1 = .read (Path.gateway network) ∧ ∀ r', x.2 ≠ .ok r' :=
    fun hreads => by
      obtain ⟨-, -, -, hbefore⟩ := hreads.split hs
      exact hbefore
  rintro (⟨_, ⟨found, hfirst, rfl⟩, hnot⟩ | ⟨creating, later, r', found, rfl, hup⟩)
  · cases hsets with
    | unseen hreads =>
      obtain ⟨earlier, r', later, rfl, -⟩ := hfirst
      exact (hnone hreads (.read (Path.gateway network), .ok r') (by simp)).2 r' rfl
    | leftOut hreads =>
      obtain ⟨earlier, r', later, rfl, -⟩ := hfirst
      exact (hnone hreads (.read (Path.gateway network), .ok r') (by simp)).2 r' rfl
    | @acted looked acting _ _ _ hreads hfound hcalled =>
      have hseen : c.channel.SeenFirst (Path.gateway network) _ (looked ++ acting) :=
        (hreads.seenFirst hfound).append
      rw [hs] at hseen
      rw [hseen.unique hfirst.append] at hcalled
      exact hnot hcalled
  · obtain ⟨hfound, hstate, tried, r₀, id, awaited, rfl, -⟩ := hup
    have hsplit : asked = (tried ++ (c.gatewayOrder network vpn, .ok r₀) :: awaited) ++
        (.read (Path.gateway network), .ok r') ::
          (later ++ (.read (Path.gateway network), .ok r) :: after) := by simpa using hs
    obtain ⟨hnil, -⟩ | ⟨⟨_, hx⟩ | ⟨r₁, found₁, state, hr₁, hfound₁, hpending⟩, -⟩ :=
      ActsOn.look_after hsets rfl hsplit ⟨(c.gatewayOrder network vpn, .ok r₀), by simp, rfl⟩
    · simp at hnil
    · cases hx
    · cases hr₁
      rw [hfound] at hfound₁
      cases hfound₁
      have hpending : GatewayInfo.setUp (found.map (·.state)) = .pending state := hpending
      rw [hstate] at hpending
      cases hpending

end SetsUp

/-! ## Giving the key -/

namespace GivesKey

/-- The key is sent after a look that finds the gateway up. -/
theorem keyed (hgives : c.GivesKey network vpn asked o)
    (hs : asked = before ++ (q, answer) :: after) (hq : q.isMutating) :
    q = c.keyOrder network vpn ∧
      ∃ earlier, c.LastSeen network (some .provisioned) earlier before := by
  obtain ⟨looked, tries, r, found, rfl, hreads, hfound, hcalled, hperforms⟩ :=
    hgives.calledFor_before hs hq
  obtain ⟨rfl, htries⟩ := hperforms.split rfl hq
  obtain ⟨earlier, hseen⟩ := hreads.seenLast hfound
  refine ⟨rfl, earlier, found, hseen.append fun x hx heq => ?_, hcalled⟩
  rw [← htries x hx, heq] at hq
  cases hq

theorem request_eq (hgives : c.GivesKey network vpn asked o) {x : Asked} (hx : x ∈ asked)
    (hq : x.1.isMutating) : x.1 = c.keyOrder network vpn := by
  obtain ⟨before, after, rfl⟩ := List.append_of_mem hx
  exact (keyed hgives rfl hq).1

/-- **Where the gateway is seen not to be up** the call ends, and well. -/
theorem leftOut (hgives : c.GivesKey network vpn asked o)
    (hs : asked = before ++ (.read (Path.gateway network), .ok r) :: after)
    (hfound : c.channel.optionalDocument r = .ok found)
    (hstate : found.map (·.state) ≠ some .provisioned) : after = [] ∧ o = .ok () := by
  refine hgives.not_calledFor hs hfound hstate fun _ _ hperforms heq => ?_
  exact hperforms.not_mem_read (fun id => Path.operationPath_ne_gateway id network)
    (fun heq => nomatch heq) (heq ▸ List.mem_append_right _ List.mem_cons_self)

end GivesKey

/-! ## Failed looks and refused changes -/

section Failures

variable {α : Type}

/-- **A failed look is the end**, unless it went unanswered and is tried again. -/
def LookFails (network : String) (answer : Except Fault Response) (fault : Fault)
    (after : List Asked) (o : Except Fault α) : Prop :=
  (after = [] ∧ o = .error fault) ∨ ∃ failure next rest,
    answer = .error (.connection failure) ∧ after = (.read (Path.gateway network), next) :: rest

/-- **A refused change is the end**, unless it met a conflict and is tried again. -/
def TryFails (c : Client) (q : Request) (answer : Except Fault Response) (fault : Fault)
    (after : List Asked) (o : Except Fault α) : Prop :=
  (after = [] ∧ o = .error fault) ∨ ∃ r rejection next rest, answer = .ok r ∧
    c.wire.judge r = .conflict rejection ∧ after = (q, next) :: rest

/-- A failure of the first of two parts is that of the whole. -/
theorem LookFails.of_ok {u : Unit} {l : List Asked} {o : Except Fault α}
    (hfails : LookFails network answer fault after (.ok u)) :
    LookFails network answer fault (after ++ l) o := by
  obtain ⟨-, hfault⟩ | ⟨failure, next, rest, hanswer, rfl⟩ := hfails
  · cases hfault
  · exact .inr ⟨failure, next, rest ++ l, hanswer, rfl⟩

theorem TryFails.of_ok {u : Unit} {l : List Asked} {o : Except Fault α}
    (hfails : c.TryFails q answer fault after (.ok u)) :
    c.TryFails q answer fault (after ++ l) o := by
  obtain ⟨-, hfault⟩ | ⟨r, rejection, next, rest, hanswer, hj, rfl⟩ := hfails
  · cases hfault
  · exact .inr ⟨r, rejection, next, rest ++ l, hanswer, hj, rfl⟩

end Failures

/-- **A failed look at the gateway is the end**, if it is in the part that follows. -/
theorem ActsOn.unread {calledFor : Option GatewayState → Prop}
    {acts : List Asked → Except Fault Unit → Prop} (ha : c.ActsOn network calledFor acts asked o)
    (hacts : ∀ {acting before o}, acts acting o →
      acting = before ++ (.read (Path.gateway network), answer) :: after →
        LookFails network answer fault after o)
    (hs : asked = before ++ (.read (Path.gateway network), answer) :: after)
    (hfault : c.shownGateway network answer = .error fault) :
    LookFails network answer fault after o := by
  cases ha with
  | unseen hreads hfault' =>
    obtain ⟨-, ⟨rfl, rfl, -⟩ | hagain⟩ := hreads.split_cases hs
    · rw [hfault] at hfault'
      cases hfault'
      exact .inl ⟨rfl, rfl⟩
    · exact .inr hagain
  | leftOut hreads hfound =>
    obtain ⟨-, ⟨rfl, -⟩ | hagain⟩ := hreads.split_cases hs
    · exact absurd hfault (shownGateway_ne_error hfound)
    · exact .inr hagain
  | @acted looked acting _ _ _ hreads hfound _ hacting =>
    obtain ⟨l, rfl⟩ | ⟨l, rfl, hl⟩ := Schedule.append_cons_eq_append hs.symm
    · obtain rfl : after = l ++ acting := by simpa using hs.symm
      obtain ⟨-, ⟨rfl, -⟩ | ⟨failure, next, rest, rfl, rfl⟩⟩ := hreads.split_cases rfl
      · exact absurd hfault (shownGateway_ne_error hfound)
      · exact .inr ⟨failure, next, _, rfl, rfl⟩
    · exact hacts hacting hl

theorem SetsUp.unread (hsets : c.SetsUp network vpn asked o)
    (hs : asked = before ++ (.read (Path.gateway network), answer) :: after)
    (hfault : c.shownGateway network answer = .error fault) :
    LookFails network answer fault after o := by
  refine ActsOn.unread hsets (fun hchanges hs => ?_) hs hfault
  obtain ⟨rfl, rfl⟩ | ⟨hagain | ⟨r, found, state, rfl, hfound, -⟩, next, rest, rfl⟩ :=
    hchanges.split_look (fun id => Path.operationPath_ne_gateway id network)
      (fun heq => nomatch heq) hs
  · have hfault : c.channel.fetched (Path.gateway network) answer >>= c.channel.optionalDocument =
      (.error fault : Except Fault (Option GatewayInfo)) := hfault
    rw [hfault]
    exact .inl ⟨rfl, rfl⟩
  · obtain ⟨failure, rfl⟩ := hagain
    exact .inr ⟨failure, next, rest, rfl, rfl⟩
  · exact absurd hfault (shownGateway_ne_error hfound)

theorem GivesKey.unread (hgives : c.GivesKey network vpn asked o)
    (hs : asked = before ++ (.read (Path.gateway network), answer) :: after)
    (hfault : c.shownGateway network answer = .error fault) :
    LookFails network answer fault after o := by
  refine ActsOn.unread hgives (fun {acting _ _} hperforms hs => ?_) hs hfault
  have hnot : (Request.read (Path.gateway network), answer) ∉ acting :=
    hperforms.not_mem_read (fun id => Path.operationPath_ne_gateway id network)
      fun heq => nomatch heq
  exact absurd (by simp [hs]) hnot

theorem SetsUp.refused (hsets : c.SetsUp network vpn asked o)
    (hs : asked = before ++ (q, answer) :: after) (hq : q.isMutating)
    (hrefused : c.channel.submitted q answer = .error fault) :
    c.TryFails q answer fault after o := by
  obtain ⟨looked, tries, r, found, rfl, -, -, -, hchanges⟩ := hsets.calledFor_before hs hq
  exact hchanges.refused_split rfl hq hrefused

theorem GivesKey.refused (hgives : c.GivesKey network vpn asked o)
    (hs : asked = before ++ (q, answer) :: after) (hq : q.isMutating)
    (hrefused : c.channel.submitted q answer = .error fault) :
    c.TryFails q answer fault after o := by
  obtain ⟨looked, tries, r, found, rfl, -, -, -, hperforms⟩ := hgives.calledFor_before hs hq
  exact hperforms.refused_split rfl hq hrefused

end Client

end CloudOrchestration
