import CloudOrchestration.Proofs.Channel.Exchanges
import CloudOrchestration.Proofs.Client.Paths
import CloudOrchestration.Proofs.Client.Scripts
import CloudOrchestration.Proofs.Document.Deployments
/-!
# Looking up the owner of an address

The deployment that owns an address is looked for in one cloud service after the other,
in the order of their listing. With a provider that does not change (`AnsweredBy`), what is
found is the first deployment looked for among all that the provider shows, and no cloud
service is asked for after the one in which it is (`Client.owner_is_first_match`).
-/

namespace CloudOrchestration

open Workflow Channel Document

variable {answers : Request → Except Fault Response} {asked asked' : List Asked}
variable {h : History Request (Except Fault Response)} {deadline : Deadline}

/-! ## Providers that do not change -/

/-- **The answers of a provider that does not change**: they go by the request alone. -/
def AnsweredBy (answers : Request → Except Fault Response) (asked : List Asked) : Prop :=
  ∀ x ∈ asked, x.2 = answers x.1

theorem answeredBy_append :
    AnsweredBy answers (asked ++ asked') ↔ AnsweredBy answers asked ∧ AnsweredBy answers asked' :=
  List.forall_mem_append

/-- Such a provider as a server, which answers at once. -/
def steadyServer (answers : Request → Except Fault Response) :
    Server Unit Request (Except Fault Response) :=
  fun _ q => { server := (), delay := 0, answer := answers q }

/-- What it is asked by a call alone it answers so. -/
theorem answeredBy_alone {α : Type} (w : Call α) (t : Instant) :
    AnsweredBy answers (w.alone (steadyServer answers) () t).1.asked := by
  induction w generalizing t with
  | done a => exact fun _ hx => nomatch hx
  | fail fault => exact fun _ hx => nomatch hx
  | perform e next ih =>
    cases e with
    | ask q => exact List.forall_mem_cons.2 ⟨rfl, ih _ _⟩
    | _ => exact ih _ _

/-- A read that such a provider answers is sent once. -/
theorem Channel.Reads.eq_of_answeredBy {path : String} {answer : Except Fault Response}
    {r : Response} (hr : Reads path asked answer) (ha : AnsweredBy answers asked)
    (hanswer : answers (.read path) = .ok r) :
    asked = [(.read path, .ok r)] ∧ answer = .ok r := by
  obtain ⟨failures, rfl⟩ := hr
  have hlast : answer = answers (.read path) := ha (.read path, answer) (by simp)
  rw [hanswer] at hlast
  cases failures with
  | nil => exact ⟨by simp [hlast], hlast⟩
  | cons failure failures =>
    have hfirst : .error (.connection failure) = answers (.read path) :=
      ha (.read path, .error (.connection failure)) (by simp)
    rw [hanswer] at hfirst
    cases hfirst

namespace Client

variable {c : Client} {address : String} {services : CloudServices} {items : List CloudService}
variable {detail : String → Option CloudService}

/-! ## What is looked for -/

/-- A deployment that is looked for: one of its instances has the address, and it lies in
the network of the client, if that has one. -/
def Sought (c : Client) (address : String) (d : Deployment) : Prop :=
  (∃ i ∈ d.instances, i.address = some address) ∧
    ∀ network, c.settings.network = some network → d.network = some network

theorem owns_iff {d : Deployment} : c.owns address d ↔ c.Sought address d := by
  have hinstance : (d.instanceAt? address).isSome ↔
      ∃ i ∈ d.instances, i.address = some address := by
    simp [Deployment.instanceAt?]
  rw [owns, Sought, ← hinstance]
  cases c.settings.network <;> simp [and_comm]

instance : DecidablePred (c.Sought address) := fun _ => decidable_of_iff _ owns_iff

/-- **All deployments that a provider shows**, in the order of the listing and of the
documents, each with its service's own name. -/
def deploymentsIn (detail : String → Option CloudService) (items : List CloudService) :
    List Deployment :=
  items.flatMap fun listed =>
    match detail listed.name with
    | none => []
    | some service => service.deployments.map fun d => { d with service := some service.name }

/-- Whether what is looked for is in a cloud service. -/
def isIn (c : Client) (address : String) (detail : String → Option CloudService)
    (listed : CloudService) : Bool :=
  (deploymentsIn detail [listed]).any fun d => c.Sought address d

/-- **A provider that shows a listing of cloud services**, and of each of them its
document, if it has one. -/
structure Provides (c : Client) (answers : Request → Except Fault Response)
    (services : CloudServices) (detail : String → Option CloudService) : Prop where
  listing : ∃ r, answers (.read Path.cloudServices) = .ok r ∧ c.channel.document r = .ok services
  details : ∀ listed ∈ services.items, ∃ r,
    answers (.read (Path.cloudServiceDetail listed.name)) = .ok r ∧
      c.channel.optionalDocument r = .ok (detail listed.name)

/-! ## Looking it up -/

/-- A cloud service is asked for once. -/
theorem runs_cloudService?_of_answeredBy {name : String} {r : Response}
    {found : Option CloudService} {o : Except Fault (Option CloudService)}
    (hr : Runs (c.cloudService? name true deadline) h o) (ha : AnsweredBy answers h.asked)
    (hanswer : answers (.read (Path.cloudServiceDetail name)) = .ok r)
    (hfound : c.channel.optionalDocument r = .ok found) :
    h.asked = [(.read (Path.cloudServiceDetail name), .ok r)] ∧
      o = .ok (found.map (·.labelled)) := by
  have hget : ∀ {h : History Request (Except Fault Response)} {o},
      Runs (c.channel.getOptional (Path.cloudServiceDetail name) deadline) h o →
      AnsweredBy answers h.asked →
        h.asked = [(.read (Path.cloudServiceDetail name), .ok r)] ∧ o = .ok found := by
    intro h o hget ha
    obtain ⟨answer, hreads, rfl⟩ := runs_getOptional hget
    obtain ⟨hasked, rfl⟩ := hreads.eq_of_answeredBy ha hanswer
    exact ⟨hasked, hfound⟩
  obtain ⟨found', h₁, h₂, rfl, hlook, hr⟩ | ⟨fault, rfl, hlook⟩ := runs_bind.1 hr
  · obtain ⟨rfl, rfl⟩ := runs_done.1 hr
    obtain ⟨hasked, heq⟩ := hget hlook (by simpa using ha)
    cases heq
    exact ⟨by simpa using hasked, rfl⟩
  · cases (hget hlook ha).2

/-- What the client looks for in the document of a service. -/
theorem find?_owns {listed : CloudService} :
    ((detail listed.name).map (·.labelled)).bind (·.deployments.find? (c.owns address)) =
      (deploymentsIn detail [listed]).find? fun d => c.Sought address d := by
  have howns : c.owns address = fun d => decide (c.Sought address d) := by
    funext d
    rw [Bool.eq_iff_iff, decide_eq_true_iff]
    exact owns_iff
  rw [howns]
  cases hdetail : detail listed.name with
  | none => simp [deploymentsIn, hdetail]
  | some service => simp [deploymentsIn, hdetail, CloudService.labelled, Deployment.foundIn]

/-- **The search through a part of the listing** ends with the first deployment that is
looked for, and asks for the services up to the one in which it is. -/
theorem runs_findOwner {o : Except Fault (Option Deployment)}
    (hdetails : ∀ listed ∈ items, ∃ r,
      answers (.read (Path.cloudServiceDetail listed.name)) = .ok r ∧
        c.channel.optionalDocument r = .ok (detail listed.name))
    (hr : Runs (c.findOwner address deadline items) h o) (ha : AnsweredBy answers h.asked) :
    o = .ok ((deploymentsIn detail items).find? fun d => c.Sought address d) ∧
      h.asked.map (·.1) = (items.take (items.findIdx (c.isIn address detail) + 1)).map
        fun listed => .read (Path.cloudServiceDetail listed.name) := by
  induction items generalizing h with
  | nil =>
    obtain ⟨rfl, rfl⟩ := runs_done.1 hr
    exact ⟨rfl, rfl⟩
  | cons listed rest ih =>
    obtain ⟨hlisted, hrest⟩ := List.forall_mem_cons.1 hdetails
    obtain ⟨r, hanswer, hfound⟩ := hlisted
    have hsplit : deploymentsIn detail (listed :: rest) =
        deploymentsIn detail [listed] ++ deploymentsIn detail rest := by simp [deploymentsIn]
    rw [hsplit, List.find?_append, ← find?_owns]
    have hisIn : c.isIn address detail listed = (((detail listed.name).map (·.labelled)).bind
        (·.deployments.find? (c.owns address))).isSome := by
      rw [find?_owns, isIn, Bool.eq_iff_iff, List.any_eq_true, List.find?_isSome]
    obtain ⟨service, h₁, h₂, rfl, hservice, hr⟩ | ⟨fault, rfl, hservice⟩ := runs_bind.1 hr
    · obtain ⟨ha₁, ha₂⟩ := answeredBy_append.1 (by simpa using ha)
      obtain ⟨hasked, heq⟩ := runs_cloudService?_of_answeredBy hservice ha₁ hanswer hfound
      cases heq
      rw [History.asked_append, List.map_append, hasked, List.findIdx_cons, hisIn]
      split at hr
      next d hd =>
        obtain ⟨rfl, rfl⟩ := runs_done.1 hr
        simp [hd]
      next hd =>
        obtain ⟨rfl, hasked⟩ := ih hrest hr ha₂
        simp [hd, hasked]
    · cases (runs_cloudService?_of_answeredBy hservice ha hanswer hfound).2

/-- **What a lookup comes to** with a provider that does not change. -/
structure FindsFirst (c : Client) (address : String) (services : CloudServices)
    (detail : String → Option CloudService) (asked : List Asked)
    (o : Except Fault (Option Deployment)) : Prop where
  /-- It ends with the first deployment that is looked for. -/
  found : o = .ok ((deploymentsIn detail services.items).find? fun d => c.Sought address d)
  none_iff : o = .ok none ↔ ∀ d ∈ deploymentsIn detail services.items, ¬ c.Sought address d
  /-- It asks for the listing, and for the services up to the one in which that is. -/
  fetched : asked.map (·.1) = .read Path.cloudServices ::
    (services.items.take (services.items.findIdx (c.isIn address detail) + 1)).map
      fun listed => .read (Path.cloudServiceDetail listed.name)

theorem findsFirst_of_runs (hprovides : c.Provides answers services detail)
    {o : Except Fault (Option Deployment)}
    (hr : Runs (c.deploymentOwning? address deadline) h o) (ha : AnsweredBy answers h.asked) :
    c.FindsFirst address services detail h.asked o := by
  obtain ⟨r, hanswer, hlisting⟩ := hprovides.listing
  have hlist : ∀ {h : History Request (Except Fault Response)} {o},
      Runs (c.cloudServices deadline) h o → AnsweredBy answers h.asked →
        h.asked = [(.read Path.cloudServices, .ok r)] ∧ o = .ok services := by
    intro h o hget ha
    obtain ⟨answer, hreads, rfl⟩ := runs_get hget
    obtain ⟨hasked, rfl⟩ := hreads.eq_of_answeredBy ha hanswer
    exact ⟨hasked, hlisting⟩
  obtain ⟨listed, h₁, h₂, rfl, hget, hr⟩ | ⟨fault, rfl, hget⟩ := runs_bind.1 hr
  · obtain ⟨ha₁, ha₂⟩ := answeredBy_append.1 (by simpa using ha)
    obtain ⟨hasked, heq⟩ := hlist hget ha₁
    cases heq
    obtain ⟨rfl, hfetched⟩ := runs_findOwner hprovides.details hr ha₂
    exact ⟨rfl, by simp, by rw [History.asked_append, hasked, List.map_append, hfetched]; rfl⟩
  · cases (hlist hget ha).2

/-- **The owner of an address is the first match**: with a provider that does not change a
lookup ends, with the first deployment that is looked for or with none, and so does every
run of it. -/
theorem owner_is_first_match (hprovides : c.Provides answers services detail)
    (address : String) (deadline : Deadline) :
    (∃ h o, Runs (c.deploymentOwning? address deadline) h o ∧ AnsweredBy answers h.asked) ∧
      ∀ h o, Runs (c.deploymentOwning? address deadline) h o → AnsweredBy answers h.asked →
        c.FindsFirst address services detail h.asked o :=
  ⟨⟨_, _, runs_alone (steadyServer answers) _ () 0, answeredBy_alone _ 0⟩,
    fun _ _ hr ha => findsFirst_of_runs hprovides hr ha⟩

/-! ## A provider with two owners -/

/-- The document of a listed cloud service at a path. -/
def documentAt? (services : CloudServices) (detail : String → Option CloudService)
    (path : String) : Option CloudService :=
  (services.items.find? fun listed => path = Path.cloudServiceDetail listed.name).bind
    fun listed => detail listed.name

theorem documentAt?_detail {listed : CloudService} (hmem : listed ∈ services.items) :
    documentAt? services detail (Path.cloudServiceDetail listed.name) = detail listed.name := by
  unfold documentAt?
  cases hfirst : services.items.find? fun l => decide
      (Path.cloudServiceDetail listed.name = Path.cloudServiceDetail l.name) with
  | none => exact absurd (decide_eq_true rfl) (List.find?_eq_none.1 hfirst listed hmem)
  | some l =>
    -- a service of the same path that is listed before it has its name
    have hsame := List.find?_some hfirst
    rw [decide_eq_true_iff] at hsame
    rw [Option.bind_some, Path.cloudServiceDetail_injective hsame]

/-- The answers of a provider that serves a listing of cloud services and their documents. -/
def served (services : CloudServices) (detail : String → Option CloudService) (q : Request) :
    Except Fault Response :=
  if q.path = Path.cloudServices then (ScriptedReply.shows (encode services)).answer
  else
    match documentAt? services detail q.path with
    | some service => (ScriptedReply.shows (encode service)).answer
    | none => .ok Script.missing

/-- A document that is served is read. -/
theorem exists_of_survives {α : Type} [Document α] {depth : Nat} {a : α}
    (hwire : c.wire = .json) (h : Survives depth a) (hle : depth ≤ Json.maxDepth) :
    ∃ r, (ScriptedReply.shows (encode a)).answer = .ok r ∧ c.channel.document r = .ok a ∧
      c.channel.optionalDocument r = .ok (some a) := by
  have hread : c.channel.wire.read (encode a).toBytes = .ok a := by
    have hjson : c.channel.wire = .json := hwire
    rw [hjson]
    exact h.json_read hle
  have hsuccess : Response.isSuccess ⟨200, none, (encode a).toBytes⟩ := rfl
  refine ⟨_, rfl, ?_, ?_⟩
  · simp [document, Wire.judge_success hsuccess, hread]
  · simp [optionalDocument, Wire.judge_success hsuccess, hread, Functor.map, Except.map]

/-- **What is served is shown**, if no document says through which service a deployment was
found. -/
theorem provides_served (hwire : c.wire = .json)
    (hlisted : ∀ listed ∈ services.items, ∀ d ∈ listed.deployments, d.service = none)
    (hdetail : ∀ name service, detail name = some service →
      ∀ d ∈ service.deployments, d.service = none) :
    c.Provides (served services detail) services detail where
  listing := by
    have hsurvives : Survives 11 services :=
      survives_listing fun listed h => CloudService.survives (hlisted listed h)
    obtain ⟨r, hanswer, hdocument, -⟩ := exists_of_survives hwire hsurvives (by decide)
    exact ⟨r, by simpa [served, Request.read] using hanswer, hdocument⟩
  details listed hmem := by
    have hpath : Path.cloudServiceDetail listed.name ≠ Path.cloudServices :=
      Path.ne_cloudServices (String.append_assoc ..)
    have hserved : served services detail (.read (Path.cloudServiceDetail listed.name)) =
        match detail listed.name with
        | some service => (ScriptedReply.shows (encode service)).answer
        | none => .ok Script.missing := by
      have hdocument : documentAt? services detail (Path.cloudServiceDetail listed.name) =
          detail listed.name := documentAt?_detail hmem
      rw [← hdocument]
      exact if_neg hpath
    rw [hserved]
    cases hname : detail listed.name with
    | none => exact ⟨_, rfl, rfl⟩
    | some service =>
      obtain ⟨r, hanswer, -, hdocument⟩ :=
        exists_of_survives hwire (CloudService.survives (hdetail _ _ hname)) (by decide)
      exact ⟨r, hanswer, hdocument⟩

/-- A deployment in a network, with instances at some addresses. -/
def housing (name : String) (network : Option String) (addresses : List String) : Deployment where
  name
  slot := Deployment.production
  status := Deployment.running
  instances := addresses.map fun address => { role := "r", name := "i", status := "", address }
  roles := []
  network

/-- A listing of four cloud services. -/
def listedServices : CloudServices :=
  ⟨["a", "b", "c", "d"].map fun name => { name, properties := {}, deployments := [] }⟩

/-- The first of them is missing, the second has the address in other networks, and the
others in that of the client. -/
def listedDetail (name : String) : Option CloudService :=
  if name = "b" then
    some { name := "b", properties := {}, deployments := [
      housing "other" (some "m") ["10.0.0.4"], housing "none" none ["10.0.0.4"]] }
  else if name = "c" then
    some { name := "C", properties := {}, deployments := [
      housing "empty" (some "n") [], housing "first" (some "n") ["10.0.0.5", "10.0.0.4"]] }
  else if name = "d" then
    some { name := "d", properties := {}, deployments := [
      housing "second" (some "n") ["10.0.0.4"]] }
  else none

/-- A client with a network. -/
def networkClient : Client where
  settings := { subscription := "sub", network := some "n" }
  wire := .json

theorem provides_listed :
    networkClient.Provides (served listedServices listedDetail) listedServices listedDetail := by
  refine provides_served rfl ?_ fun name service h => ?_
  · simp [listedServices]
  · unfold listedDetail at h
    split_ifs at h
    all_goals
      cases h
      simp [housing]

/-- It is found in the third service, under the name that its document has, and the fourth
is not asked for. -/
theorem owner_is_first_match_listed :
    networkClient.Provides (served listedServices listedDetail) listedServices listedDetail ∧
      ∃ h, Runs (networkClient.deploymentOwning? "10.0.0.4" ⟨400000⟩) h
          (.ok (some { housing "first" (some "n") ["10.0.0.5", "10.0.0.4"] with
            service := some "C" })) ∧
        h.asked.map (·.1) = [.read Path.cloudServices, .read (Path.cloudServiceDetail "a"),
          .read (Path.cloudServiceDetail "b"), .read (Path.cloudServiceDetail "c")] := by
  obtain ⟨⟨h, o, hr, ha⟩, hall⟩ := owner_is_first_match provides_listed "10.0.0.4" ⟨400000⟩
  have hfinds := hall h o hr ha
  refine ⟨provides_listed, h, ?_, ?_⟩
  · rw [hfinds.found] at hr
    exact hr
  · rw [hfinds.fetched]
    decide +kernel

end Client

end CloudOrchestration
