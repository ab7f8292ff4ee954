import CloudOrchestration.Channel.Operation
import CloudOrchestration.Client.Descriptor
import CloudOrchestration.Proofs.Workflow.Alone
import CloudOrchestration.Proofs.Workflow.Sight
import CloudOrchestration.Simulation.Script
/-!
# Scripts to exhibit runs with

A plain client, and the replies from which scripts for it are put together.
-/

namespace CloudOrchestration

/-- A client with the standard settings. -/
def plainClient : Client := { settings := { subscription := "sub" }, wire := .json }

/-- A machine of which nothing but the names is given. -/
def plainDescriptor (role : String) (service : Option String := none) : Descriptor where
  role
  affinityGroup := "g"
  storageAccount := "s"
  system := .linux {
    hostName := role, userName := "u", userPassword := none, disablePasswordLogin := true }
  service

namespace ScriptedReply

/-- A reply that shows a document. -/
def shows (v : Json) (delay : Nat := 0) : ScriptedReply :=
  { delay, answer := .ok { status := 200, requestId := none, body := v.toBytes } }

/-- A reply that accepts a change, after a delay, and names its operation. -/
def accepts (id : String) (delay : Nat := 0) : ScriptedReply :=
  { delay, answer := .ok { status := 202, requestId := some id, body := .empty } }

/-- A reply that refuses a request, after a delay. -/
def refuses (status : UInt16) (delay : Nat := 0) : ScriptedReply :=
  { delay, answer := .ok { status, requestId := none, body := .empty } }

/-- A reply that puts a change off, after a delay. -/
def postpones (delay : Nat := 0) : ScriptedReply where
  delay
  answer := .ok {
    status := 409
    requestId := none
    body := (encode (Rejection.mk Rejection.conflictCode "Another change is in flight")).toBytes }

/-- No reply: the connection fails, after a delay. -/
def fails (delay : Nat := 0) : ScriptedReply :=
  { delay, answer := .error (.connection "reset by peer") }

end ScriptedReply

namespace Script

/-- A listing of the cloud services of some names. -/
def listing (names : List String) : ScriptedReply :=
  .shows (.obj [("HostedServices", .arr (names.map fun name => .obj [("ServiceName", .str name)]))])

/-- An operation that has succeeded. -/
def operationDone (id : String) : (Method × String) × List ScriptedReply :=
  ((.get, Channel.operationPath id),
    [.shows (.obj [("ID", .str id), ("Status", encode OperationState.succeeded)])])

/-- What a script has no queue for does not exist. -/
theorem answer_of_missing {script : Script} {q : Request}
    (h : ∀ entry ∈ script, entry.1 ≠ (q.method, q.path)) :
    (respond script q).answer = .ok missing := by
  induction script with
  | nil => rfl
  | cons entry rest ih =>
    obtain ⟨hfirst, hrest⟩ := List.forall_mem_cons.1 h
    simp [respond, hfirst, ih hrest]

end Script

/-- The request that a sight shows to be accepted. -/
def Sight.accepted? : Sight Request (Except Fault Response) → Option Request
  | asked q (.ok r) => if r.isSuccess then some q else none
  | asked _ (.error _) | acquired _ | refused _ | released _ => none

theorem Sight.accepted?_eq_some {x : Sight Request (Except Fault Response)} {q : Request} :
    x.accepted? = some q ↔ ∃ r : Response, x = .asked q (.ok r) ∧ r.isSuccess := by
  constructor
  · intro h
    unfold accepted? at h
    split at h
    next q' r =>
      split at h
      next hsuccess =>
        cases h
        exact ⟨r, rfl, hsuccess⟩
      next => cases h
    all_goals cases h
  · rintro ⟨r, rfl, hsuccess⟩
    exact if_pos hsuccess

/-- Who is seen to have a request accepted has asked for it. -/
theorem exists_of_map_accepted? {seen : List (Nat × Sight Request (Except Fault Response))}
    {n i : Nat} {q : Request}
    (h : seen[n]?.map (fun x => (x.1, x.2.accepted?)) = some (i, some q)) :
    ∃ r : Response, seen[n]? = some (i, .asked q (.ok r)) ∧ r.isSuccess := by
  obtain ⟨⟨j, x⟩, hx, heq⟩ := Option.map_eq_some_iff.1 h
  obtain ⟨rfl, haccepted⟩ := Prod.mk.inj heq
  obtain ⟨r, rfl, hsuccess⟩ := Sight.accepted?_eq_some.1 haccepted
  exact ⟨r, hx, hsuccess⟩

end CloudOrchestration
