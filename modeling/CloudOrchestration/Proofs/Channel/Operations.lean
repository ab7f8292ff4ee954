import CloudOrchestration.Channel.Operation
import CloudOrchestration.Proofs.Channel.Exchanges
import CloudOrchestration.Proofs.Workflow.Polling
/-!
# The exchanges of changes that are waited for

For the operation that a change has started, all that counts is whether it
was seen to succeed (`runs_awaitOperation`). So a change that is waited for
ends well just if it was accepted and its operation was seen to succeed
(`Performs.eq_ok_iff`).
-/

namespace CloudOrchestration

namespace Channel

open Workflow

variable {α : Type} {c : Channel} {path : String} {deadline : Deadline}
variable {h : History Request (Except Fault Response)}

/-! ## Operations -/

/-- **The operation was seen to succeed.** -/
def Succeeded (c : Channel) (id : String) (asked : List Asked) : Prop :=
  ∃ (r : Response) (report : OperationReport), (.read (operationPath id), .ok r) ∈ asked ∧
    c.document r = .ok report ∧ report.state = .succeeded

theorem operationEnd_ok {report : OperationReport} :
    operationEnd report = .ready (.ok ()) ↔ report.state = .succeeded := by
  unfold operationEnd OperationReport.outcome?
  cases report.state <;> simp

theorem Succeeded.append_left {id : String} {asked asked' : List Asked}
    (hs : c.Succeeded id asked) : c.Succeeded id (asked ++ asked') := by
  obtain ⟨r, report, hmem, hreport⟩ := hs
  exact ⟨r, report, List.mem_append_left _ hmem, hreport⟩

theorem Succeeded.append_right {id : String} {asked asked' : List Asked}
    (hs : c.Succeeded id asked') : c.Succeeded id (asked ++ asked') := by
  obtain ⟨r, report, hmem, hreport⟩ := hs
  exact ⟨r, report, List.mem_append_right _ hmem, hreport⟩

/-- What a look at a report sees, from the answer in its exchanges. -/
theorem look_eq_document [Document α] {o : Except Fault α} {q : Request} {r : Response}
    (hr : Runs (c.get path deadline) h o) (hx : (q, .ok r) ∈ h.asked) : o = c.document r := by
  obtain ⟨answer, hreads, rfl⟩ := runs_get hr
  rw [hreads.eq_answer hx]
  rfl

/-- **The looks of a wait for an operation**, and what it saw in the end. -/
def AwaitsOperation (c : Channel) (id : String) (deadline : Deadline) (asked : List Asked)
    (seen : Except Fault (Except Rejection Unit)) : Prop :=
  Waits ("operation " ++ id) (c.get (operationPath id) deadline) operationEnd asked seen

/-- A wait ends as what it saw. -/
theorem awaits_awaitOperation {id : String} {o : Except Fault Unit}
    (hr : Runs (c.awaitOperation id deadline) h o) :
    ∃ seen, c.AwaitsOperation id deadline h.asked seen ∧ (o = .ok () ↔ seen = .ok (.ok ())) := by
  rw [awaitOperation, bind_eq, runs_bind] at hr
  obtain ⟨outcome, h₁, h₂, rfl, hwait, hr⟩ | ⟨fault, rfl, hwait⟩ := hr
  · have hrest : h₂ = [] ∧ (o = .ok () ↔ outcome = .ok ()) := by
      cases outcome with
      | ok u => obtain ⟨rfl, rfl⟩ := runs_done.1 hr; simp
      | error r => obtain ⟨rfl, rfl⟩ := runs_fail.1 hr; simp
    obtain ⟨rfl, ho⟩ := hrest
    rw [List.append_nil]
    exact ⟨.ok outcome, runs_awaitState hwait, by simp [ho]⟩
  · exact ⟨.error fault, runs_awaitState hwait, by simp⟩

theorem AwaitsOperation.request_eq {id : String} {asked : List Asked}
    {seen : Except Fault (Except Rejection Unit)} (hw : c.AwaitsOperation id deadline asked seen)
    {x : Asked} (hx : x ∈ asked) : x.1 = .read (operationPath id) := by
  obtain ⟨looks, last, r, hlooks, hlast, rfl, -⟩ := hw
  rcases List.mem_append.1 hx with hx | hx
  · obtain ⟨l, hl, hx⟩ := List.mem_flatMap.1 hx
    obtain ⟨_, _, hlook, -⟩ := hlooks l hl
    obtain ⟨_, hreads, -⟩ := runs_get hlook
    exact hreads.request_eq hx
  · obtain ⟨_, hreads, -⟩ := runs_get hlast
    exact hreads.request_eq hx

/-- A success is the last thing that a wait sees, so that it is seen in the
exchanges just if the wait ends with it. -/
theorem AwaitsOperation.eq_ok_iff {id : String} {asked : List Asked}
    {seen : Except Fault (Except Rejection Unit)} (hw : c.AwaitsOperation id deadline asked seen) :
    seen = .ok (.ok ()) ↔ c.Succeeded id asked := by
  obtain ⟨looks, last, r, hlooks, hlast, rfl, rfl⟩ := hw
  constructor
  · intro hend
    obtain ⟨answer, hreads, hseen⟩ := runs_get hlast
    cases r with
    | error fault => cases hend
    | ok report =>
      -- the last look was a success, and so was its report
      have hstate : operationEnd report = .ready (.ok ()) := by
        cases hj : operationEnd report <;> simp [lastLook, hj] at hend
        rw [hend]
      obtain ⟨r, rfl, hdoc⟩ := fetched_bind_eq_ok hseen.symm
      exact ⟨r, report, List.mem_append_right _ hreads.mem, hdoc, operationEnd_ok.1 hstate⟩
  · rintro ⟨r', report, hx, hdoc, hstate⟩
    have hready := operationEnd_ok.2 hstate
    rcases List.mem_append.1 hx with hx | hx
    · -- A look that saw the success would have ended the wait.
      obtain ⟨l, hl, hx⟩ := List.mem_flatMap.1 hx
      obtain ⟨report', state, hlook, hpending⟩ := hlooks l hl
      have hsame := look_eq_document hlook hx
      rw [hdoc] at hsame
      cases hsame
      rw [hready] at hpending
      cases hpending
    · have hsame := look_eq_document hlast hx
      rw [hdoc] at hsame
      subst hsame
      simp [lastLook, hready]

/-- **The wait for an operation** asks for nothing but its report, and ends
well just if the report was seen to tell of a success. -/
theorem runs_awaitOperation {id : String} {o : Except Fault Unit}
    (hr : Runs (c.awaitOperation id deadline) h o) :
    (∀ x ∈ h.asked, x.1 = .read (operationPath id)) ∧ (o = .ok () ↔ c.Succeeded id h.asked) := by
  obtain ⟨seen, hawaits, ho⟩ := awaits_awaitOperation hr
  exact ⟨fun x hx => hawaits.request_eq hx, ho.trans hawaits.eq_ok_iff⟩

/-! ## Changes that are waited for -/

/-- **The exchanges of a change that is waited for**, and its end. -/
inductive Performs (c : Channel) (q : Request) : List Asked → Except Fault Unit → Prop where
  /-- What was to be sent could not be written. -/
  | unsent (fault : Fault) : Performs c q [] (.error fault)
  | refused {asked : List Asked} {answer : Except Fault Response} {fault : Fault}
      (hs : c.Submits q asked answer) (hr : c.submitted q answer = .error fault) :
      Performs c q asked (.error fault)
  /-- Accepted, and the operation was waited for. -/
  | started {tried awaited : List Asked} {answer : Except Fault Response} {id : String}
      {o : Except Fault Unit} (hs : c.Submits q tried answer)
      (hr : c.submitted q answer = .ok id)
      (hreads : ∀ x ∈ awaited, x.1 = .read (operationPath id))
      (ho : o = .ok () ↔ c.Succeeded id awaited) : Performs c q (tried ++ awaited) o

theorem runs_submit_await {q : Request} {o : Except Fault Unit}
    (hr : Runs ((c.submit q deadline).bind (c.awaitOperation · deadline)) h o) :
    c.Performs q h.asked o := by
  obtain ⟨id, h₁, h₂, rfl, hsubmit, hawait⟩ | ⟨fault, rfl, hsubmit⟩ := runs_bind.1 hr
  · obtain ⟨answer, hs, ho⟩ := runs_submit hsubmit
    obtain ⟨hreads, hend⟩ := runs_awaitOperation hawait
    rw [History.asked_append]
    exact .started hs ho.symm hreads hend
  · obtain ⟨answer, hs, ho⟩ := runs_submit hsubmit
    exact .refused hs ho.symm

/-- The request that sends a document. -/
def sending [Document α] (c : Channel) (method : Method) (path : String) (a : α)
    (contentType : ContentType) : Request :=
  { method, path, body := (c.wire.write a).toOption, contentType }

theorem runs_create [Document α] {a : α} {o : Except Fault Unit}
    (hr : Runs (c.create path a deadline) h o) :
    c.Performs (c.sending .post path a c.wire.contentType) h.asked o := by
  simp only [create, post, bind_eq, bind_assoc, runs_ofExcept_bind] at hr
  obtain ⟨body, hbody, hr⟩ | ⟨fault, -, rfl, rfl⟩ := hr
  · simpa [sending, hbody, Except.toOption] using runs_submit_await hr
  · exact .unsent fault

/-- What was sent had been written. -/
theorem written_of_runs_create [Document α] {a : α} {o : Except Fault Unit} {x : Asked}
    (hr : Runs (c.create path a deadline) h o) (hx : x ∈ h.asked) :
    ∃ body, c.wire.write a = .ok body := by
  simp only [create, post, bind_eq, bind_assoc, runs_ofExcept_bind] at hr
  obtain ⟨body, hbody, -⟩ | ⟨fault, -, rfl, -⟩ := hr
  · exact ⟨body, hbody⟩
  · cases hx

theorem runs_replace [Document α] {a : α} {contentType : ContentType} {o : Except Fault Unit}
    (hr : Runs (c.replace path a contentType deadline) h o) :
    c.Performs (c.sending .put path a contentType) h.asked o := by
  simp only [replace, put, bind_eq, bind_assoc, runs_ofExcept_bind] at hr
  obtain ⟨body, hbody, hr⟩ | ⟨fault, -, rfl, rfl⟩ := hr
  · simpa [sending, hbody, Except.toOption] using runs_submit_await hr
  · exact .unsent fault

theorem runs_remove {o : Except Fault Unit} (hr : Runs (c.remove path deadline) h o) :
    c.Performs { method := .delete, path } h.asked o :=
  runs_submit_await hr

namespace Performs

variable {q : Request} {asked : List Asked} {o : Except Fault Unit}

/-- Such a change sends one request, however often, and asks for reports. -/
theorem request_eq (hp : c.Performs q asked o) {x : Asked} (hx : x ∈ asked) :
    x.1 = q ∨ ∃ id, x.1 = .read (operationPath id) := by
  cases hp with
  | unsent => cases hx
  | refused hs => exact .inl (hs.request_eq hx)
  | started hs _ hreads =>
    rcases List.mem_append.1 hx with hx | hx
    · exact .inl (hs.request_eq hx)
    · exact .inr ⟨_, hreads x hx⟩

/-- **It ends well** just if the request was accepted and the operation that
it started was seen to succeed. -/
theorem eq_ok_iff (hp : c.Performs q asked o) (hq : q.isMutating) :
    o = .ok () ↔ ∃ r id, (q, .ok r) ∈ asked ∧ r.isSuccess ∧ r.requestId = some id ∧
      c.Succeeded id asked := by
  have hread : ∀ path, q ≠ .read path := by rintro path rfl; cases hq
  cases hp with
  | unsent => simp
  | refused hs hr =>
    refine ⟨fun ho => (nomatch ho), ?_⟩
    rintro ⟨r, id, hx, hsuccess, hid, -⟩
    rw [hs.eq_answer hx fun rejection => by simp [Wire.judge_success hsuccess],
      submitted_eq_ok.2 ⟨r, rfl, hsuccess, hid⟩] at hr
    cases hr
  | started hs hr hreads ho =>
    obtain ⟨r, rfl, hsuccess, hid⟩ := submitted_eq_ok.1 hr
    rw [ho]
    constructor
    · intro hsucceeded
      exact ⟨r, _, List.mem_append_left _ hs.mem, hsuccess, hid, hsucceeded.append_right⟩
    · rintro ⟨r', id', hx, hsuccess', hid', r'', report, hx', hdoc, hstate⟩
      rcases List.mem_append.1 hx with hx | hx
      · -- an accepted answer is the last, and names the operation
        cases hs.eq_answer hx fun rejection => by simp [Wire.judge_success hsuccess']
        rw [hid] at hid'
        cases hid'
        -- the report is in the wait: a change is no read
        rcases List.mem_append.1 hx' with hx' | hx'
        · exact absurd (hs.request_eq hx').symm (hread _)
        · exact ⟨r'', report, hx', hdoc, hstate⟩
      · exact absurd (hreads _ hx) (hread _)

/-- What ends well was accepted, and after that its operation was seen to
succeed. -/
theorem exists_accepted (hp : c.Performs q asked (.ok ())) :
    ∃ tried r id awaited, asked = tried ++ (q, .ok r) :: awaited ∧ r.isSuccess ∧
      r.requestId = some id ∧ c.Succeeded id awaited := by
  cases hp with
  | started hs hr hreads ho =>
    obtain ⟨r, rfl, hsuccess, hid⟩ := submitted_eq_ok.1 hr
    obtain ⟨conflicts, -, rfl⟩ := hs
    exact ⟨_, r, _, _, List.append_assoc .., hsuccess, hid, ho.1 rfl⟩

end Performs

/-! ## What is seen of them -/

variable {p : Request → Prop}

theorem onlyAsks_tryRead {again : String → Call Response} (hp : p (.read path))
    (hagain : ∀ failure, OnlyAsks p (again failure)) :
    OnlyAsks p (c.tryRead path deadline again) := by
  refine onlyAsks_bind (onlyAsks_ask hp) fun answer => ?_
  split
  · exact onlyAsks_done _
  · refine onlyAsks_bind onlyAsks_now fun t => ?_
    split
    · exact onlyAsks_fail _
    · exact hagain _
  · exact onlyAsks_fail _

theorem onlyAsks_readAgain (hp : p (.read path)) (retries : Nat) :
    OnlyAsks p (c.readAgain path deadline retries) := by
  induction retries with
  | zero => exact onlyAsks_tryRead hp fun _ => onlyAsks_fail _
  | succ retries ih =>
    exact onlyAsks_tryRead hp fun _ => onlyAsks_bind (onlyAsks_sleep _ _) fun _ => ih

theorem onlyAsks_fetch (hp : p (.read path)) : OnlyAsks p (c.fetch path deadline) :=
  onlyAsks_readAgain hp _

theorem onlyAsks_get [Document α] (hp : p (.read path)) :
    OnlyAsks p (c.get path deadline : Call α) := by
  rw [get_eq]
  exact onlyAsks_bind (onlyAsks_fetch hp) fun r => onlyAsks_ofExcept _

theorem onlyAsks_getOptional [Document α] (hp : p (.read path)) :
    OnlyAsks p (c.getOptional path deadline : Call (Option α)) := by
  rw [getOptional_eq]
  exact onlyAsks_bind (onlyAsks_fetch hp) fun r => onlyAsks_ofExcept _

theorem onlyAsks_trySubmit {q : Request} {again : Rejection → Call String} (hp : p q)
    (hagain : ∀ rejection, OnlyAsks p (again rejection)) :
    OnlyAsks p (c.trySubmit q deadline again) := by
  refine onlyAsks_bind (onlyAsks_ask hp) fun answer => ?_
  refine onlyAsks_bind (onlyAsks_ofExcept _) fun r => ?_
  split
  · split
    · exact onlyAsks_done _
    · exact onlyAsks_fail _
  · refine onlyAsks_bind onlyAsks_now fun t => ?_
    split
    · exact onlyAsks_fail _
    · exact hagain _
  · exact onlyAsks_fail _

theorem onlyAsks_submitAgain {q : Request} (hp : p q) (retries : Nat) :
    OnlyAsks p (c.submitAgain q deadline retries) := by
  induction retries with
  | zero => exact onlyAsks_trySubmit hp fun _ => onlyAsks_fail _
  | succ retries ih =>
    exact onlyAsks_trySubmit hp fun _ => onlyAsks_bind (onlyAsks_sleep _ _) fun _ => ih

theorem onlyAsks_submit {q : Request} (hp : p q) : OnlyAsks p (c.submit q deadline) :=
  onlyAsks_bind onlyAsks_now fun _ => onlyAsks_submitAgain hp _

theorem onlyAsks_awaitOperation {id : String} (hp : p (.read (operationPath id))) :
    OnlyAsks p (c.awaitOperation id deadline) := by
  refine onlyAsks_bind (onlyAsks_awaitState (onlyAsks_get hp)) fun outcome => ?_
  split
  · exact onlyAsks_done _
  · exact onlyAsks_fail _

/-- A document is sent if it can be written. -/
theorem onlyAsks_sending [Document α] {a : α} {method : Method} {contentType : ContentType}
    (hq : p (c.sending method path a contentType)) :
    OnlyAsks p (do
      let body ← Workflow.ofExcept (c.wire.write a)
      c.submit { method, path, body, contentType } deadline) := by
  cases hbody : c.wire.write a with
  | error fault => exact onlyAsks_fail fault
  | ok body =>
    simp only [sending, hbody] at hq
    exact onlyAsks_submit hq

/-- A change that is waited for sends its request and asks for reports. -/
theorem onlyAsks_create [Document α] {a : α} (hread : ∀ id, p (.read (operationPath id)))
    (hq : p (c.sending .post path a c.wire.contentType)) :
    OnlyAsks p (c.create path a deadline) :=
  onlyAsks_bind (onlyAsks_sending hq) fun id => onlyAsks_awaitOperation (hread id)

theorem onlyAsks_replace [Document α] {a : α} {contentType : ContentType}
    (hread : ∀ id, p (.read (operationPath id)))
    (hq : p (c.sending .put path a contentType)) :
    OnlyAsks p (c.replace path a contentType deadline) :=
  onlyAsks_bind (onlyAsks_sending hq) fun id => onlyAsks_awaitOperation (hread id)

theorem onlyAsks_remove (hread : ∀ id, p (.read (operationPath id)))
    (hq : p { method := .delete, path }) : OnlyAsks p (c.remove path deadline) :=
  onlyAsks_bind (onlyAsks_submit hq) fun id => onlyAsks_awaitOperation (hread id)

end Channel

end CloudOrchestration
