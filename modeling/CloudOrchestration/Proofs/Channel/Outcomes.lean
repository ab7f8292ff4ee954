import CloudOrchestration.Proofs.Channel.Operations
import CloudOrchestration.Proofs.Channel.Retries
/-!
# How the wait for an operation ends

The wait for an operation is a row of polls, and each poll is a read of the
report, tried again for want of an answer. Two loops, then; but the very last
answer says how it all ends (`EndsWith`), and nothing is asked after it:

* every poll but the last has shown the operation in progress, before the
  deadline (`PollsUntil`);
* a report of success or failure is final, and its failure is no fault of the
  poll;
* any other end is that of the last poll, or the deadline's.
-/

namespace CloudOrchestration

namespace Channel

open Workflow Schedule

variable {σ α : Type} {c : Channel} {operation : String} {deadline : Deadline}
variable {start finish : Instant}

/-! ## Reports -/

/-- Exactly a report of progress keeps the wait going. -/
theorem operationEnd_eq_pending {report : OperationReport} {state : String} :
    operationEnd report = .pending state ↔
      report.state = .inProgress ∧ state = OperationState.inProgress.text := by
  unfold operationEnd OperationReport.outcome?
  cases report.state <;> simp [eq_comm]

/-- **What a report of a failure says**: the error that it holds, or else the
status of the operation, as far as that is known. -/
inductive Blames (report : OperationReport) : Rejection → Prop where
  | error {rejection : Rejection} (herror : report.error = some rejection) :
      Blames report rejection
  | status {status : UInt16} (herror : report.error = none)
      (hstatus : report.httpStatus = some status) :
      Blames report {
        code := toString status.toNat
        message := "operation " ++ report.id ++ " failed without an error document" }
  | unknown (herror : report.error = none) (hstatus : report.httpStatus = none) :
      Blames report {
        code := "Unknown"
        message := "operation " ++ report.id ++ " failed without an error document" }

theorem blames_failure (report : OperationReport) : Blames report report.failure := by
  unfold OperationReport.failure
  split
  next error herror => exact .error herror
  next herror =>
    cases hstatus : report.httpStatus with
    | some status => exact .status herror hstatus
    | none => exact .unknown herror hstatus

/-! ## The last answer -/

/-- **How the wait for an operation ends** with the last answer, which came at an
instant. -/
inductive EndsWith (c : Channel) (operation : String) (deadline : Deadline) :
    Except Fault Response → Instant → Except Fault Unit → Prop where
  | succeeded {r : Response} {report : OperationReport} {t : Instant}
      (hreport : c.document r = .ok report) (hstate : report.state = .succeeded) :
      EndsWith c operation deadline (.ok r) t (.ok ())
  | failed {r : Response} {report : OperationReport} {rejection : Rejection} {t : Instant}
      (hreport : c.document r = .ok report) (hstate : report.state = .failed)
      (hblames : Blames report rejection) :
      EndsWith c operation deadline (.ok r) t (.error (.operationFailed rejection))
  | refused {r : Response} {t : Instant} (hsuccess : r.isSuccess = false) :
      EndsWith c operation deadline (.ok r) t (.error (.api (c.wire.rejection r)))
  | unreadable {r : Response} {fault : Fault} {t : Instant} (hsuccess : r.isSuccess = true)
      (hread : (c.wire.read r.body : Except Fault OperationReport) = .error fault) :
      EndsWith c operation deadline (.ok r) t (.error fault)
  /-- The transport has failed, but not for want of a connection. -/
  | lost {fault : Fault} {t : Instant} (hlost : ¬ IsUnanswered (.error fault)) :
      EndsWith c operation deadline (.error fault) t (.error fault)
  /-- The operation is still in progress, but no time is left. -/
  | overdue {r : Response} {report : OperationReport} {t : Instant}
      (hreport : c.document r = .ok report) (hstate : report.state = .inProgress)
      (hlate : deadline.instant ≤ t) :
      EndsWith c operation deadline (.ok r) t
        (.error (.timeout (.waiting ("operation " ++ operation) OperationState.inProgress.text)))
  /-- No try of the last poll was answered. -/
  | unanswered {failure : String} {t : Instant} :
      EndsWith c operation deadline (.error (.connection failure)) t
        (.error (.timeout (.unanswered (operationPath operation) c.attempts failure)))

/-- An answer without a document is refused, or cannot be read. -/
theorem document_eq_error [Document α] {r : Response} {fault : Fault}
    (h : (c.document r : Except Fault α) = .error fault) :
    (r.isSuccess = false ∧ fault = .api (c.wire.rejection r)) ∨
      (r.isSuccess = true ∧ (c.wire.read r.body : Except Fault α) = .error fault) := by
  unfold document at h
  cases hsuccess : r.isSuccess with
  | true =>
    rw [Wire.judge_success hsuccess] at h
    exact .inr ⟨rfl, h⟩
  | false =>
    rw [Wire.judge_failure hsuccess] at h
    refine .inl ⟨rfl, ?_⟩
    cases hconflict : (c.wire.rejection r).isConflict <;> rw [hconflict] at h <;> cases h <;> rfl

/-- What the wait makes of the value that it waited for. -/
def concluded : Except Fault (Except Rejection Unit) → Except Fault Unit
  | .ok (.ok ()) => .ok ()
  | .ok (.error rejection) => .error (.operationFailed rejection)
  | .error fault => .error fault

/-- **The last answer decides**: what the wait makes of it is one of those ends. -/
theorem endsWith_of_answer {answer : Except Fault Response} {t : Instant}
    (hlate : SeesPending operationEnd
      (c.fetched (operationPath operation) answer >>= c.document) → deadline.instant ≤ t) :
    c.EndsWith operation deadline answer t (concluded (lastLook ("operation " ++ operation)
      operationEnd (c.fetched (operationPath operation) answer >>= c.document))) := by
  cases answer with
  | error fault =>
    by_cases hunanswered : IsUnanswered (.error fault)
    · obtain ⟨failure, hfailure⟩ := hunanswered
      cases hfailure
      exact .unanswered
    · have hfetched : c.fetched (operationPath operation) (.error fault) = .error fault := by
        cases fault with
        | connection failure => exact absurd ⟨failure, rfl⟩ hunanswered
        | _ => rfl
      rw [hfetched]
      exact .lost hunanswered
  | ok r =>
    have hseen : (c.fetched (operationPath operation) (.ok r) >>= c.document : Except Fault
        OperationReport) = c.document r := rfl
    rw [hseen] at hlate ⊢
    cases hreport : (c.document r : Except Fault OperationReport) with
    | error fault =>
      obtain ⟨hsuccess, rfl⟩ | ⟨hsuccess, hread⟩ := document_eq_error hreport
      · exact .refused hsuccess
      · exact .unreadable hsuccess hread
    | ok report =>
      rw [hreport] at hlate
      cases hstate : report.state with
      | inProgress =>
        have hpending : operationEnd report = .pending OperationState.inProgress.text :=
          operationEnd_eq_pending.2 ⟨hstate, rfl⟩
        simp only [lastLook, hpending, concluded]
        exact .overdue hreport hstate (hlate ⟨report, _, rfl, hpending⟩)
      | succeeded =>
        simp only [lastLook, operationEnd_ok.2 hstate, concluded]
        exact .succeeded hreport hstate
      | failed =>
        have hend : operationEnd report = .ready (.error report.failure) := by
          simp only [operationEnd, OperationReport.outcome?, hstate]
        simp only [lastLook, hend, concluded]
        exact .failed hreport hstate (blames_failure report)

/-! ## Polls -/

/-- A poll for the report on an operation, its dealings and what it saw. -/
abbrev Poll := Look Request (Except Fault Response) OperationReport

/-- **A poll is a read of the report**, tried again only for want of an answer,
and what it saw is in its last answer. -/
structure Poll.Reads (c : Channel) (operation : String) (deadline : Deadline) (x : Poll)
    (answered : Dealing Request (Except Fault Response)) : Prop where
  course : c.ReadsInTime (operationPath operation) deadline c.attempts x.begun x.value.1 answered
    x.ended (c.fetched (operationPath operation) answered.value.2)
  seen : x.value.2 = c.fetched (operationPath operation) answered.value.2 >>= c.document

/-- A poll has shown the operation in progress. -/
def ShowsProgress (v : List (Dealing Request (Except Fault Response)) ×
    Except Fault OperationReport) : Prop :=
  ∃ report, v.2 = .ok report ∧ report.state = .inProgress

/-- **The polls of a wait for an operation** from an instant on, the last of them
and its last answer, and how it ended. -/
structure PollsUntil (c : Channel) (operation : String) (deadline : Deadline) (start : Instant)
    (polls : List Poll) (last : Poll) (answered : Dealing Request (Except Fault Response))
    (finish : Instant) (o : Except Fault Unit) : Prop where
  reads : ∀ x ∈ polls, ∃ answered, Poll.Reads c operation deadline x answered
  /-- All polls but the last showed the operation in progress, before the
  deadline. -/
  row : InRow deadline c.interval ShowsProgress start polls last
  decisive : Poll.Reads c operation deadline last answered
  /-- If even the last answer of the last poll was none, no try of it was answered,
  and no other was allowed. -/
  unreached : IsUnanswered answered.value.2 → (∀ x ∈ last.value.1, IsUnanswered x.value.2) ∧
    (last.value.1.length = c.attempts ∨ deadline.instant ≤ finish)
  finish_eq : finish = answered.ended
  ends : c.EndsWith operation deadline answered.value.2 finish o

/-- A poll without an answer to its last try got none at all. -/
theorem Poll.Reads.forall_isUnanswered {x : Poll}
    {answered : Dealing Request (Except Fault Response)}
    (h : Poll.Reads c operation deadline x answered) (hlast : IsUnanswered answered.value.2) :
    ∀ y ∈ x.value.1, IsUnanswered y.value.2 := by
  obtain ⟨tries, htries, hagain⟩ := h.course.row.eq_append
  intro y hy
  rw [htries, List.mem_append, List.mem_singleton] at hy
  rcases hy with hy | rfl
  · exact (hagain y hy).1
  · exact hlast

theorem reads_of_runsFrom {t t' : Instant}
    {l : List (Dealing Request (Except Fault Response))} {seen : Except Fault OperationReport}
    (hr : RunsFrom (c.get (operationPath operation) deadline) t l t' seen) :
    ∃ answered, Poll.Reads c operation deadline ⟨(l, seen), t, t'⟩ answered := by
  rw [get_eq] at hr
  obtain ⟨o, hfetch, rfl⟩ := runsFrom_bind_ofExcept hr
  obtain ⟨answered, hreads⟩ := readsInTime_of_runsFrom hfetch
  have houtcome := hreads.outcome
  subst houtcome
  exact ⟨answered, hreads, rfl⟩

/-- **The wait for an operation polls until its end.** -/
theorem pollsUntil_of_runsFrom (hinterval : 0 < c.interval)
    {l : List (Dealing Request (Except Fault Response))} {o : Except Fault Unit}
    (hr : RunsFrom (c.awaitOperation operation deadline) start l finish o) :
    ∃ polls last answered, c.PollsUntil operation deadline start polls last answered finish o ∧
      l = polls.flatMap (·.value.1) := by
  have hwait : ∃ seen, RunsFrom (awaitState deadline c.interval ("operation " ++ operation)
      (c.get (operationPath operation) deadline) operationEnd) start l finish seen ∧
      o = concluded seen := by
    rw [awaitOperation, bind_eq, runsFrom_bind] at hr
    obtain ⟨outcome, l₁, t₁, l₂, rfl, hwait, hr⟩ | ⟨fault, rfl, hwait⟩ := hr
    · cases outcome with
      | ok u =>
        obtain ⟨rfl, rfl, rfl⟩ := runsFrom_done.1 hr
        exact ⟨.ok (.ok ()), by simpa using hwait, rfl⟩
      | error rejection =>
        obtain ⟨rfl, rfl, rfl⟩ := runsFrom_fail.1 hr
        exact ⟨.ok (.error rejection), by simpa using hwait, rfl⟩
    · exact ⟨.error fault, hwait, rfl⟩
  obtain ⟨seen, hwait, rfl⟩ := hwait
  obtain ⟨polls, last, hlooks, rfl⟩ := looks_of_runsFrom (.inl hinterval) hwait
  have hreads : ∀ x ∈ polls, ∃ answered, Poll.Reads c operation deadline x answered :=
    fun x hx => reads_of_runsFrom (hlooks.runs x hx)
  obtain ⟨answered, hdecisive⟩ := hreads last hlooks.row.mem
  have hfinish : finish = answered.ended := hlooks.finish_eq.trans hdecisive.course.finish_eq
  refine ⟨polls, last, answered, ⟨hreads, ?_, hdecisive, ?_, hfinish, ?_⟩, rfl⟩
  · refine hlooks.row.mono fun v hv => ?_
    obtain ⟨report, state, hreport, hpending⟩ := hv
    exact ⟨report, hreport, (operationEnd_eq_pending.1 hpending).1⟩
  · intro hunanswered
    rw [hfinish]
    exact ⟨hdecisive.forall_isUnanswered hunanswered, hdecisive.course.exhausted hunanswered⟩
  · rw [hlooks.outcome, hdecisive.seen]
    refine endsWith_of_answer fun hpending => ?_
    rw [← hdecisive.seen] at hpending
    rw [hlooks.finish_eq]
    exact hlooks.late hpending

/-- The last answer is the last dealing of all. -/
theorem PollsUntil.eq_append {polls : List Poll} {last : Poll}
    {answered : Dealing Request (Except Fault Response)} {o : Except Fault Unit}
    (h : c.PollsUntil operation deadline start polls last answered finish o) :
    ∃ earlier, polls.flatMap (·.value.1) = earlier ++ [answered] := by
  obtain ⟨before, rfl, -⟩ := h.row.eq_append
  obtain ⟨tries, htries, -⟩ := h.decisive.course.row.eq_append
  refine ⟨before.flatMap (·.value.1) ++ tries, ?_⟩
  rw [List.flatMap_append, List.flatMap_singleton, htries, List.append_assoc]

/-! ## In a schedule -/

/-- **How the strand of a number has waited for an operation** from an instant
on: its dealings are those of polls, and the last of them decided. Its outcome
was put in the form of all outcomes by a function. -/
structure HasAwaited (c : Channel) (operation : String) (deadline : Deadline) (f : Unit → α)
    (i : Nat) (start : Instant) (s : Schedule σ Request (Except Fault Response) α)
    (polls : List Poll) (last : Poll) (answered : Dealing Request (Except Fault Response))
    (finish : Instant) (o : Except Fault Unit) : Prop where
  ended : s.strands[i]? = some (.ended finish (o.map f))
  course : c.PollsUntil operation deadline start polls last answered finish o
  dealings : s.dealings i = polls.flatMap (·.value.1)
  /-- Nothing is asked after the answer that decides. -/
  final : ∃ earlier, s.dealings i = earlier ++ [answered]

/-- **The last answer says how an operation ended**: a wait for one that is about
to start, beside any other strands and at any point of what they do, ends, and
has then waited so. -/
theorem operation_ends_with_last_answer {server : Server σ Request (Except Fault Response)}
    {s : Schedule σ Request (Except Fault Response) α} {f : Unit → α} {i : Nat} {t : Instant}
    (hinterval : 0 < c.interval)
    (hi : s.strands[i]? = some (.running t (f <$> c.awaitOperation operation deadline)))
    (hlog : ∀ e ∈ s.log, e.strand ≠ i) :
    Inevitably server (fun s' => ∃ polls last answered finish o, c.HasAwaited operation deadline f i
      (max s.world.clock t) s' polls last answered finish o) s := by
  refine (inevitably_runsFrom hi hlog).mono ?_
  rintro s' ⟨finish, _, hended, hmapped⟩
  obtain ⟨o, hruns, rfl⟩ := runsFrom_map hmapped
  obtain ⟨polls, last, answered, hpolls, hdealings⟩ := pollsUntil_of_runsFrom hinterval hruns
  refine ⟨polls, last, answered, finish, o, hended, hpolls, hdealings, ?_⟩
  rw [hdealings]
  exact hpolls.eq_append

/-- Reports on three operations: one succeeds in the end, one has failed without an
error document, and one stays in progress. -/
def reportsScript : Script :=
  let report (id : String) (state : OperationState) : ScriptedReply :=
    .shows (encode (OperationReport.mk id state (some 500) none)) 10
  [((.get, "/operations/1"), [report "1" .inProgress, .fails 10, report "1" .succeeded]),
    ((.get, "/operations/2"), [report "2" .failed]),
    ((.get, "/operations/3"), [report "3" .inProgress])]

/-- The waits for them, about to start. -/
def awaitingReports : Schedule Script Request (Except Fault Response) Unit :=
  Schedule.start { server := reportsScript } [
    id <$> plainClient.channel.awaitOperation "1" ⟨60000⟩,
    id <$> plainClient.channel.awaitOperation "2" ⟨60000⟩,
    id <$> plainClient.channel.awaitOperation "3" ⟨7000⟩]

/-- The first wait goes on after a try that was not answered, the second ends with
its first poll, and the third polls at the deadline for the last time. -/
theorem operation_ends_with_last_answer_reports :
    (∃ n polls last answered finish o, plainClient.channel.HasAwaited "1" ⟨60000⟩ id 0 0
      (awaitingReports.advance Script.respond n) polls last answered finish o) ∧
    (∃ n polls last answered finish o, plainClient.channel.HasAwaited "2" ⟨60000⟩ id 1 0
      (awaitingReports.advance Script.respond n) polls last answered finish o) ∧
    (∃ n polls last answered finish o, plainClient.channel.HasAwaited "3" ⟨7000⟩ id 2 0
      (awaitingReports.advance Script.respond n) polls last answered finish o) ∧
    (awaitingReports.advance Script.respond 30).outcomes = [
      (10030, .ok ()),
      (10, .error (.operationFailed ⟨"500", "operation 2 failed without an error document"⟩)),
      (7010, .error (.timeout (.waiting "operation 3" "InProgress")))] := by
  have hinterval : 0 < plainClient.channel.interval := by decide
  have hlog : ∀ i, ∀ e ∈ awaitingReports.log, e.strand ≠ i := fun _ _ he => nomatch he
  refine ⟨?_, ?_, ?_, by decide +kernel⟩
  · exact (operation_ends_with_last_answer (i := 0) (s := awaitingReports) hinterval rfl
      (hlog 0)).exists_advance
  · exact (operation_ends_with_last_answer (i := 1) (s := awaitingReports) hinterval rfl
      (hlog 1)).exists_advance
  · exact (operation_ends_with_last_answer (i := 2) (s := awaitingReports) hinterval rfl
      (hlog 2)).exists_advance

end Channel

end CloudOrchestration
