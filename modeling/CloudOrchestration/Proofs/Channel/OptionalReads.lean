import CloudOrchestration.Proofs.Channel.Retries
import CloudOrchestration.Proofs.Schedule.Conclusions
/-!
# Reads of what may be absent

A document that may be absent is read as any other is: the same requests are sent,
at the same instants (`optional_read_agrees_with_plain`). The two reads differ in
what they make of the last answer, and only where it reports that there is nothing
(`Channel.ReportsAbsence`): there the one ends with nothing, and the other with the
rejection. Everything else is the same document or the same fault to both, be it a
conflict, a body that is no rejection, a document that cannot be read, or no answer
at all.
-/

namespace CloudOrchestration

namespace Channel

open Workflow Schedule

variable {σ α β : Type} {c : Channel} {path : String} {deadline : Deadline}
variable {r : Response} {rejection : Rejection} {answer : Except Fault Response}

/-! ## What an answer reports -/

/-- **An answer reports that there is nothing**: by its status, or by the code of
the rejection that its body holds. -/
def ReportsAbsence (c : Channel) (r : Response) : Prop :=
  r.status = 404 ∨ r.isSuccess = false ∧
    ∃ rejection : Rejection, c.wire.read r.body = .ok rejection ∧
      rejection.code = Rejection.missingCode

/-- No number is the code for what is missing. -/
theorem toString_ne_missingCode (n : Nat) : toString n ≠ Rejection.missingCode := by
  have hletter : 'R' ∈ Rejection.missingCode.toList := by decide
  exact toString_ne_of_mem hletter rfl n

/-- The status of a success is another. -/
theorem isSuccess_eq_false_of_status (h : r.status = 404) : r.isSuccess = false := by
  rw [Response.isSuccess, h]
  decide

/-- The rejection of an answer has the code for what is missing only where its body
holds it. -/
theorem isMissing_rejection_iff :
    (c.wire.rejection r).isMissing ↔ ∃ rejection : Rejection, c.wire.read r.body = .ok rejection ∧
      rejection.code = Rejection.missingCode := by
  unfold Wire.rejection
  cases hread : (c.wire.read r.body : Except Fault Rejection) with
  | ok read => simp [Rejection.isMissing]
  | error fault =>
    have hcode := toString_ne_missingCode r.status.toNat
    simpa [Rejection.isMissing] using hcode

/-- What is missing is not in conflict. -/
theorem isConflict_eq_false_of_isMissing (h : rejection.isMissing) :
    rejection.isConflict = false := by
  have hcode : rejection.code = Rejection.missingCode := by simpa [Rejection.isMissing] using h
  rw [Rejection.isConflict, hcode]
  decide

/-- An answer that is no success is a rejection. -/
theorem document_of_isSuccess_eq_false [Document α] (h : r.isSuccess = false) :
    (c.document r : Except Fault α) = .error (.api (c.wire.rejection r)) := by
  rw [document, Wire.judge_failure h]
  cases (c.wire.rejection r).isConflict <;> rfl

theorem optionalDocument_of_reportsAbsence [Document α] (h : c.ReportsAbsence r) :
    (c.optionalDocument r : Except Fault (Option α)) = .ok none := by
  unfold optionalDocument
  split
  · rfl
  next hstatus =>
    obtain ⟨hfails, hcode⟩ := h.resolve_left hstatus
    have hmissing := isMissing_rejection_iff.2 hcode
    have hconflict := isConflict_eq_false_of_isMissing hmissing
    simp [Wire.judge_failure hfails, hconflict, hmissing]

/-- **Anything else is what it is to a plain read.** -/
theorem optionalDocument_of_not_reportsAbsence [Document α] (h : ¬ c.ReportsAbsence r) :
    (c.optionalDocument r : Except Fault (Option α)) = (c.document r).map some := by
  have hstatus : r.status ≠ 404 := fun hstatus => h (.inl hstatus)
  rw [optionalDocument, if_neg hstatus, document]
  cases hsuccess : r.isSuccess with
  | true =>
    rw [Wire.judge_success hsuccess]
    cases (c.wire.read r.body : Except Fault α) <;> rfl
  | false =>
    have hpresent : (c.wire.rejection r).isMissing = false :=
      Bool.eq_false_iff.2 fun hmissing => h (.inr ⟨hsuccess, isMissing_rejection_iff.1 hmissing⟩)
    rw [Wire.judge_failure hsuccess]
    cases (c.wire.rejection r).isConflict with
    | true => rfl
    | false => simp only [Bool.false_eq_true, if_false, hpresent, Except.map]

theorem optionalDocument_eq_error [Document α] {fault : Fault} (h : ¬ c.ReportsAbsence r)
    (hdocument : (c.document r : Except Fault α) = .error fault) :
    (c.optionalDocument r : Except Fault (Option α)) = .error fault := by
  rw [optionalDocument_of_not_reportsAbsence h, hdocument]
  rfl

/-! ## What a read makes of its last answer -/

/-- **How the ends of the two reads compare**, after the same last answer. -/
structure ReadsAlike (c : Channel) (path : String) (answer : Except Fault Response)
    [Document α] (o : Except Fault α) (o' : Except Fault (Option α)) : Prop where
  /-- There is nothing if and only if that is what was reported. -/
  absent_iff : o' = .ok none ↔ ∃ r, answer = .ok r ∧ c.ReportsAbsence r
  /-- The plain read ends with the rejection then. -/
  missed : ∀ r, answer = .ok r → c.ReportsAbsence r → o = .error (.api (c.wire.rejection r))
  found_iff : ∀ d, o' = .ok (some d) ↔ o = .ok d
  /-- Otherwise both end with the same fault, if with any. -/
  failed_iff : (¬ ∃ r, answer = .ok r ∧ c.ReportsAbsence r) →
    ∀ fault, o' = .error fault ↔ o = .error fault
  /-- A body that is no rejection is not taken for one. -/
  unreadable : ∀ r, answer = .ok r → r.status ≠ 404 → r.isSuccess = false →
    (∀ rejection : Rejection, c.wire.read r.body ≠ .ok rejection) →
    o' = .error (.api ⟨toString r.status.toNat, Utf8.lossy r.body⟩)
  /-- Nor is a conflict. -/
  conflict : ∀ r rejection, answer = .ok r → r.status ≠ 404 → c.PutsOff r rejection →
    o' = .error (.api rejection)
  /-- Nor a document of another form. -/
  malformed : ∀ r fault, answer = .ok r → r.isSuccess →
    (c.wire.read r.body : Except Fault α) = .error fault → o' = .error fault
  /-- Nor the want of an answer, -/
  unanswered : ∀ failure, answer = .error (.connection failure) →
    o' = .error (.timeout (.unanswered path c.attempts failure))
  /-- nor any other failure of the transport. -/
  lost : ∀ fault, answer = .error fault → ¬ IsUnanswered answer → o' = .error fault

/-- What reports an absence is no success. -/
theorem ReportsAbsence.isSuccess_eq_false (h : c.ReportsAbsence r) : r.isSuccess = false :=
  h.elim isSuccess_eq_false_of_status And.left

/-- A body with another code reports none, nor does one that is no rejection. -/
theorem not_reportsAbsence_of_read (hstatus : r.status ≠ 404)
    (hread : ∀ rejection : Rejection, c.wire.read r.body = .ok rejection →
      rejection.code ≠ Rejection.missingCode) : ¬ c.ReportsAbsence r := by
  rintro (h | ⟨-, rejection, h, hcode⟩)
  · exact hstatus h
  · exact hread rejection h hcode

/-- Unless there is nothing, the reads end alike. -/
theorem fetched_bind_optionalDocument [Document α]
    (h : ¬ ∃ r, answer = .ok r ∧ c.ReportsAbsence r) :
    (c.fetched path answer >>= c.optionalDocument : Except Fault (Option α)) =
      (c.fetched path answer >>= c.document).map some := by
  cases answer with
  | ok r => exact optionalDocument_of_not_reportsAbsence fun habsent => h ⟨r, rfl, habsent⟩
  | error fault => cases fault <;> rfl

/-- **The reads end so.** -/
theorem readsAlike_fetched [Document α] :
    c.ReadsAlike path answer (c.fetched path answer >>= c.document : Except Fault α)
      (c.fetched path answer >>= c.optionalDocument) where
  absent_iff := by
    constructor
    · intro h
      by_contra hpresent
      -- then it is the end of the plain read, which is never nothing
      rw [fetched_bind_optionalDocument hpresent] at h
      cases ho : (c.fetched path answer >>= c.document : Except Fault α) <;> rw [ho] at h <;> cases h
    · rintro ⟨r, rfl, habsent⟩
      exact optionalDocument_of_reportsAbsence habsent
  missed := by
    rintro r rfl habsent
    exact document_of_isSuccess_eq_false habsent.isSuccess_eq_false
  found_iff d := by
    by_cases hpresent : ∃ r, answer = .ok r ∧ c.ReportsAbsence r
    · obtain ⟨r, rfl, habsent⟩ := hpresent
      have ho : (c.fetched path (.ok r) >>= c.document : Except Fault α) =
          .error (.api (c.wire.rejection r)) :=
        document_of_isSuccess_eq_false habsent.isSuccess_eq_false
      have ho' : (c.fetched path (.ok r) >>= c.optionalDocument : Except Fault (Option α)) =
          .ok none := optionalDocument_of_reportsAbsence habsent
      simp [ho, ho']
    · rw [fetched_bind_optionalDocument hpresent]
      cases (c.fetched path answer >>= c.document : Except Fault α) <;> simp [Except.map]
  failed_iff hpresent fault := by
    rw [fetched_bind_optionalDocument hpresent]
    cases (c.fetched path answer >>= c.document : Except Fault α) <;> simp [Except.map]
  unreadable := by
    rintro r rfl hstatus hfails hread
    have hpresent := not_reportsAbsence_of_read hstatus fun rejection h => absurd h (hread rejection)
    have hrejection : c.wire.rejection r = ⟨toString r.status.toNat, Utf8.lossy r.body⟩ := by
      unfold Wire.rejection
      cases h : (c.wire.read r.body : Except Fault Rejection) with
      | ok rejection => exact absurd h (hread rejection)
      | error fault => rfl
    rw [← hrejection]
    exact optionalDocument_eq_error hpresent (document_of_isSuccess_eq_false hfails)
  conflict := by
    rintro r rejection rfl hstatus ⟨hfails, hread, hcode⟩
    have hpresent : ¬ c.ReportsAbsence r := by
      refine not_reportsAbsence_of_read hstatus fun rejection' hread' => ?_
      rw [hread] at hread'
      cases hread'
      rw [hcode]
      decide
    have hrejection : c.wire.rejection r = rejection := by simp [Wire.rejection, hread]
    rw [← hrejection]
    exact optionalDocument_eq_error hpresent (document_of_isSuccess_eq_false hfails)
  malformed := by
    rintro r fault rfl hsuccess hread
    have hpresent : ¬ c.ReportsAbsence r := by
      intro habsent
      rw [habsent.isSuccess_eq_false] at hsuccess
      cases hsuccess
    refine optionalDocument_eq_error hpresent ?_
    simp only [document, Wire.judge_success hsuccess, hread]
  unanswered := by
    rintro failure rfl
    rfl
  lost := by
    rintro fault rfl hlost
    cases fault with
    | connection failure => exact absurd ⟨failure, rfl⟩ hlost
    | _ => rfl

/-! ## In a schedule -/

/-- **How the strand of a number has read a path** with a plain read, in one end of
a schedule, and with the other read in another: the two ends have the same log and
leave the same world, and no other strand knows the difference. What the reads end
with was put in the form of all outcomes by two functions. -/
structure ReadBothWays (c : Channel) (path : String) (deadline : Deadline) [Document β]
    (f : β → α) (g : Option β → α) (i : Nat) (start : Instant)
    (plain optional : Schedule σ Request (Except Fault Response) α)
    (last : Dealing Request (Except Fault Response)) (finish : Instant)
    (o : Except Fault β) (o' : Except Fault (Option β)) : Prop where
  /-- Both are reads, and the last answer is the same. -/
  course : c.ReadsInTime path deadline c.attempts start (plain.dealings i) last finish
    (c.fetched path last.value.2)
  final : ∃ earlier, plain.dealings i = earlier ++ [last]
  ended : plain.strands[i]? = some (.ended finish (o.map f))
  same : optional = plain.withStrand i (.ended finish (o'.map g))
  alike : c.ReadsAlike path last.value.2 o o'

/-- **A read of what may be absent agrees with a plain read**: where the one is
about to start, beside any other strands and at any point of what they do, the
other in its place sends the same requests at the same instants, and they end
alike. -/
theorem optional_read_agrees_with_plain [Document β]
    {server : Server σ Request (Except Fault Response)}
    {s : Schedule σ Request (Except Fault Response) α} {f : β → α} {g : Option β → α} {i : Nat}
    {t : Instant} (hi : s.strands[i]? = some (.running t (f <$> c.get path deadline)))
    (hlog : ∀ e ∈ s.log, e.strand ≠ i) :
    ∃ last finish o o', c.ReadBothWays path deadline f g i (max s.world.clock t) (s.run server)
      ((s.withStrand i (.running t (g <$> c.getOptional path deadline))).run server)
      last finish o o' := by
  have hplain : f <$> c.get path deadline =
      (c.fetch path deadline).conclude fun o => (o >>= c.document).map f := by
    rw [get_eq, bind_ofExcept_eq_conclude, map_eq_conclude, conclude_conclude]
    rfl
  have hoptional : g <$> c.getOptional path deadline =
      (c.fetch path deadline).conclude fun o => (o >>= c.optionalDocument).map g := by
    rw [getOptional_eq, bind_ofExcept_eq_conclude, map_eq_conclude, conclude_conclude]
    rfl
  rw [hplain] at hi
  obtain ⟨finish, o, hruns, hended, hsame⟩ := exists_run_withStrand server hi hlog
  obtain ⟨last, hreads⟩ := readsInTime_of_runsFrom hruns
  obtain ⟨earlier, hearlier, -⟩ := hreads.row.eq_append
  obtain rfl := hreads.outcome
  refine ⟨last, finish, _, _, hreads, ⟨earlier, hearlier⟩, hended, ?_, readsAlike_fetched⟩
  rw [hoptional]
  exact hsame _

/-- A provider that has nothing at a path, once it can be reached, and that puts
off who asks for another. -/
def absentScript : Script := [
  ((.get, "/a"), [.fails 10, .refuses 404 10]),
  ((.get, "/b"), [.postpones 20])]

/-- Plain reads of the two paths, about to start. -/
def plainReads : Schedule Script Request (Except Fault Response) (Option Rejection) :=
  Schedule.start { server := absentScript } [
    some <$> plainClient.channel.get "/a" ⟨60000⟩,
    some <$> plainClient.channel.get "/b" ⟨60000⟩]

/-- The first of them as a read of what may be absent. -/
def absentRead : Schedule Script Request (Except Fault Response) (Option Rejection) :=
  plainReads.withStrand 0 (.running 0 (id <$> plainClient.channel.getOptional "/a" ⟨60000⟩))

/-- And the second. -/
def conflictingRead : Schedule Script Request (Except Fault Response) (Option Rejection) :=
  plainReads.withStrand 1 (.running 0 (id <$> plainClient.channel.getOptional "/b" ⟨60000⟩))

/-- What the plain read is refused is absent to the other, and a conflict is a
fault to both. -/
theorem optional_read_agrees_with_plain_absent :
    (∃ last finish o o', plainClient.channel.ReadBothWays "/a" ⟨60000⟩ some id 0 0
      (plainReads.run Script.respond) (absentRead.run Script.respond) last finish o o') ∧
    (∃ last finish o o', plainClient.channel.ReadBothWays "/b" ⟨60000⟩ some id 1 0
      (plainReads.run Script.respond) (conflictingRead.run Script.respond) last finish o o') ∧
    (plainReads.advance Script.respond 20).outcomes = [(5020, .error (.api ⟨"404", ""⟩)),
      (20, .error (.api ⟨Rejection.conflictCode, "Another change is in flight"⟩))] ∧
    (absentRead.advance Script.respond 20).outcomes = [(5020, .ok none),
      (20, .error (.api ⟨Rejection.conflictCode, "Another change is in flight"⟩))] ∧
    (conflictingRead.advance Script.respond 20).outcomes =
      (plainReads.advance Script.respond 20).outcomes := by
  have hlog : ∀ i, ∀ e ∈ plainReads.log, e.strand ≠ i := fun _ _ he => nomatch he
  refine ⟨?_, ?_, by decide +kernel, by decide +kernel, by decide +kernel⟩
  · exact optional_read_agrees_with_plain (i := 0) (s := plainReads) rfl (hlog 0)
  · exact optional_read_agrees_with_plain (i := 1) (s := plainReads) rfl (hlog 1)

end Channel

end CloudOrchestration
