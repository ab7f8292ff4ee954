import CloudOrchestration.Proofs.Channel.Exchanges
import CloudOrchestration.Proofs.Client.Scripts
import CloudOrchestration.Proofs.Schedule.Clocked
import CloudOrchestration.Proofs.Workflow.Retries
/-!
# When requests are sent again

A change is sent again only after the provider has put it off, and a read only
after it got no answer at all: in both cases before the deadline, an interval
later, or at the deadline if that is sooner. A change goes on so until the
deadline, and it is the waits in between that reach it; a read is tried a fixed
number of times at most. Whatever other answer there is settles the request, and
nothing is sent after it.
-/

namespace CloudOrchestration

namespace Channel

open Workflow Schedule

variable {σ α β : Type} {c : Channel} {q : Request} {path : String} {deadline : Deadline}
variable {t t' : Instant} {l : List (Dealing Request (Except Fault Response))}

/-! ## Conflicts -/

/-- **An answer puts a change off** if it is no success and its body is a
rejection with the code of a conflict. -/
def PutsOff (c : Channel) (r : Response) (rejection : Rejection) : Prop :=
  r.isSuccess = false ∧ c.wire.read r.body = .ok rejection ∧
    rejection.code = Rejection.conflictCode

/-- No number is written with a letter. -/
theorem toString_ne_of_mem {code : String} {letter : Char} (hmem : letter ∈ code.toList)
    (hletter : letter.isDigit = false) (n : Nat) : toString n ≠ code := by
  intro h
  have hdigits : (toString n).toList = Nat.toDigits 10 n := by simp [Nat.repr]
  rw [← h, hdigits] at hmem
  have hdigit := Nat.isDigit_of_mem_toDigits (by decide) (by decide) hmem
  rw [hletter] at hdigit
  cases hdigit

/-- No number is the code of a conflict. -/
theorem toString_ne_conflictCode (n : Nat) : toString n ≠ Rejection.conflictCode := by
  have hletter : 'C' ∈ Rejection.conflictCode.toList := by decide
  exact toString_ne_of_mem hletter rfl n

/-- **Those answers are judged to be conflicts**, and no other: where the body is
no rejection the status stands for its code. -/
theorem judge_eq_conflict_iff {r : Response} {rejection : Rejection} :
    c.wire.judge r = .conflict rejection ↔ c.PutsOff r rejection := by
  unfold PutsOff
  cases hsuccess : r.isSuccess with
  | true => simp [Wire.judge_success hsuccess]
  | false =>
    rw [Wire.judge_failure hsuccess]
    simp only [true_and]
    cases hread : (c.wire.read r.body : Except Fault Rejection) with
    | ok read =>
      have hrejection : c.wire.rejection r = read := by simp [Wire.rejection, hread]
      rw [hrejection]
      simp only [Rejection.isConflict, beq_iff_eq, Except.ok.injEq]
      by_cases hcode : read.code = Rejection.conflictCode
      · rw [if_pos hcode, Verdict.conflict.injEq]
        constructor
        · rintro rfl
          exact ⟨rfl, hcode⟩
        · exact fun h => h.1
      · rw [if_neg hcode]
        constructor
        · rintro ⟨⟩
        · rintro ⟨rfl, h⟩
          exact absurd h hcode
    | error fault =>
      have hcode : (c.wire.rejection r).isConflict = false := by
        simp only [Wire.rejection, hread, Rejection.isConflict, beq_eq_false_iff_ne]
        exact toString_ne_conflictCode _
      simp [hcode]

/-! ## Changes -/

/-- The answer to a change puts it off. -/
def IsPutOff (c : Channel) (answer : Except Fault Response) : Prop :=
  ∃ r rejection, answer = .ok r ∧ c.PutsOff r rejection

/-- **What is no success** puts the change off, or refuses it. -/
theorem judge_of_isSuccess_eq_false {r : Response} (hsuccess : r.isSuccess = false) :
    (∃ rejection, c.wire.judge r = .conflict rejection ∧ c.PutsOff r rejection) ∨
      c.wire.judge r = .fatal (c.wire.rejection r) ∧ ¬ c.IsPutOff (.ok r) := by
  have hjudge := c.wire.judge_failure hsuccess
  split at hjudge
  · exact .inl ⟨_, hjudge, judge_eq_conflict_iff.1 hjudge⟩
  · refine .inr ⟨hjudge, ?_⟩
    rintro ⟨_, rejection, ⟨⟩, hputsOff⟩
    rw [judge_eq_conflict_iff.2 hputsOff] at hjudge
    cases hjudge

/-- **How an answer settles a change** at an instant. -/
inductive Settles (c : Channel) (q : Request) (deadline : Deadline) :
    Except Fault Response → Instant → Except Fault String → Prop where
  | accepted {r : Response} {id : String} {t : Instant} (hsuccess : r.isSuccess = true)
      (hid : r.requestId = some id) : Settles c q deadline (.ok r) t (.ok id)
  | unidentified {r : Response} {t : Instant} (hsuccess : r.isSuccess = true)
      (hid : r.requestId = none) :
      Settles c q deadline (.ok r) t (.error (.protocol (.noRequestId q.method q.path)))
  | refused {r : Response} {t : Instant} (hsuccess : r.isSuccess = false)
      (hfinal : ¬ c.IsPutOff (.ok r)) :
      Settles c q deadline (.ok r) t (.error (.api (c.wire.rejection r)))
  /-- It was put off once more, but no time is left. -/
  | overdue {r : Response} {rejection : Rejection} {t : Instant}
      (hputsOff : c.PutsOff r rejection) (hlate : deadline.instant ≤ t) :
      Settles c q deadline (.ok r) t (.error (.timeout (.conflicting q.method q.path rejection)))
  /-- The transport has failed; whether the change was accepted is not known. -/
  | lost {fault : Fault} {t : Instant} : Settles c q deadline (.error fault) t (.error fault)

/-- **The course of a change** from an instant on: the requests that were sent,
the last of them, and how it ended. -/
structure Changes (c : Channel) (q : Request) (deadline : Deadline) (start : Instant)
    (sent : List (Dealing Request (Except Fault Response)))
    (last : Dealing Request (Except Fault Response)) (finish : Instant)
    (o : Except Fault String) : Prop where
  same : ∀ x ∈ sent, x.value.1 = q
  /-- All but the last were put off before the deadline. -/
  row : InRow deadline c.interval (fun v => c.IsPutOff v.2) start sent last
  finish_eq : finish = last.ended
  settled : c.Settles q deadline last.value.2 last.ended o

/-- A try settles the change, or it was put off before the deadline and the change
goes on. -/
theorem runsFrom_trySubmit {again : Rejection → Call String} {o : Except Fault String}
    (hr : RunsFrom (c.trySubmit q deadline again) t l t' o) :
    ∃ answer t₁ rest, t ≤ t₁ ∧ l = ⟨(q, answer), t, t₁⟩ :: rest ∧
      ((rest = [] ∧ t' = t₁ ∧ c.Settles q deadline answer t₁ o) ∨
        ∃ r rejection, answer = .ok r ∧ c.PutsOff r rejection ∧ t₁ < deadline.instant ∧
          RunsFrom (again rejection) t₁ rest t' o) := by
  rw [trySubmit, bind_eq, runsFrom_ask_bind] at hr
  obtain ⟨answer, t₁, rest, hle, rfl, hr⟩ := hr
  refine ⟨answer, t₁, rest, hle, rfl, ?_⟩
  cases answer with
  | error fault =>
    obtain ⟨rfl, rfl, rfl⟩ := runsFrom_fail.1 hr
    exact .inl ⟨rfl, rfl, .lost⟩
  | ok r =>
    simp only [bind_eq, Workflow.ofExcept, done_bind] at hr
    cases hsuccess : r.isSuccess with
    | true =>
      simp only [Wire.judge_success hsuccess] at hr
      cases hid : r.requestId with
      | some id =>
        simp only [hid, pure_eq, runsFrom_done] at hr
        obtain ⟨rfl, rfl, rfl⟩ := hr
        exact .inl ⟨rfl, rfl, .accepted hsuccess hid⟩
      | none =>
        simp only [hid, runsFrom_fail] at hr
        obtain ⟨rfl, rfl, rfl⟩ := hr
        exact .inl ⟨rfl, rfl, .unidentified hsuccess hid⟩
    | false =>
      obtain ⟨rejection, hj, hputsOff⟩ | ⟨hj, hfinal⟩ :=
        judge_of_isSuccess_eq_false (c := c) hsuccess
      · simp only [hj, runsFrom_unlessExpired] at hr
        obtain ⟨hexpired, hr⟩ | ⟨hbefore, hr⟩ := hr
        · obtain ⟨rfl, rfl, rfl⟩ := runsFrom_fail.1 hr
          exact .inl ⟨rfl, rfl, .overdue hputsOff hexpired⟩
        · exact .inr ⟨r, rejection, rfl, hputsOff, hbefore, hr⟩
      · simp only [hj, runsFrom_fail] at hr
        obtain ⟨rfl, rfl, rfl⟩ := hr
        exact .inl ⟨rfl, rfl, .refused hsuccess hfinal⟩

/-- **A change that is settled at its first try.** -/
theorem changes_last {answer : Except Fault Response} {o : Except Fault String} (hle : t ≤ t')
    (hsettles : c.Settles q deadline answer t' o) :
    c.Changes q deadline t [⟨(q, answer), t, t'⟩] ⟨(q, answer), t, t'⟩ t' o where
  same x hx := by rw [List.mem_singleton.1 hx]
  row := .last (x := ⟨(q, answer), t, t'⟩) hle
  finish_eq := rfl
  settled := hsettles

/-- **A change runs its course**: as many tries as waits reach the deadline are
never too few. Without an interval the tries themselves have to take time. -/
theorem changes_of_runsFrom_submitAgain {retries : Nat} {o : Except Fault String}
    (hpace : 0 < c.interval ∨ ∀ x ∈ l, x.begun < x.ended)
    (hretries : deadline.waitsLeft t c.interval ≤ retries)
    (hr : RunsFrom (c.submitAgain q deadline retries) t l t' o) :
    ∃ last, c.Changes q deadline t l last t' o := by
  induction retries generalizing t l with
  | zero =>
    obtain ⟨answer, t₁, rest, hle, rfl, ⟨rfl, rfl, hsettles⟩ | ⟨r, rejection, -, -, hbefore, -⟩⟩ :=
      runsFrom_trySubmit hr
    · exact ⟨_, changes_last hle hsettles⟩
    · -- no wait is left, so the answer comes at the deadline or after
      have hexpired := Deadline.waitsLeft_eq_zero_iff.1 (Nat.le_zero.1 hretries)
      exact absurd hbefore (Nat.not_lt_of_le (Nat.le_trans hexpired hle))
  | succ retries ih =>
    obtain ⟨answer, t₁, rest, hle, rfl,
      ⟨rfl, rfl, hsettles⟩ | ⟨r, rejection, rfl, hputsOff, hbefore, hr⟩⟩ := runsFrom_trySubmit hr
    · exact ⟨_, changes_last hle hsettles⟩
    · rw [bind_eq, runsFrom_sleep_bind] at hr
      have hfirst : 0 < c.interval ∨ t < t₁ :=
        hpace.imp_right fun htakes => htakes _ List.mem_cons_self
      have hlater : 0 < c.interval ∨ ∀ x ∈ rest, x.begun < x.ended :=
        hpace.imp_right fun htakes x hx => htakes x (List.mem_cons_of_mem _ hx)
      obtain ⟨last, hchanges⟩ := ih hlater (Deadline.waitsLeft_wake_le hfirst hle hretries) hr
      rw [Deadline.max_wake hbefore] at hchanges
      let first : Dealing Request (Except Fault Response) := ⟨(q, .ok r), t, t₁⟩
      refine ⟨last, { hchanges with same := ?_, row := ?_ }⟩
      · exact List.forall_mem_cons.2 ⟨rfl, hchanges.same⟩
      · exact .more (x := first) hle ⟨r, rejection, rfl, hputsOff⟩ hbefore hchanges.row

theorem changes_of_runsFrom {o : Except Fault String}
    (hpace : 0 < c.interval ∨ ∀ x ∈ l, x.begun < x.ended)
    (hr : RunsFrom (c.submit q deadline) t l t' o) : ∃ last, c.Changes q deadline t l last t' o := by
  rw [submit, bind_eq, runsFrom_now_bind] at hr
  exact changes_of_runsFrom_submitAgain hpace (Nat.le_refl _) hr

/-- The provider has accepted what it was sent. -/
def wasAccepted (x : Dealing Request (Except Fault Response)) : Bool :=
  match x.value.2 with
  | .ok r => r.isSuccess
  | .error _ => false

/-- What is put off is not accepted. -/
theorem IsPutOff.wasAccepted_eq_false {x : Dealing Request (Except Fault Response)}
    (h : c.IsPutOff x.value.2) : wasAccepted x = false := by
  obtain ⟨r, rejection, hr, hsuccess, -⟩ := h
  simp only [wasAccepted, hr, hsuccess]

/-- **A change is accepted once at most.** -/
theorem Changes.countP_wasAccepted_le {start finish : Instant}
    {last : Dealing Request (Except Fault Response)} {o : Except Fault String}
    (h : c.Changes q deadline start l last finish o) : l.countP wasAccepted ≤ 1 := by
  obtain ⟨before, rfl, hbefore⟩ := h.row.eq_append
  have hnone : before.countP wasAccepted = 0 := by
    rw [List.countP_eq_zero]
    intro x hx
    simp [(hbefore x hx).1.wasAccepted_eq_false]
  have hlast : [last].countP wasAccepted ≤ 1 := List.countP_le_length
  rw [List.countP_append, hnone, Nat.zero_add]
  exact hlast

/-- **How the strand of a number has sent a change** from an instant on: its
dealings are the course of the change. Its outcome was put in the form of all
outcomes by a function. -/
structure Changed (c : Channel) (q : Request) (deadline : Deadline) (f : String → α) (i : Nat)
    (start : Instant) (s : Schedule σ Request (Except Fault Response) α)
    (last : Dealing Request (Except Fault Response)) (finish : Instant)
    (o : Except Fault String) : Prop where
  ended : s.strands[i]? = some (.ended finish (o.map f))
  course : c.Changes q deadline start (s.dealings i) last finish o
  once : (s.dealings i).countP wasAccepted ≤ 1
  timely : ∀ x ∈ (s.dealings i).tail, x.begun ≤ deadline.instant
  bounded : (s.dealings i).length ≤ deadline.remaining start ⌈/⌉ c.interval + 1

/-- **A change is sent again only after it was put off**: one that is about to
start, beside any other strands and at any point of what they do, ends, and has
then been sent so. -/
theorem change_is_resent_only_after_conflicts
    {server : Server σ Request (Except Fault Response)}
    {s : Schedule σ Request (Except Fault Response) α} {f : String → α} {i : Nat}
    (hinterval : 0 < c.interval)
    (hi : s.strands[i]? = some (.running t (f <$> c.submit q deadline)))
    (hlog : ∀ e ∈ s.log, e.strand ≠ i) :
    Inevitably server (fun s' => ∃ last finish o,
      c.Changed q deadline f i (max s.world.clock t) s' last finish o) s := by
  refine (inevitably_runsFrom hi hlog).mono ?_
  rintro s' ⟨finish, _, hended, hmapped⟩
  obtain ⟨o, hruns, rfl⟩ := runsFrom_map hmapped
  obtain ⟨last, hchanges⟩ := changes_of_runsFrom (.inl hinterval) hruns
  exact ⟨last, finish, o, hended, hchanges, hchanges.countP_wasAccepted_le,
    hchanges.row.begun_le, hchanges.row.length_le hinterval⟩

/-- A provider that puts changes off, one of them only twice. -/
def postponingScript : Script := [
  ((.post, "/a"), [.postpones 20, .postpones 20, .accepts "1" 20]),
  ((.post, "/b"), [.postpones 20])]

/-- Two changes, about to start. -/
def changing : Schedule Script Request (Except Fault Response) String :=
  Schedule.start { server := postponingScript } [
    id <$> plainClient.channel.submit { method := .post, path := "/a" } ⟨7000⟩,
    id <$> plainClient.channel.submit { method := .post, path := "/b" } ⟨7000⟩]

/-- The first is accepted when it is sent at the deadline; the second is put off
even then. -/
theorem change_is_resent_only_after_conflicts_changing :
    (∃ n last finish o, plainClient.channel.Changed { method := .post, path := "/a" } ⟨7000⟩ id 0 0
      (changing.advance Script.respond n) last finish o) ∧
    (∃ n last finish o, plainClient.channel.Changed { method := .post, path := "/b" } ⟨7000⟩ id 1 0
      (changing.advance Script.respond n) last finish o) ∧
    (List.range 2).map (fun i => ((changing.advance Script.respond 40).requests i).map (·.1)) =
      [[0, 5020, 7000], [0, 5020, 7000]] ∧
    (changing.advance Script.respond 40).outcomes = [(7020, .ok "1"),
      (7020, .error (.timeout (.conflicting .post "/b"
        ⟨Rejection.conflictCode, "Another change is in flight"⟩)))] := by
  have hinterval : 0 < plainClient.channel.interval := by decide
  have hlog : ∀ i, ∀ e ∈ changing.log, e.strand ≠ i := fun _ _ he => nomatch he
  refine ⟨?_, ?_, by decide +kernel, by decide +kernel⟩
  · exact (change_is_resent_only_after_conflicts (i := 0) (s := changing) hinterval rfl
      (hlog 0)).exists_advance
  · exact (change_is_resent_only_after_conflicts (i := 1) (s := changing) hinterval rfl
      (hlog 1)).exists_advance

/-! ## Reads -/

/-- A read got no answer: the connection failed. -/
def IsUnanswered (answer : Except Fault Response) : Prop :=
  ∃ failure, answer = .error (.connection failure)

/-- **The course of a read** from an instant on: the requests that were sent, the
last of them, and how it ended. -/
structure ReadsInTime (c : Channel) (path : String) (deadline : Deadline) (attempts : Nat)
    (start : Instant) (sent : List (Dealing Request (Except Fault Response)))
    (last : Dealing Request (Except Fault Response)) (finish : Instant)
    (o : Except Fault Response) : Prop where
  same : ∀ x ∈ sent, x.value.1 = .read path
  /-- All but the last got no answer before the deadline. -/
  row : InRow deadline c.interval (fun v => IsUnanswered v.2) start sent last
  bounded : sent.length ≤ attempts
  /-- It ends with the last try, and sleeps no more. -/
  finish_eq : finish = last.ended
  outcome : o = c.fetched path last.value.2
  /-- If even the last try got no answer, no other was allowed. -/
  exhausted : IsUnanswered last.value.2 → sent.length = attempts ∨ deadline.instant ≤ last.ended

/-- A try ends the read, or it got no answer before the deadline and the read goes
on. -/
theorem runsFrom_tryRead {again : String → Call Response} {o : Except Fault Response}
    (hr : RunsFrom (c.tryRead path deadline again) t l t' o) :
    ∃ answer t₁ rest, t ≤ t₁ ∧ l = ⟨(.read path, answer), t, t₁⟩ :: rest ∧
      ((rest = [] ∧ t' = t₁ ∧ o = c.fetched path answer ∧
        (IsUnanswered answer → deadline.instant ≤ t₁)) ∨
        ∃ failure, answer = .error (.connection failure) ∧ t₁ < deadline.instant ∧
          RunsFrom (again failure) t₁ rest t' o) := by
  rw [tryRead, bind_eq, runsFrom_ask_bind] at hr
  obtain ⟨answer, t₁, rest, hle, rfl, hr⟩ := hr
  refine ⟨answer, t₁, rest, hle, rfl, ?_⟩
  split at hr
  next r =>
    obtain ⟨rfl, rfl, rfl⟩ := runsFrom_done.1 hr
    refine .inl ⟨rfl, rfl, rfl, ?_⟩
    rintro ⟨_, ⟨⟩⟩
  next failure =>
    obtain ⟨hexpired, hr⟩ | ⟨hbefore, hr⟩ := runsFrom_unlessExpired.1 hr
    · obtain ⟨rfl, rfl, rfl⟩ := runsFrom_fail.1 hr
      exact .inl ⟨rfl, rfl, rfl, fun _ => hexpired⟩
    · exact .inr ⟨failure, rfl, hbefore, hr⟩
  next fault hne =>
    obtain ⟨rfl, rfl, rfl⟩ := runsFrom_fail.1 hr
    refine .inl ⟨rfl, rfl, ?_, ?_⟩
    · cases fault <;> first | rfl | exact absurd rfl (hne _)
    · rintro ⟨failure, ⟨⟩⟩
      exact absurd rfl (hne failure)

/-- **A read that ends with its first try.** -/
theorem readsInTime_last {answer : Except Fault Response} {attempts : Nat} (hle : t ≤ t')
    (hattempts : 1 ≤ attempts)
    (hexhausted : IsUnanswered answer → 1 = attempts ∨ deadline.instant ≤ t') :
    c.ReadsInTime path deadline attempts t [⟨(.read path, answer), t, t'⟩]
      ⟨(.read path, answer), t, t'⟩ t' (c.fetched path answer) where
  same x hx := by rw [List.mem_singleton.1 hx]
  row := .last (x := ⟨(Request.read path, answer), t, t'⟩) hle
  bounded := hattempts
  finish_eq := rfl
  outcome := rfl
  exhausted := hexhausted

/-- **A read runs its course**, with one try more than it may repeat. -/
theorem readsInTime_of_runsFrom_readAgain {retries : Nat} {o : Except Fault Response}
    (hr : RunsFrom (c.readAgain path deadline retries) t l t' o) :
    ∃ last, c.ReadsInTime path deadline (retries + 1) t l last t' o := by
  induction retries generalizing t l with
  | zero =>
    obtain ⟨answer, t₁, rest, hle, rfl, ⟨rfl, rfl, rfl, -⟩ | ⟨failure, rfl, -, hr⟩⟩ :=
      runsFrom_tryRead hr
    · exact ⟨_, readsInTime_last hle (Nat.le_refl 1) fun _ => .inl rfl⟩
    · obtain ⟨rfl, rfl, rfl⟩ := runsFrom_fail.1 hr
      exact ⟨_, readsInTime_last hle (Nat.le_refl 1) fun _ => .inl rfl⟩
  | succ retries ih =>
    obtain ⟨answer, t₁, rest, hle, rfl,
      ⟨rfl, rfl, rfl, hlate⟩ | ⟨failure, rfl, hbefore, hr⟩⟩ := runsFrom_tryRead hr
    · exact ⟨_, readsInTime_last hle (Nat.le_add_left 1 _) fun h => .inr (hlate h)⟩
    · rw [bind_eq, runsFrom_sleep_bind, Deadline.max_wake hbefore] at hr
      obtain ⟨last, hreads⟩ := ih hr
      let first : Dealing Request (Except Fault Response) :=
        ⟨(.read path, .error (.connection failure)), t, t₁⟩
      refine ⟨last, { hreads with same := ?_, row := ?_, bounded := ?_, exhausted := ?_ }⟩
      · exact List.forall_mem_cons.2 ⟨rfl, hreads.same⟩
      · exact .more (x := first) hle ⟨failure, rfl⟩ hbefore hreads.row
      · exact Nat.succ_le_succ hreads.bounded
      · intro hunanswered
        exact (hreads.exhausted hunanswered).imp (congrArg (· + 1)) id

theorem readsInTime_of_runsFrom {o : Except Fault Response}
    (hr : RunsFrom (c.fetch path deadline) t l t' o) :
    ∃ last, c.ReadsInTime path deadline c.attempts t l last t' o := by
  have hattempts : c.attempts - 1 + 1 = c.attempts := Nat.sub_add_cancel (Nat.le_max_left _ _)
  rw [← hattempts]
  exact readsInTime_of_runsFrom_readAgain hr

/-- **The calls that read a path**, and what each makes of the answer. -/
inductive Reading (c : Channel) (path : String) (deadline : Deadline) :
    (α : Type) → Call α → (Response → Except Fault α) → Prop where
  | fetch : Reading c path deadline Response (c.fetch path deadline) .ok
  | get {α : Type} [Document α] : Reading c path deadline α (c.get path deadline) c.document
  | getOptional {α : Type} [Document α] :
      Reading c path deadline (Option α) (c.getOptional path deadline) c.optionalDocument

/-- Each fetches the answer and looks at it. -/
theorem Reading.eq {call : Call α} {view : Response → Except Fault α}
    (h : c.Reading path deadline α call view) :
    call = (c.fetch path deadline).bind fun r => Workflow.ofExcept (view r) := by
  cases h with
  | fetch => exact (bind_done _).symm
  | get => exact get_eq
  | getOptional => exact getOptional_eq

/-- **How the strand of a number has read a path** from an instant on: its dealings
are the course of a read, and its outcome is what is made of the one of that. It
was put in the form of all outcomes by a function. -/
structure HasRead (c : Channel) (path : String) (deadline : Deadline)
    (view : Response → Except Fault β) (f : β → α) (i : Nat) (start : Instant)
    (s : Schedule σ Request (Except Fault Response) α)
    (last : Dealing Request (Except Fault Response)) (finish : Instant)
    (o : Except Fault Response) : Prop where
  ended : s.strands[i]? = some (.ended finish ((o >>= view).map f))
  course : c.ReadsInTime path deadline (max 1 c.cadence.attempts.toNat) start (s.dealings i) last
    finish o
  sent : 1 ≤ (s.dealings i).length

/-- **A read is sent again only for want of an answer**: a call that reads and is
about to start, beside any other strands and at any point of what they do, ends,
and has then read so. -/
theorem read_is_resent_only_unanswered {server : Server σ Request (Except Fault Response)}
    {s : Schedule σ Request (Except Fault Response) α} {call : Call β}
    {view : Response → Except Fault β} {f : β → α} {i : Nat}
    (hcall : c.Reading path deadline β call view)
    (hi : s.strands[i]? = some (.running t (f <$> call)))
    (hlog : ∀ e ∈ s.log, e.strand ≠ i) :
    Inevitably server (fun s' => ∃ last finish o,
      c.HasRead path deadline view f i (max s.world.clock t) s' last finish o) s := by
  refine (inevitably_runsFrom hi hlog).mono ?_
  rintro s' ⟨finish, _, hended, hmapped⟩
  obtain ⟨_, hruns, rfl⟩ := runsFrom_map hmapped
  rw [hcall.eq] at hruns
  obtain ⟨o, hfetch, rfl⟩ := runsFrom_bind_ofExcept hruns
  obtain ⟨last, hreads⟩ := readsInTime_of_runsFrom hfetch
  exact ⟨last, finish, o, hended, hreads, List.length_pos_of_ne_nil hreads.row.ne_nil⟩

/-- A provider that cannot be reached at first, or not at all. -/
def failingScript : Script := [
  ((.get, "/a"), [.fails 10, .fails 10, .refuses 404 10]),
  ((.get, "/b"), [.fails 10])]

/-- Two reads of a path that is reached at the third try, one of them with too
little time, and a read of one that is never reached. -/
def reading : Schedule Script Request (Except Fault Response) (Option Rejection) :=
  Schedule.start { server := failingScript } [
    id <$> plainClient.channel.getOptional "/a" ⟨60000⟩,
    some <$> plainClient.channel.get "/b" ⟨7000⟩,
    some <$> plainClient.channel.get "/b" ⟨60000⟩]

/-- The first read finds nothing there, the second gives up at its deadline, and
the third after five tries. -/
theorem read_is_resent_only_unanswered_reading :
    (∃ n last finish o, plainClient.channel.HasRead "/a" ⟨60000⟩
      plainClient.channel.optionalDocument id 0 0 (reading.advance Script.respond n) last finish o) ∧
    (∃ n last finish o, plainClient.channel.HasRead "/b" ⟨7000⟩
      plainClient.channel.document some 1 0 (reading.advance Script.respond n) last finish o) ∧
    (∃ n last finish o, plainClient.channel.HasRead "/b" ⟨60000⟩
      plainClient.channel.document some 2 0 (reading.advance Script.respond n) last finish o) ∧
    (List.range 3).map (fun i => ((reading.advance Script.respond 60).requests i).map (·.1)) =
      [[0, 5010, 10020], [0, 5010, 7000], [0, 5010, 10020, 15030, 20040]] ∧
    (reading.advance Script.respond 60).outcomes.map (·.1) = [10030, 7010, 20050] := by
  have hlog : ∀ i, ∀ e ∈ reading.log, e.strand ≠ i := fun _ _ he => nomatch he
  refine ⟨?_, ?_, ?_, by decide +kernel, by decide +kernel⟩
  · exact (read_is_resent_only_unanswered .getOptional (i := 0) (s := reading) rfl
      (hlog 0)).exists_advance
  · exact (read_is_resent_only_unanswered .get (i := 1) (s := reading) rfl
      (hlog 1)).exists_advance
  · exact (read_is_resent_only_unanswered .get (i := 2) (s := reading) rfl
      (hlog 2)).exists_advance

end Channel

end CloudOrchestration
