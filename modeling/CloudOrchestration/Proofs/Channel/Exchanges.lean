import CloudOrchestration.Channel.Basic
import CloudOrchestration.Proofs.Workflow.Sight
/-!
# The exchanges of a channel

A read or a change is tried a number of times, but its exchanges have a
simple form: tries that led to another one, and a last try, whose answer
alone says how the whole ends (`runs_fetch`, `runs_submit`). The answers that
lead to another try are known: no answer at all to a read, a conflict to a
change.
-/

namespace CloudOrchestration

/-- A request, and what came of it. -/
abbrev Asked := Request × Except Fault Response

namespace Channel

open Workflow

variable {α : Type} {c : Channel} {path : String} {deadline : Deadline}
variable {h : History Request (Except Fault Response)}

/-! ## Reading -/

/-- What a read makes of its last answer. -/
def fetched (c : Channel) (path : String) : Except Fault Response → Except Fault Response
  | .ok r => .ok r
  | .error (.connection failure) => .error (.timeout (.unanswered path c.attempts failure))
  | .error fault => .error fault

/-- Whatever comes of a read comes of an answer. -/
theorem fetched_bind_eq_ok {f : Response → Except Fault α} {answer : Except Fault Response}
    {a : α} (h : (c.fetched path answer >>= f) = .ok a) : ∃ r, answer = .ok r ∧ f r = .ok a := by
  cases answer with
  | ok r => exact ⟨r, rfl, h⟩
  | error fault => cases fault <;> cases h

/-- The document that an answer holds. -/
def document [Document α] (c : Channel) (r : Response) : Except Fault α :=
  match c.wire.judge r with
  | .success r => c.wire.read r.body
  | .conflict r | .fatal r => .error (.api r)

/-- The document that an answer holds, if the answer does not say that there
is none. -/
def optionalDocument [Document α] (c : Channel) (r : Response) : Except Fault (Option α) :=
  if r.status = 404 then .ok none
  else
    match c.wire.judge r with
    | .success r => some <$> (c.wire.read r.body : Except Fault α)
    | .conflict r => .error (.api r)
    | .fatal r => if r.isMissing then .ok none else .error (.api r)

/-- A document is seen in a success, and its absence in an answer that says
so. -/
theorem optionalDocument_eq_ok [Document α] {r : Response} {found : Option α}
    (h : c.optionalDocument r = .ok found) :
    (found = none ∧ (r.status = 404 ∨ r.isSuccess = false ∧ (c.wire.rejection r).isMissing)) ∨
      ∃ a, found = some a ∧ r.isSuccess ∧ c.wire.read r.body = .ok a := by
  unfold optionalDocument at h
  split at h
  next hstatus =>
    cases h
    exact .inl ⟨rfl, .inl hstatus⟩
  next =>
    cases hsuccess : r.isSuccess with
    | true =>
      simp only [Wire.judge_success hsuccess] at h
      cases hread : (c.wire.read r.body : Except Fault α) with
      | error fault => simp [hread, Functor.map, Except.map] at h
      | ok a =>
        simp only [hread, Functor.map, Except.map, Except.ok.injEq] at h
        exact .inr ⟨a, h.symm, rfl, rfl⟩
    | false =>
      rw [Wire.judge_failure hsuccess] at h
      cases hconflict : (c.wire.rejection r).isConflict with
      | true => simp [hconflict] at h
      | false =>
        simp only [hconflict, Bool.false_eq_true, if_false] at h
        split at h
        next hmissing =>
          cases h
          exact .inl ⟨rfl, .inr ⟨rfl, hmissing⟩⟩
        next => cases h

/-- **To read a document** is to fetch an answer, and to look at what it holds. -/
theorem get_eq [Document α] :
    (c.get path deadline : Call α) =
      (c.fetch path deadline).bind fun r => Workflow.ofExcept (c.document r) := by
  unfold get document
  rw [bind_eq]
  congr 1
  funext r
  cases c.wire.judge r <;> rfl

theorem getOptional_eq [Document α] :
    (c.getOptional path deadline : Call (Option α)) =
      (c.fetch path deadline).bind fun r => Workflow.ofExcept (c.optionalDocument r) := by
  unfold getOptional optionalDocument
  rw [bind_eq]
  congr 1
  funext r
  by_cases hstatus : r.status = 404
  · simp only [hstatus, if_true]
    rfl
  · simp only [hstatus, if_false]
    cases c.wire.judge r with
    | success r' =>
      simp only
      cases (c.wire.read r'.body : Except Fault α) <;> rfl
    | conflict rejection => rfl
    | fatal rejection =>
      simp only
      split <;> rfl

/-- **The exchanges of a read**: tries without an answer, and a last one. -/
def Reads (path : String) (asked : List Asked) (answer : Except Fault Response) : Prop :=
  ∃ failures : List String,
    asked = failures.map (fun failure => (.read path, .error (.connection failure))) ++
      [(.read path, answer)]

theorem Reads.again {asked : List Asked} {answer : Except Fault Response} (failure : String)
    (hr : Reads path asked answer) :
    Reads path ((.read path, .error (.connection failure)) :: asked) answer := by
  obtain ⟨failures, rfl⟩ := hr
  exact ⟨failure :: failures, rfl⟩

/-- The requests of a read are all the same. -/
theorem Reads.request_eq {asked : List Asked} {answer : Except Fault Response} {x : Asked}
    (hr : Reads path asked answer) (hx : x ∈ asked) : x.1 = .read path := by
  obtain ⟨failures, rfl⟩ := hr
  rcases List.mem_append.1 hx with hx | hx
  · obtain ⟨failure, -, rfl⟩ := List.mem_map.1 hx
    rfl
  · rw [List.mem_singleton.1 hx]

/-- A read that was answered at all got that answer in its last try. -/
theorem Reads.eq_answer {asked : List Asked} {answer : Except Fault Response} {q : Request}
    {r : Response} (hr : Reads path asked answer) (hx : (q, .ok r) ∈ asked) : answer = .ok r := by
  obtain ⟨failures, rfl⟩ := hr
  rcases List.mem_append.1 hx with hx | hx
  · simp at hx
  · simp only [List.mem_singleton, Prod.mk.injEq] at hx
    exact hx.2.symm

theorem Reads.mem {asked : List Asked} {answer : Except Fault Response}
    (hr : Reads path asked answer) : (.read path, answer) ∈ asked := by
  obtain ⟨failures, rfl⟩ := hr
  simp

/-- A try decides, or it got no answer and another may follow. -/
theorem runs_tryRead {again : String → Call Response} {o : Except Fault Response}
    (hr : Runs (c.tryRead path deadline again) h o) :
    (∃ answer, h.asked = [(.read path, answer)] ∧ o = c.fetched path answer) ∨
      ∃ failure h', h.asked = (.read path, .error (.connection failure)) :: h'.asked ∧
        Runs (again failure) h' o := by
  rw [tryRead, bind_eq, runs_ask_bind] at hr
  obtain ⟨answer, rest, rfl, hr⟩ := hr
  split at hr
  next r => exact .inl ⟨.ok r, by simp_all [fetched]⟩
  next failure =>
    rw [bind_eq, runs_now_bind] at hr
    obtain ⟨t, rest, rfl, hr⟩ := hr
    split at hr
    · obtain ⟨rfl, rfl⟩ := runs_fail.1 hr
      exact .inl ⟨_, rfl, rfl⟩
    · exact .inr ⟨failure, rest, by simp, hr⟩
  next fault hne =>
    obtain ⟨rfl, rfl⟩ := runs_fail.1 hr
    refine .inl ⟨.error fault, rfl, ?_⟩
    cases fault <;> first | rfl | exact absurd rfl (hne _)

theorem runs_readAgain {retries : Nat} {o : Except Fault Response}
    (hr : Runs (c.readAgain path deadline retries) h o) :
    ∃ answer, Reads path h.asked answer ∧ o = c.fetched path answer := by
  induction retries generalizing h with
  | zero =>
    obtain ⟨answer, hasked, ho⟩ | ⟨failure, h', hasked, hr⟩ := runs_tryRead hr
    · exact ⟨answer, ⟨[], hasked⟩, ho⟩
    · obtain ⟨rfl, rfl⟩ := runs_fail.1 hr
      exact ⟨_, ⟨[], hasked⟩, rfl⟩
  | succ retries ih =>
    obtain ⟨answer, hasked, ho⟩ | ⟨failure, h', hasked, hr⟩ := runs_tryRead hr
    · exact ⟨answer, ⟨[], hasked⟩, ho⟩
    · rw [bind_eq, runs_sleep_bind] at hr
      obtain ⟨t, rest, rfl, hr⟩ := hr
      obtain ⟨answer, hreads, ho⟩ := ih hr
      exact ⟨answer, by simpa [hasked] using hreads.again failure, ho⟩

/-- **A read is decided by its last answer.** -/
theorem runs_fetch {o : Except Fault Response} (hr : Runs (c.fetch path deadline) h o) :
    ∃ answer, Reads path h.asked answer ∧ o = c.fetched path answer :=
  runs_readAgain hr

theorem runs_get [Document α] {o : Except Fault α} (hr : Runs (c.get path deadline) h o) :
    ∃ answer, Reads path h.asked answer ∧ o = c.fetched path answer >>= c.document := by
  rw [get_eq] at hr
  obtain ⟨_, hfetch, rfl⟩ := runs_bind_ofExcept hr
  obtain ⟨answer, hreads, rfl⟩ := runs_fetch hfetch
  exact ⟨answer, hreads, rfl⟩

theorem runs_getOptional [Document α] {o : Except Fault (Option α)}
    (hr : Runs (c.getOptional path deadline) h o) :
    ∃ answer, Reads path h.asked answer ∧ o = c.fetched path answer >>= c.optionalDocument := by
  rw [getOptional_eq] at hr
  obtain ⟨_, hfetch, rfl⟩ := runs_bind_ofExcept hr
  obtain ⟨answer, hreads, rfl⟩ := runs_fetch hfetch
  exact ⟨answer, hreads, rfl⟩

/-- **What a read ends with** is what its last answer shows. -/
theorem reads_of_runs_get [Document α] {a : α} (hr : Runs (c.get path deadline) h (.ok a)) :
    ∃ r, Reads path h.asked (.ok r) ∧ c.document r = .ok a := by
  obtain ⟨answer, hreads, ho⟩ := runs_get hr
  obtain ⟨r, rfl, hdocument⟩ := fetched_bind_eq_ok ho.symm
  exact ⟨r, hreads, hdocument⟩

theorem reads_of_runs_getOptional [Document α] {found : Option α}
    (hr : Runs (c.getOptional path deadline) h (.ok found)) :
    ∃ r, Reads path h.asked (.ok r) ∧ c.optionalDocument r = .ok found := by
  obtain ⟨answer, hreads, ho⟩ := runs_getOptional hr
  obtain ⟨r, rfl, hdocument⟩ := fetched_bind_eq_ok ho.symm
  exact ⟨r, hreads, hdocument⟩

/-- What begins with a read sends it. -/
theorem asked_of_runs_get_bind {β : Type} [Document α] {f : α → Call β} {o : Except Fault β}
    (hr : Runs (c.get path deadline >>= f) h o) : ∃ answer, (.read path, answer) ∈ h.asked := by
  obtain ⟨_, h₁, h₂, rfl, hget, -⟩ | ⟨_, -, hget⟩ := runs_bind.1 hr
  · obtain ⟨answer, hreads, -⟩ := runs_get hget
    exact ⟨answer, by simp [hreads.mem]⟩
  · obtain ⟨answer, hreads, -⟩ := runs_get hget
    exact ⟨answer, hreads.mem⟩

/-- **What a read ends with was shown** in one of its exchanges. -/
theorem shown_of_runs_get [Document α] {a : α} (hr : Runs (c.get path deadline) h (.ok a)) :
    ∃ r, (.read path, .ok r) ∈ h.asked ∧ c.document r = .ok a := by
  obtain ⟨r, hreads, hdocument⟩ := reads_of_runs_get hr
  exact ⟨r, hreads.mem, hdocument⟩

theorem shown_of_runs_getOptional [Document α] {found : Option α}
    (hr : Runs (c.getOptional path deadline) h (.ok found)) :
    ∃ r, (.read path, .ok r) ∈ h.asked ∧ c.optionalDocument r = .ok found := by
  obtain ⟨r, hreads, hdocument⟩ := reads_of_runs_getOptional hr
  exact ⟨r, hreads.mem, hdocument⟩

/-! ## Changing -/

/-- What a change makes of its last answer. -/
def submitted (c : Channel) (q : Request) : Except Fault Response → Except Fault String
  | .error fault => .error fault
  | .ok r =>
    match c.wire.judge r with
    | .success r =>
      match r.requestId with
      | some id => .ok id
      | none => .error (.protocol (.noRequestId q.method q.path))
    | .conflict r => .error (.timeout (.conflicting q.method q.path r))
    | .fatal r => .error (.api r)

/-- **The exchanges of a change**: tries that met a conflict, and a last
one. -/
def Submits (c : Channel) (q : Request) (asked : List Asked) (answer : Except Fault Response) :
    Prop :=
  ∃ conflicts : List Response,
    (∀ r ∈ conflicts, ∃ rejection, c.wire.judge r = .conflict rejection) ∧
    asked = conflicts.map (fun r => (q, .ok r)) ++ [(q, answer)]

variable {q : Request}

theorem Submits.again {asked : List Asked} {answer : Except Fault Response} {r : Response}
    {rejection : Rejection} (hj : c.wire.judge r = .conflict rejection)
    (hs : c.Submits q asked answer) : c.Submits q ((q, .ok r) :: asked) answer := by
  obtain ⟨conflicts, hall, rfl⟩ := hs
  refine ⟨r :: conflicts, ?_, rfl⟩
  intro r' hr'
  rcases List.mem_cons.1 hr' with rfl | hr'
  · exact ⟨rejection, hj⟩
  · exact hall r' hr'

theorem Submits.mem {asked : List Asked} {answer : Except Fault Response}
    (hs : c.Submits q asked answer) : (q, answer) ∈ asked := by
  obtain ⟨conflicts, -, rfl⟩ := hs
  simp

/-- Every try of a change sends the same request. -/
theorem Submits.request_eq {asked : List Asked} {answer : Except Fault Response} {x : Asked}
    (hs : c.Submits q asked answer) (hx : x ∈ asked) : x.1 = q := by
  obtain ⟨conflicts, -, rfl⟩ := hs
  rcases List.mem_append.1 hx with hx | hx
  · obtain ⟨r, -, rfl⟩ := List.mem_map.1 hx
    rfl
  · rw [List.mem_singleton.1 hx]

/-- An answer that is no conflict is that of the last try. -/
theorem Submits.eq_answer {asked : List Asked} {answer : Except Fault Response} {r : Response}
    (hs : c.Submits q asked answer) (hx : (q, .ok r) ∈ asked)
    (hj : ∀ rejection, c.wire.judge r ≠ .conflict rejection) : answer = .ok r := by
  obtain ⟨conflicts, hall, rfl⟩ := hs
  rcases List.mem_append.1 hx with hx | hx
  · obtain ⟨r', hr', hx⟩ := List.mem_map.1 hx
    cases hx
    obtain ⟨rejection, hj'⟩ := hall r hr'
    exact absurd hj' (hj rejection)
  · cases List.mem_singleton.1 hx
    rfl

/-- A try decides, or it met a conflict and another may follow. -/
theorem runs_trySubmit {again : Rejection → Call String} {o : Except Fault String}
    (hr : Runs (c.trySubmit q deadline again) h o) :
    (∃ answer, h.asked = [(q, answer)] ∧ o = c.submitted q answer) ∨
      ∃ r rejection h', c.wire.judge r = .conflict rejection ∧
        h.asked = (q, .ok r) :: h'.asked ∧ Runs (again rejection) h' o := by
  rw [trySubmit, bind_eq, runs_ask_bind] at hr
  obtain ⟨answer, rest, rfl, hr⟩ := hr
  rw [bind_eq, runs_ofExcept_bind] at hr
  obtain ⟨r, rfl, hr⟩ | ⟨fault, rfl, rfl, rfl⟩ := hr
  · split at hr <;> rename_i r' hj
    · split at hr <;> rename_i hid
      · obtain ⟨rfl, rfl⟩ := runs_done.1 hr
        exact .inl ⟨.ok r, rfl, by simp [submitted, hj, hid]⟩
      · obtain ⟨rfl, rfl⟩ := runs_fail.1 hr
        exact .inl ⟨.ok r, rfl, by simp [submitted, hj, hid]⟩
    · rw [bind_eq, runs_now_bind] at hr
      obtain ⟨t, rest, rfl, hr⟩ := hr
      split at hr
      · obtain ⟨rfl, rfl⟩ := runs_fail.1 hr
        exact .inl ⟨.ok r, rfl, by simp [submitted, hj]⟩
      · exact .inr ⟨r, r', rest, hj, by simp, hr⟩
    · obtain ⟨rfl, rfl⟩ := runs_fail.1 hr
      exact .inl ⟨.ok r, rfl, by simp [submitted, hj]⟩
  · exact .inl ⟨.error fault, rfl, rfl⟩

theorem runs_submitAgain {retries : Nat} {o : Except Fault String}
    (hr : Runs (c.submitAgain q deadline retries) h o) :
    ∃ answer, c.Submits q h.asked answer ∧ o = c.submitted q answer := by
  induction retries generalizing h with
  | zero =>
    obtain ⟨answer, hasked, ho⟩ | ⟨r, rejection, h', hj, hasked, hr⟩ := runs_trySubmit hr
    · exact ⟨answer, ⟨[], by simp, hasked⟩, ho⟩
    · obtain ⟨rfl, rfl⟩ := runs_fail.1 hr
      exact ⟨.ok r, ⟨[], by simp, hasked⟩, by simp [submitted, hj]⟩
  | succ retries ih =>
    obtain ⟨answer, hasked, ho⟩ | ⟨r, rejection, h', hj, hasked, hr⟩ := runs_trySubmit hr
    · exact ⟨answer, ⟨[], by simp, hasked⟩, ho⟩
    · rw [bind_eq, runs_sleep_bind] at hr
      obtain ⟨t, rest, rfl, hr⟩ := hr
      obtain ⟨answer, hsubmits, ho⟩ := ih hr
      exact ⟨answer, by simpa [hasked] using hsubmits.again hj, ho⟩

/-- **A change is decided by its last answer.** -/
theorem runs_submit {o : Except Fault String} (hr : Runs (c.submit q deadline) h o) :
    ∃ answer, c.Submits q h.asked answer ∧ o = c.submitted q answer := by
  rw [submit, bind_eq, runs_now_bind] at hr
  obtain ⟨t, rest, rfl, hr⟩ := hr
  simpa using runs_submitAgain hr

/-- A change that starts an operation was accepted. -/
theorem submitted_eq_ok {answer : Except Fault Response} {id : String} :
    c.submitted q answer = .ok id ↔
      ∃ r, answer = .ok r ∧ r.isSuccess ∧ r.requestId = some id := by
  unfold submitted
  cases answer with
  | error fault => simp
  | ok r =>
    simp only [Except.ok.injEq, exists_eq_left']
    cases hsuccess : r.isSuccess with
    | true =>
      rw [Wire.judge_success hsuccess]
      cases hid : r.requestId <;> simp [hid]
    | false =>
      rw [Wire.judge_failure hsuccess]
      cases (c.wire.rejection r).isConflict <;> simp

end Channel

end CloudOrchestration
