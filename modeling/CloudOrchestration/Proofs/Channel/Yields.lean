import CloudOrchestration.Proofs.Channel.Operations
import CloudOrchestration.Proofs.Schedule.Solo
/-!
# What a call comes to

With nobody else around, and a provider that answers every request at its first
try, a call comes to a value and leaves a world, and the number of changes that
it asked for is known (`Yields`). The rule of sequences adds these numbers up.
What a call comes to is what its schedule ends with (`Yields.run`).
-/

namespace CloudOrchestration

open Workflow

variable {σ α β : Type} {server : Server σ Request (Except Fault Response)}
variable {w w' w'' : World σ} {m n : Nat} {a : α} {b : β}

/-- **A call comes to a value**, from a world to a world, and asks for so many
changes on the way. -/
def Yields (server : Server σ Request (Except Fault Response)) (w : World σ) (call : Call α)
    (changes : Nat) (a : α) (w' : World σ) : Prop :=
  ∃ h, Runs call h (.ok a) ∧ h.Plays server w w' ∧ h.asked.countP (·.1.isMutating) = changes

theorem yields_done (a : α) : Yields server w (done a) 0 a w := ⟨[], .done a, .nil w, rfl⟩

/-- **A sequence comes to what its parts come to.** -/
theorem Yields.bind {call : Call α} {f : α → Call β} (hcall : Yields server w call m a w')
    (hf : Yields server w' (f a) n b w'') : Yields server w (call.bind f) (m + n) b w'' := by
  obtain ⟨h₁, hr₁, hplays₁, rfl⟩ := hcall
  obtain ⟨h₂, hr₂, hplays₂, rfl⟩ := hf
  refine ⟨h₁ ++ h₂, runs_bind_ok.2 ⟨a, h₁, h₂, rfl, hr₁, hr₂⟩, hplays₁.append hplays₂, ?_⟩
  rw [History.asked_append, List.countP_append]

/-- What follows a part that asks for no change. -/
theorem Yields.look_bind {look : Call α} {f : α → Call β} (hlook : Yields server w look 0 a w')
    (hf : Yields server w' (f a) n b w'') : Yields server w (look.bind f) n b w'' := by
  simpa using hlook.bind hf

/-- A part that asks for no change, after one that may. -/
theorem Yields.bind_look {call : Call α} {f : α → Call β} (hcall : Yields server w call n a w')
    (hf : Yields server w' (f a) 0 b w'') : Yields server w (call.bind f) n b w'' :=
  hcall.bind hf

theorem yields_effect {e : Effect Request (Except Fault Response)} {answer : e.Answer}
    (hserved : e.Served server w answer w') (hquiet : History.asked [⟨e, answer⟩] = []) :
    Yields server w (effect e) 0 answer w' :=
  ⟨[⟨e, answer⟩], .perform answer (.done answer), .single hserved, by rw [hquiet]; rfl⟩

theorem yields_ask (q : Request) :
    Yields server w (ask q) q.isMutating.toNat (server w.server q).answer (w.asking server q) :=
  ⟨_, .perform _ (.done _), .single (.asked q), by cases h : q.isMutating <;> simp [h]⟩

/-- **The schedule of a call** ends with what it comes to. -/
theorem Yields.run {call : Call α} (h : Yields server w call n a w') :
    ((Schedule.start w [call]).run server).world = w' ∧
      ((Schedule.start w [call]).run server).outcomes = [(w'.clock, .ok a)] ∧
      (((Schedule.start w [call]).run server).requests 0).countP (·.2.isMutating) = n := by
  obtain ⟨h, hr, hplays, rfl⟩ := h
  obtain ⟨hworld, hend, hasked⟩ := Schedule.run_start_of_plays hr hplays
  refine ⟨hworld, hend, ?_⟩
  have hmap := congrArg (List.countP Request.isMutating) hasked
  rwa [List.countP_map, List.countP_map] at hmap

/-- A wait whose first look shows that all is ready. -/
theorem yields_awaitState {deadline : Deadline} {interval : Nat} {what : String} {look : Call α}
    {judge : α → Readiness β} (hlook : Yields server w look n a w')
    (hjudge : judge a = .ready b) :
    Yields server w (awaitState deadline interval what look judge) n b w' := by
  have honce : ∀ again, Yields server w (lookOnce deadline what look judge again) n b w' := by
    intro again
    refine hlook.bind_look ?_
    simp only [hjudge]
    exact yields_done b
  refine (yields_effect .now rfl).look_bind ?_
  cases deadline.waitsLeft w.clock interval <;> exact honce _

/-! ## What the provider says -/

namespace Wire

/-- **The provider shows a document**, of which something is so, to who reads a
path. -/
def Shows [Document α] (wire : Wire) (server : Server σ Request (Except Fault Response)) (s : σ)
    (path : String) (p : α → Prop) : Prop :=
  ∃ r a, (server s (.read path)).answer = .ok r ∧ r.isSuccess ∧ wire.read r.body = .ok a ∧ p a

/-- **The provider has nothing at a path**: it says so by its status, or by the
code of its rejection. -/
def Lacks (wire : Wire) (server : Server σ Request (Except Fault Response)) (s : σ)
    (path : String) : Prop :=
  ∃ r, (server s (.read path)).answer = .ok r ∧
    (r.status = 404 ∨ r.isSuccess = false ∧
      ∃ rejection : Rejection, wire.read r.body = .ok rejection ∧ rejection.isMissing)

/-- **The provider accepts a change and carries it out at once**: when asked
next, it reports that the operation has succeeded. -/
def Accepts (wire : Wire) (server : Server σ Request (Except Fault Response)) (s : σ)
    (q : Request) : Prop :=
  ∃ r id, (server s q).answer = .ok r ∧ r.isSuccess ∧ r.requestId = some id ∧
    wire.Shows server (server s q).server (Channel.operationPath id)
      fun report : OperationReport => report.state = .succeeded

end Wire

namespace Channel

variable {c : Channel} {deadline : Deadline} {path id : String} {q : Request} {r : Response}

/-! ## Reading -/

theorem yields_fetch (hanswer : (server w.server (.read path)).answer = .ok r) :
    Yields server w (c.fetch path deadline) 0 r (w.asking server (.read path)) := by
  have htry : ∀ again, Yields server w (c.tryRead path deadline again) 0 r
      (w.asking server (.read path)) := by
    intro again
    refine (yields_ask _).look_bind ?_
    rw [hanswer]
    exact yields_done r
  unfold fetch
  cases c.attempts - 1 <;> exact htry _

/-- **A document is read.** -/
theorem yields_get [Document α] (hanswer : (server w.server (.read path)).answer = .ok r)
    (hdocument : c.document r = .ok a) :
    Yields server w (c.get path deadline) 0 a (w.asking server (.read path)) := by
  refine (yields_fetch hanswer).look_bind ?_
  unfold document at hdocument
  cases hj : c.wire.judge r with
  | success r' =>
    simp only [hj] at hdocument ⊢
    rw [hdocument]
    exact yields_done a
  | conflict rejection | fatal rejection => simp [hj] at hdocument

theorem exists_yields_get [Document α] {p : α → Prop} (h : c.wire.Shows server w.server path p) :
    ∃ a, p a ∧ Yields server w (c.get path deadline) 0 a (w.asking server (.read path)) := by
  obtain ⟨r, a, hanswer, hsuccess, hread, hp⟩ := h
  exact ⟨a, hp, yields_get hanswer (by simp [document, Wire.judge_success hsuccess, hread])⟩

theorem yields_getOptional [Document α] {found : Option α}
    (hanswer : (server w.server (.read path)).answer = .ok r)
    (hdocument : c.optionalDocument r = .ok found) :
    Yields server w (c.getOptional path deadline) 0 found (w.asking server (.read path)) := by
  refine (yields_fetch hanswer).look_bind ?_
  unfold optionalDocument at hdocument
  split at hdocument
  next hstatus =>
    cases hdocument
    rw [if_pos hstatus]
    exact yields_done none
  next hstatus =>
    rw [if_neg hstatus]
    cases hj : c.wire.judge r with
    | success r' =>
      simp only [hj] at hdocument ⊢
      cases hread : (c.wire.read r'.body : Except Fault α) with
      | error fault => simp [hread, Functor.map, Except.map] at hdocument
      | ok a =>
        simp only [hread, Functor.map, Except.map, Except.ok.injEq] at hdocument
        subst hdocument
        exact yields_done (some a)
    | conflict rejection => simp [hj] at hdocument
    | fatal rejection =>
      simp only [hj] at hdocument ⊢
      split at hdocument
      next hmissing =>
        cases hdocument
        rw [if_pos hmissing]
        exact yields_done none
      next => cases hdocument

/-- **A document is seen to be there.** -/
theorem exists_yields_getOptional [Document α] {p : α → Prop}
    (h : c.wire.Shows server w.server path p) :
    ∃ a, p a ∧
      Yields server w (c.getOptional path deadline) 0 (some a) (w.asking server (.read path)) := by
  obtain ⟨r, a, hanswer, hsuccess, hread, hp⟩ := h
  have hstatus : r.status ≠ 404 := by
    intro hstatus
    simp [Response.isSuccess, hstatus] at hsuccess
  have hdocument : c.optionalDocument r = .ok (some a) := by
    rw [optionalDocument, if_neg hstatus]
    simp only [Wire.judge_success hsuccess, hread]
    rfl
  exact ⟨a, hp, yields_getOptional hanswer hdocument⟩

/-- **A document is seen to be absent.** -/
theorem yields_getOptional_none [Document α] (h : c.wire.Lacks server w.server path) :
    Yields server w (c.getOptional path deadline : Call (Option α)) 0 none
      (w.asking server (.read path)) := by
  obtain ⟨r, hanswer, habsent⟩ := h
  refine yields_getOptional hanswer ?_
  unfold optionalDocument
  split
  · rfl
  next hstatus =>
    obtain ⟨hfails, rejection, hread, hmissing⟩ := habsent.resolve_left hstatus
    have hrejection : c.wire.rejection r = rejection := by simp [Wire.rejection, hread]
    have hcode : rejection.code = Rejection.missingCode := by
      simpa [Rejection.isMissing] using hmissing
    have hconflict : rejection.isConflict = false := by
      rw [Rejection.isConflict, hcode]
      decide
    simp [Wire.judge_failure hfails, hrejection, hconflict, hmissing]

/-! ## Changing -/

/-- **A change is accepted.** -/
theorem yields_submit (hanswer : (server w.server q).answer = .ok r) (hsuccess : r.isSuccess)
    (hid : r.requestId = some id) :
    Yields server w (c.submit q deadline) q.isMutating.toNat id (w.asking server q) := by
  have htry : ∀ again, Yields server w (c.trySubmit q deadline again) q.isMutating.toNat id
      (w.asking server q) := by
    intro again
    refine (yields_ask _).bind_look ?_
    rw [hanswer]
    refine (yields_done r).look_bind ?_
    simp only [Wire.judge_success hsuccess, hid]
    exact yields_done id
  refine (yields_effect .now rfl).look_bind ?_
  cases deadline.waitsLeft w.clock c.interval <;> exact htry _

theorem yields_awaitOperation
    (h : c.wire.Shows server w.server (operationPath id)
      fun report : OperationReport => report.state = .succeeded) :
    Yields server w (c.awaitOperation id deadline) 0 ()
      (w.asking server (.read (operationPath id))) := by
  obtain ⟨report, hstate, hget⟩ := exists_yields_get h
  have hend : operationEnd report = .ready (.ok ()) := by
    simp [operationEnd, OperationReport.outcome?, hstate]
  exact (yields_awaitState hget hend).look_bind (yields_done ())

/-- **A change is made.** -/
theorem exists_yields_submit_await (h : c.wire.Accepts server w.server q) :
    ∃ id, Yields server w ((c.submit q deadline).bind fun id => c.awaitOperation id deadline)
      q.isMutating.toNat () ((w.asking server q).asking server (.read (operationPath id))) := by
  obtain ⟨r, id, hanswer, hsuccess, hid, hshows⟩ := h
  exact ⟨id, (yields_submit hanswer hsuccess hid).bind_look (yields_awaitOperation hshows)⟩

theorem exists_yields_create [Document α] {body : ByteArray} (hbody : c.wire.write a = .ok body)
    (h : c.wire.Accepts server w.server
      { method := .post, path, body := some body, contentType := c.wire.contentType }) :
    ∃ id, Yields server w (c.create path a deadline) 1 ()
      ((w.asking server
        { method := .post, path, body := some body, contentType := c.wire.contentType }).asking
          server (.read (operationPath id))) := by
  obtain ⟨id, hyields⟩ := exists_yields_submit_await h
  simp only [create, post, hbody]
  exact ⟨id, hyields⟩

theorem exists_yields_remove (h : c.wire.Accepts server w.server { method := .delete, path }) :
    ∃ id, Yields server w (c.remove path deadline) 1 ()
      ((w.asking server { method := .delete, path }).asking server
        (.read (operationPath id))) := exists_yields_submit_await h

end Channel

end CloudOrchestration
