import CloudOrchestration.Workflow.Basic
import Mathlib.Data.List.Forall2
/-!
# Runs of a workflow

What a workflow does depends on how its effects are answered. A history
lists the effects that it performed and their answers, and `Runs` says which
histories a workflow has and how each of them ends. Nothing is assumed of the
answers, so what holds of all runs holds of a call under every provider, every
clock and every contention for the locks.

A run of a sequence is a run of its first part followed by one of the rest
(`runs_bind`); the constructs of workflows have a lemma of this kind each, and
the others read histories through these alone.
-/

namespace CloudOrchestration

/-- An effect that was performed, and its answer. -/
structure Exchange (Q R : Type) where
  effect : Effect Q R
  answer : effect.Answer

/-- What was performed, in order. -/
abbrev History (Q R : Type) := List (Exchange Q R)

namespace History

variable {Q R : Type}

/-- The request of an exchange, with its answer. -/
def asked? : Exchange Q R → Option (Q × R)
  | ⟨.ask q, r⟩ => some (q, r)
  | _ => none

/-- The requests that were sent, with their answers. -/
def asked (h : History Q R) : List (Q × R) := h.filterMap asked?

@[simp] theorem asked_nil : asked ([] : History Q R) = [] := rfl

@[simp] theorem asked_append (h₁ h₂ : History Q R) :
    asked (h₁ ++ h₂) = asked h₁ ++ asked h₂ := List.filterMap_append

@[simp] theorem asked_ask (q : Q) (r : R) (h : History Q R) :
    asked (⟨.ask q, r⟩ :: h) = (q, r) :: asked h := rfl

@[simp] theorem asked_now (t : Instant) (h : History Q R) : asked (⟨.now, t⟩ :: h) = asked h := rfl

@[simp] theorem asked_sleepUntil (t : Instant) (u : Unit) (h : History Q R) :
    asked (⟨.sleepUntil t, u⟩ :: h) = asked h := rfl

@[simp] theorem asked_acquire (d : Domain) (budget : Nat) (b : Bool) (h : History Q R) :
    asked (⟨.acquire d budget, b⟩ :: h) = asked h := rfl

@[simp] theorem asked_release (d : Domain) (u : Unit) (h : History Q R) :
    asked (⟨.release d, u⟩ :: h) = asked h := rfl

@[simp] theorem asked_track (account : String) (u : Unit) (h : History Q R) :
    asked (⟨.track account, u⟩ :: h) = asked h := rfl

@[simp] theorem asked_untrack (account : String) (u : Unit) (h : History Q R) :
    asked (⟨.untrack account, u⟩ :: h) = asked h := rfl

@[simp] theorem asked_draw (x : Draw) (h : History Q R) : asked (⟨.draw, x⟩ :: h) = asked h := rfl

end History

namespace Workflow

variable {Q R α β : Type}

/-- **A run of a workflow to its end**: what it performed, and how it
ended. -/
inductive Runs : Workflow Q R α → History Q R → Except Fault α → Prop where
  | done (a : α) : Runs (done a) [] (.ok a)
  | fail (fault : Fault) : Runs (fail fault) [] (.error fault)
  | perform {e : Effect Q R} {next : e.Answer → Workflow Q R α} {h : History Q R}
      {o : Except Fault α} (answer : e.Answer) (rest : Runs (next answer) h o) :
      Runs (perform e next) (⟨e, answer⟩ :: h) o

variable {h : History Q R} {o : Except Fault α}

@[simp] theorem runs_done {a : α} :
    Runs (done a : Workflow Q R α) h o ↔ h = [] ∧ o = .ok a := by
  constructor
  · rintro ⟨⟩; exact ⟨rfl, rfl⟩
  · rintro ⟨rfl, rfl⟩; exact .done a

@[simp] theorem runs_fail {fault : Fault} :
    Runs (fail fault : Workflow Q R α) h o ↔ h = [] ∧ o = .error fault := by
  constructor
  · rintro ⟨⟩; exact ⟨rfl, rfl⟩
  · rintro ⟨rfl, rfl⟩; exact .fail fault

theorem runs_perform {e : Effect Q R} {next : e.Answer → Workflow Q R α} :
    Runs (perform e next) h o ↔
      ∃ answer rest, h = ⟨e, answer⟩ :: rest ∧ Runs (next answer) rest o := by
  constructor
  · rintro ⟨⟩; exact ⟨_, _, rfl, ‹_›⟩
  · rintro ⟨answer, rest, rfl, hr⟩; exact .perform answer hr

/-- **A run of a sequence** is one of its first part and one of what that
part's value leads to, or it ends with the fault of the first part. -/
theorem runs_bind {w : Workflow Q R α} {f : α → Workflow Q R β} {o : Except Fault β} :
    Runs (w.bind f) h o ↔
      (∃ a h₁ h₂, h = h₁ ++ h₂ ∧ Runs w h₁ (.ok a) ∧ Runs (f a) h₂ o) ∨
        ∃ fault, o = .error fault ∧ Runs w h (.error fault) := by
  induction w generalizing h with
  | done a =>
    simp only [done_bind, runs_done]
    constructor
    · exact fun hr => .inl ⟨a, [], h, rfl, ⟨rfl, rfl⟩, hr⟩
    · rintro (⟨_, _, h₂, rfl, ⟨rfl, hx⟩, hr⟩ | ⟨_, _, _, hx⟩)
      · cases hx; exact hr
      · cases hx
  | fail fault =>
    simp only [fail_bind, runs_fail]
    constructor
    · rintro ⟨rfl, rfl⟩; exact .inr ⟨fault, rfl, rfl, rfl⟩
    · rintro (⟨a, _, _, _, ⟨_, hx⟩, _⟩ | ⟨fault', rfl, rfl, hx⟩)
      · cases hx
      · cases hx; exact ⟨rfl, rfl⟩
  | perform e next ih =>
    simp only [perform_bind, runs_perform, ih]
    constructor
    · rintro ⟨answer, rest, rfl, ⟨a, h₁, h₂, rfl, hw, hf⟩ | ⟨fault, rfl, hw⟩⟩
      · exact .inl ⟨a, _ :: h₁, h₂, rfl, ⟨answer, h₁, rfl, hw⟩, hf⟩
      · exact .inr ⟨fault, rfl, answer, rest, rfl, hw⟩
    · rintro (⟨a, _, h₂, rfl, ⟨answer, h₁, rfl, hw⟩, hf⟩ | ⟨fault, rfl, answer, rest, rfl, hw⟩)
      · exact ⟨answer, h₁ ++ h₂, rfl, .inl ⟨a, h₁, h₂, rfl, hw, hf⟩⟩
      · exact ⟨answer, rest, rfl, .inr ⟨fault, rfl, hw⟩⟩

theorem runs_bind_ok {w : Workflow Q R α} {f : α → Workflow Q R β} {b : β} :
    Runs (w.bind f) h (.ok b) ↔
      ∃ a h₁ h₂, h = h₁ ++ h₂ ∧ Runs w h₁ (.ok a) ∧ Runs (f a) h₂ (.ok b) := by
  rw [runs_bind]
  constructor
  · rintro (hr | ⟨_, hx, _⟩)
    · exact hr
    · cases hx
  · exact .inl

/-- What is made of the value of a workflow is not seen in its runs. -/
theorem runs_map {w : Workflow Q R α} {f : α → β} {o : Except Fault β}
    (hr : Runs (f <$> w) h o) : ∃ o', Runs w h o' ∧ o = o'.map f := by
  obtain ⟨a, h₁, h₂, rfl, hw, hr⟩ | ⟨fault, rfl, hw⟩ := runs_bind.1 hr
  · obtain ⟨rfl, rfl⟩ := runs_done.1 hr
    exact ⟨.ok a, by simpa using hw, rfl⟩
  · exact ⟨.error fault, hw, rfl⟩

@[simp] theorem runs_ofExcept {r : Except Fault α} :
    Runs (ofExcept r : Workflow Q R α) h o ↔ h = [] ∧ o = r := by
  cases r <;> simp [ofExcept]

theorem runs_ofExcept_bind {r : Except Fault α} {f : α → Workflow Q R β} {o : Except Fault β} :
    Runs ((ofExcept r).bind f) h o ↔
      (∃ a, r = .ok a ∧ Runs (f a) h o) ∨
        ∃ fault, r = .error fault ∧ h = [] ∧ o = .error fault := by
  cases r <;> simp [ofExcept]

/-- What is made of the value of a workflow, or a fault, is not seen in its runs. -/
theorem runs_bind_ofExcept {w : Workflow Q R α} {f : α → Except Fault β} {o : Except Fault β}
    (hr : Runs (w.bind fun a => ofExcept (f a)) h o) : ∃ o', Runs w h o' ∧ o = o' >>= f := by
  obtain ⟨a, h₁, h₂, rfl, hw, hr⟩ | ⟨fault, rfl, hw⟩ := runs_bind.1 hr
  · obtain ⟨rfl, rfl⟩ := runs_ofExcept.1 hr
    exact ⟨.ok a, by simpa using hw, rfl⟩
  · exact ⟨.error fault, hw, rfl⟩

/-- An attempt has the runs of what is attempted, and never fails. -/
@[simp] theorem runs_attempt {w : Workflow Q R α} {o : Except Fault (Except Fault α)} :
    Runs w.attempt h o ↔ ∃ r, o = .ok r ∧ Runs w h r := by
  induction w generalizing h with
  | done a =>
    simp only [attempt_done, runs_done]
    exact ⟨fun ⟨hh, ho⟩ => ⟨_, ho, hh, rfl⟩, fun ⟨_, ho, hh, hr⟩ => ⟨hh, hr ▸ ho⟩⟩
  | fail fault =>
    simp only [attempt_fail, runs_done, runs_fail]
    exact ⟨fun ⟨hh, ho⟩ => ⟨_, ho, hh, rfl⟩, fun ⟨_, ho, hh, hr⟩ => ⟨hh, hr ▸ ho⟩⟩
  | perform e next ih =>
    simp only [attempt_perform, runs_perform, ih]
    constructor
    · rintro ⟨answer, rest, rfl, r, rfl, hr⟩; exact ⟨r, rfl, answer, rest, rfl, hr⟩
    · rintro ⟨r, rfl, answer, rest, rfl, hr⟩; exact ⟨answer, rest, rfl, r, rfl, hr⟩

/-! ## The effects -/

theorem runs_effect {e : Effect Q R} {o : Except Fault e.Answer} :
    Runs (effect e) h o ↔ ∃ answer, h = [⟨e, answer⟩] ∧ o = .ok answer := by
  rw [effect, runs_perform]
  constructor
  · rintro ⟨answer, rest, rfl, hr⟩
    obtain ⟨rfl, rfl⟩ := runs_done.1 hr
    exact ⟨answer, rfl, rfl⟩
  · rintro ⟨answer, rfl, rfl⟩
    exact ⟨answer, [], rfl, .done answer⟩

theorem runs_now {o : Except Fault Instant} :
    Runs (now : Workflow Q R Instant) h o ↔ ∃ t, h = [⟨.now, t⟩] ∧ o = .ok t :=
  runs_effect

theorem runs_ask {q : Q} {o : Except Fault R} :
    Runs (ask q) h o ↔ ∃ r, h = [⟨.ask q, r⟩] ∧ o = .ok r :=
  runs_effect

theorem runs_sleepUntil {t : Instant} {o : Except Fault Unit} :
    Runs (sleepUntil t : Workflow Q R Unit) h o ↔ h = [⟨.sleepUntil t, ()⟩] ∧ o = .ok () :=
  runs_effect.trans ⟨fun ⟨(), hh⟩ => hh, fun hh => ⟨(), hh⟩⟩

theorem runs_draw {o : Except Fault Draw} :
    Runs (draw : Workflow Q R Draw) h o ↔ ∃ x, h = [⟨.draw, x⟩] ∧ o = .ok x :=
  runs_effect

/-- A sleep reads the clock once. -/
theorem runs_sleep {deadline : Deadline} {interval : Nat} {o : Except Fault Unit} :
    Runs (sleep deadline interval : Workflow Q R Unit) h o ↔
      ∃ t, h = [⟨.now, t⟩, ⟨.sleepUntil (deadline.wake t interval), ()⟩] ∧ o = .ok () := by
  simp only [sleep, bind_eq, runs_bind, runs_now, runs_sleepUntil]
  constructor
  · rintro (⟨t, _, _, rfl, ⟨_, rfl, hx⟩, rfl, rfl⟩ | ⟨_, _, _, _, hx⟩)
    · cases hx; exact ⟨t, rfl, rfl⟩
    · cases hx
  · rintro ⟨t, rfl, rfl⟩
    exact .inl ⟨t, [_], [_], rfl, ⟨t, rfl, rfl⟩, rfl, rfl⟩

/-! What is performed cannot fail, so a sequence that starts with it goes on
from its answer in every run. -/

theorem runs_effect_bind {e : Effect Q R} {f : e.Answer → Workflow Q R β} {o : Except Fault β} :
    Runs ((effect e).bind f) h o ↔
      ∃ answer rest, h = ⟨e, answer⟩ :: rest ∧ Runs (f answer) rest o := by
  simp only [effect, perform_bind, done_bind, runs_perform]

theorem runs_now_bind {f : Instant → Workflow Q R β} {o : Except Fault β} :
    Runs (now.bind f) h o ↔ ∃ t rest, h = ⟨.now, t⟩ :: rest ∧ Runs (f t) rest o :=
  runs_effect_bind

theorem runs_ask_bind {q : Q} {f : R → Workflow Q R β} {o : Except Fault β} :
    Runs ((ask q).bind f) h o ↔ ∃ r rest, h = ⟨.ask q, r⟩ :: rest ∧ Runs (f r) rest o :=
  runs_effect_bind

theorem runs_sleep_bind {deadline : Deadline} {interval : Nat} {f : Unit → Workflow Q R β}
    {o : Except Fault β} :
    Runs ((sleep deadline interval).bind f) h o ↔
      ∃ t rest, h = ⟨.now, t⟩ :: ⟨.sleepUntil (deadline.wake t interval), ()⟩ :: rest ∧
        Runs (f ()) rest o := by
  simp only [sleep, bind_eq, bind_assoc, runs_now_bind]
  constructor
  · rintro ⟨t, _, rfl, hr⟩
    obtain ⟨⟨⟩, rest, rfl, hrest⟩ := runs_effect_bind.1 hr
    exact ⟨t, rest, rfl, hrest⟩
  · rintro ⟨t, rest, rfl, hr⟩
    exact ⟨t, _, rfl, runs_effect_bind.2 ⟨(), rest, rfl, hr⟩⟩

/-- After an attempt a sequence goes on whatever the attempt ended with. -/
theorem runs_attempt_bind {w : Workflow Q R α} {f : Except Fault α → Workflow Q R β}
    {o : Except Fault β} :
    Runs (w.attempt.bind f) h o ↔
      ∃ r h₁ h₂, h = h₁ ++ h₂ ∧ Runs w h₁ r ∧ Runs (f r) h₂ o := by
  simp only [runs_bind, runs_attempt]
  constructor
  · rintro (⟨r, h₁, h₂, rfl, ⟨_, hx, hw⟩, hr⟩ | ⟨_, _, _, hx, _⟩)
    · cases hx; exact ⟨r, h₁, h₂, rfl, hw, hr⟩
    · cases hx
  · rintro ⟨r, h₁, h₂, rfl, hw, hr⟩
    exact .inl ⟨r, h₁, h₂, rfl, ⟨r, rfl, hw⟩, hr⟩

/-! ## Locks -/

theorem runs_acquire {d : Domain} {budget : Nat} {o : Except Fault Unit} :
    Runs (acquire d budget : Workflow Q R Unit) h o ↔
      (h = [⟨.acquire d budget, true⟩] ∧ o = .ok ()) ∨
        (h = [⟨.acquire d budget, false⟩] ∧ o = .error (.lockTimeout (.busy d budget))) := by
  simp only [acquire, bind_eq, effect, perform_bind, done_bind, runs_perform]
  constructor
  · rintro ⟨answer, rest, rfl, hr⟩
    cases answer <;> simp_all
  · rintro (⟨rfl, rfl⟩ | ⟨rfl, rfl⟩)
    · exact ⟨true, [], rfl, by simp⟩
    · exact ⟨false, [], rfl, by simp⟩

/-- **A lock that is obtained is given back**, however the body ends; a lock
that is not obtained ends the whole at once. -/
theorem runs_holding {d : Domain} {budget : Nat} {body : Workflow Q R α} :
    Runs (holding d budget body) h o ↔
      (∃ h', h = ⟨.acquire d budget, true⟩ :: h' ++ [⟨.release d, ()⟩] ∧ Runs body h' o) ∨
        (h = [⟨.acquire d budget, false⟩] ∧ o = .error (.lockTimeout (.busy d budget))) := by
  simp only [holding, bind_eq]
  rw [runs_bind]
  simp only [runs_acquire]
  constructor
  · rintro (⟨_, h₁, h₂, rfl, ⟨rfl, -⟩ | ⟨-, hx⟩, hr⟩ | ⟨fault, rfl, ⟨-, hx⟩ | ⟨rfl, hx⟩⟩)
    · obtain ⟨r, h', h₃, rfl, hbody, hr⟩ := runs_attempt_bind.1 hr
      obtain ⟨⟨⟩, rest, rfl, hend⟩ := runs_effect_bind.1 hr
      obtain ⟨rfl, rfl⟩ := runs_ofExcept.1 hend
      exact .inl ⟨h', by simp, hbody⟩
    · cases hx
    · cases hx
    · cases hx; exact .inr ⟨rfl, rfl⟩
  · rintro (⟨h', rfl, hr⟩ | ⟨rfl, rfl⟩)
    · refine .inl ⟨(), [_], h' ++ [_], rfl, .inl ⟨rfl, trivial⟩, ?_⟩
      refine runs_attempt_bind.2 ⟨o, h', [_], rfl, hr, ?_⟩
      exact runs_effect_bind.2 ⟨(), [], rfl, by simp⟩
    · exact .inr ⟨_, rfl, .inr ⟨rfl, rfl⟩⟩

/-- Going on regardless has the runs of what is gone on from. -/
theorem runs_regardless {w : Workflow Q R α} {o : Except Fault Unit} :
    Runs (regardless w) h o ↔ o = .ok () ∧ ∃ r, Runs w h r := by
  simp only [regardless, bind_eq, pure_eq, runs_bind, runs_attempt, runs_done]
  constructor
  · rintro (⟨r, h₁, _, rfl, ⟨_, hx, hr⟩, rfl, rfl⟩ | ⟨_, _, _, hx, _⟩)
    · exact ⟨rfl, _, by simpa using hr⟩
    · cases hx
  · rintro ⟨rfl, r, hr⟩
    exact .inl ⟨r, h, [], by simp, ⟨r, rfl, hr⟩, rfl, rfl⟩

/-! ## Loops -/

/-- **A run of a loop**: it goes through the elements in order, and ends with the
first that fails, or well after the last. -/
theorem runs_forM {l : List α} {f : α → Workflow Q R Unit} {o : Except Fault Unit}
    (hr : Runs (l.forM f) h o) :
    ∃ (earlier : List α) (hs : List (History Q R)),
      List.Forall₂ (fun a h => Runs (f a) h (.ok ())) earlier hs ∧
        ((l = earlier ∧ h = hs.flatten ∧ o = .ok ()) ∨
          ∃ (a : α) (later : List α) (last : History Q R) (fault : Fault),
            l = earlier ++ a :: later ∧ h = hs.flatten ++ last ∧ Runs (f a) last (.error fault) ∧
              o = .error fault) := by
  induction l generalizing h with
  | nil =>
    obtain ⟨rfl, rfl⟩ := runs_done.1 hr
    exact ⟨[], [], .nil, .inl ⟨rfl, rfl, rfl⟩⟩
  | cons a l ih =>
    obtain ⟨_, h₁, h₂, rfl, ha, hr⟩ | ⟨fault, rfl, ha⟩ := runs_bind.1 hr
    · obtain ⟨earlier, hs, hdone, hend⟩ := ih hr
      refine ⟨a :: earlier, h₁ :: hs, .cons ha hdone, ?_⟩
      obtain ⟨rfl, rfl, rfl⟩ | ⟨b, later, last, fault, rfl, rfl, hb, rfl⟩ := hend
      · exact .inl ⟨rfl, rfl, rfl⟩
      · exact .inr ⟨b, later, last, fault, rfl, by simp, hb, rfl⟩
    · exact ⟨[], [], .nil, .inr ⟨a, l, h, fault, rfl, rfl, ha, rfl⟩⟩

/-- **A loop whose steps are passed over when they fail** goes through them all. -/
theorem runs_forM_regardless {l : List α} {f : α → Workflow Q R β} {o : Except Fault Unit}
    (hr : Runs (l.forM fun a => regardless (f a)) h o) :
    o = .ok () ∧ ∃ hs : List (History Q R), h = hs.flatten ∧
      List.Forall₂ (fun a h => ∃ r, Runs (f a) h r) l hs := by
  obtain ⟨earlier, hs, hdone, ⟨rfl, rfl, rfl⟩ | ⟨a, later, last, fault, -, -, hfailed, -⟩⟩ :=
    runs_forM hr
  · exact ⟨rfl, hs, rfl, hdone.imp fun a h hr => (runs_regardless.1 hr).2⟩
  · cases (runs_regardless.1 hfailed).1

/-! ## Runs so far -/

/-- **A run that is still going on**: what was performed, and the workflow
that is left. -/
inductive Leads : Workflow Q R α → History Q R → Workflow Q R α → Prop where
  | start (w : Workflow Q R α) : Leads w [] w
  | perform {w : Workflow Q R α} {h : History Q R} {e : Effect Q R}
      {next : e.Answer → Workflow Q R α} (before : Leads w h (.perform e next))
      (answer : e.Answer) : Leads w (h ++ [⟨e, answer⟩]) (next answer)

/-- What is left runs to the end of the whole. -/
theorem Leads.runs {w rest : Workflow Q R α} {h₁ h₂ : History Q R} (hl : Leads w h₁ rest)
    (hr : Runs rest h₂ o) : Runs w (h₁ ++ h₂) o := by
  induction hl generalizing h₂ with
  | start => exact hr
  | perform _ answer ih => simpa using ih (.perform answer hr)

/-- Every workflow has a run, if requests can be answered. -/
theorem exists_runs [Inhabited R] (w : Workflow Q R α) : ∃ h o, Runs w h o := by
  induction w with
  | done a => exact ⟨_, _, .done a⟩
  | fail fault => exact ⟨_, _, .fail fault⟩
  | perform e next ih =>
    have answer : Nonempty e.Answer := by
      cases e
      case now => exact ⟨(0 : Nat)⟩
      case sleepUntil => exact ⟨()⟩
      case ask => exact ⟨(default : R)⟩
      case acquire => exact ⟨true⟩
      case release => exact ⟨()⟩
      case isLocked => exact ⟨true⟩
      case track => exact ⟨()⟩
      case untrack => exact ⟨()⟩
      case tracked => exact ⟨([] : List String)⟩
      case draw => exact ⟨(0 : Draw)⟩
    obtain ⟨answer⟩ := answer
    obtain ⟨h, o, hr⟩ := ih answer
    exact ⟨_, o, .perform answer hr⟩

end Workflow

end CloudOrchestration
