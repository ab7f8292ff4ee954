import CloudOrchestration.Proofs.Workflow.Run
import CloudOrchestration.Workflow.Polling
/-!
# Runs of a wait

A wait looks, and looks again while what it sees is pending. So a run of it
is a row of looks that saw something pending and one look more, and the last
look alone says how the wait ends: `runs_awaitState`. How often it looks, and
when, is a matter of the clock and of no concern here.
-/

namespace CloudOrchestration

namespace Workflow

variable {Q R α β : Type}
variable {deadline : Deadline} {interval : Nat} {what : String} {look : Workflow Q R α}
variable {judge : α → Readiness β} {h : History Q R} {o : Except Fault β}

/-- What a wait makes of its last look. -/
def lastLook (what : String) (judge : α → Readiness β) : Except Fault α → Except Fault β
  | .error fault => .error fault
  | .ok a =>
    match judge a with
    | .ready b => .ok b
    | .stuck reason => .error (.invalidState (.stuck what reason))
    | .pending state => .error (.timeout (.waiting what state))

/-- A wait that ends well has seen in its last look what it waited for. -/
theorem lastLook_eq_ok {r : Except Fault α} {b : β} (ho : .ok b = lastLook what judge r) :
    ∃ a, r = .ok a ∧ judge a = .ready b := by
  cases r with
  | error fault => cases ho
  | ok a =>
    cases hj : judge a <;> simp only [lastLook, hj] at ho <;> cases ho
    exact ⟨a, rfl, hj⟩

/-- A look whose resource is not there yet. -/
def LooksPending (look : Workflow Q R α) (judge : α → Readiness β) (h : History Q R) : Prop :=
  ∃ a state, Runs look h (.ok a) ∧ judge a = .pending state

/-- **The course of a wait**: the requests of looks that saw something
pending, then those of the last look, which decides. -/
def Waits (what : String) (look : Workflow Q R α) (judge : α → Readiness β)
    (asked : List (Q × R)) (o : Except Fault β) : Prop :=
  ∃ (looks : List (History Q R)) (last : History Q R) (r : Except Fault α),
    (∀ l ∈ looks, LooksPending look judge l) ∧ Runs look last r ∧
    asked = looks.flatMap History.asked ++ last.asked ∧ o = lastLook what judge r

theorem waits_last {r : Except Fault α} (hr : Runs look h r)
    (ho : o = lastLook what judge r) : Waits what look judge h.asked o :=
  ⟨[], h, r, by simp, hr, by simp, ho⟩

theorem Waits.cons {l : History Q R} {asked : List (Q × R)} (hl : LooksPending look judge l)
    (hw : Waits what look judge asked o) : Waits what look judge (l.asked ++ asked) o := by
  obtain ⟨looks, last, r, hlooks, hr, rfl, ho⟩ := hw
  refine ⟨l :: looks, last, r, ?_, hr, by simp, ho⟩
  intro l' hl'
  rcases List.mem_cons.1 hl' with rfl | hl'
  · exact hl
  · exact hlooks l' hl'

/-- A look ends the wait, or it saw something pending before the deadline and
the wait goes on. -/
theorem runs_lookOnce {again : String → Workflow Q R β}
    (hr : Runs (lookOnce deadline what look judge again) h o) :
    Waits what look judge h.asked o ∨
      ∃ l h' a state, Runs look l (.ok a) ∧ judge a = .pending state ∧
        h.asked = l.asked ++ h'.asked ∧ Runs (again state) h' o := by
  rw [lookOnce, bind_eq, runs_bind] at hr
  obtain ⟨a, l, h₂, rfl, hlook, hr⟩ | ⟨fault, rfl, hlook⟩ := hr
  · cases hj : judge a with
    | ready b =>
      simp only [hj, pure_eq, runs_done] at hr
      obtain ⟨rfl, rfl⟩ := hr
      exact .inl (by simpa using waits_last hlook (by simp [lastLook, hj]))
    | stuck reason =>
      simp only [hj, runs_fail] at hr
      obtain ⟨rfl, rfl⟩ := hr
      exact .inl (by simpa using waits_last hlook (by simp [lastLook, hj]))
    | pending state =>
      simp only [hj, bind_eq, runs_now_bind] at hr
      obtain ⟨t, h₃, rfl, hr⟩ := hr
      split at hr
      · simp only [overdue, runs_fail] at hr
        obtain ⟨rfl, rfl⟩ := hr
        exact .inl (by simpa using waits_last hlook (by simp [lastLook, hj]))
      · exact .inr ⟨l, h₃, a, state, hlook, hj, by simp, hr⟩
  · exact .inl (waits_last hlook rfl)

theorem runs_poll {sleeps : Nat}
    (hr : Runs (poll deadline interval what look judge sleeps) h o) :
    Waits what look judge h.asked o := by
  induction sleeps generalizing h with
  | zero =>
    obtain hw | ⟨l, h', a, state, hl, hj, hasked, hr⟩ := runs_lookOnce hr
    · exact hw
    · obtain ⟨rfl, rfl⟩ := runs_fail.1 hr
      rw [hasked]
      simpa using waits_last hl (by simp [lastLook, hj])
  | succ sleeps ih =>
    obtain hw | ⟨l, h', a, state, hl, hj, hasked, hr⟩ := runs_lookOnce hr
    · exact hw
    · rw [bind_eq, runs_sleep_bind] at hr
      obtain ⟨t, rest, rfl, hr⟩ := hr
      rw [hasked]
      simpa using Waits.cons ⟨a, state, hl, hj⟩ (ih hr)

/-- **A wait is decided by its last look**, and all before saw something
pending. -/
theorem runs_awaitState (hr : Runs (awaitState deadline interval what look judge) h o) :
    Waits what look judge h.asked o := by
  rw [awaitState, bind_eq, runs_now_bind] at hr
  obtain ⟨t, rest, rfl, hr⟩ := hr
  simpa using runs_poll hr

end Workflow

end CloudOrchestration
