import CloudOrchestration.Proofs.Workflow.Run
import CloudOrchestration.Schedule.World
/-!
# A workflow by itself

With a server and nobody else around, a workflow has one run, and it can be
computed: the clock moves only while the workflow sleeps or waits for an
answer, and every lock is free. So runs of a certain kind can be exhibited.
-/

namespace CloudOrchestration

/-- Outcomes can be compared. -/
instance instDecidableEqOutcome {ε α : Type} [DecidableEq ε] [DecidableEq α] :
    DecidableEq (Except ε α)
  | .ok a, .ok b => decidable_of_iff (a = b) ⟨congrArg _, Except.ok.inj⟩
  | .error a, .error b => decidable_of_iff (a = b) ⟨congrArg _, Except.error.inj⟩
  | .ok _, .error _ => isFalse nofun
  | .error _, .ok _ => isFalse nofun

namespace Workflow

variable {σ Q R α : Type}

/-- The answer to an effect, and the server and the clock after it. -/
def answerAlone (server : Server σ Q R) (s : σ) (t : Instant) (e : Effect Q R) :
    e.Answer × σ × Instant :=
  match e with
  | .now => (t, s, t)
  | .sleepUntil t' => ((), s, max t t')
  | .ask q => ((server s q).answer, (server s q).server, t + (server s q).delay)
  | .acquire _ _ => (true, s, t)
  | .release _ => ((), s, t)
  | .isLocked _ => (false, s, t)
  | .track _ => ((), s, t)
  | .untrack _ => ((), s, t)
  | .tracked => ([], s, t)
  | .draw => (({ server := s } : World σ).nextDraw, s, t)

/-- The run of a workflow by itself. -/
def alone (server : Server σ Q R) : Workflow Q R α → σ → Instant → History Q R × Except Fault α
  | done a, _, _ => ([], .ok a)
  | fail fault, _, _ => ([], .error fault)
  | perform e next, s, t =>
    let (answer, s', t') := answerAlone server s t e
    let (h, o) := (next answer).alone server s' t'
    (⟨e, answer⟩ :: h, o)

/-- **What is computed is a run.** -/
theorem runs_alone (server : Server σ Q R) (w : Workflow Q R α) (s : σ) (t : Instant) :
    Runs w (w.alone server s t).1 (w.alone server s t).2 := by
  induction w generalizing s t with
  | done a => exact .done a
  | fail fault => exact .fail fault
  | perform e next ih => exact .perform _ (ih _ _ _)

end Workflow

end CloudOrchestration
