import CloudOrchestration.Proofs.Client.Rules
import CloudOrchestration.Proofs.Client.Scripts
import CloudOrchestration.Proofs.Schedule.Prompt
/-!
# What a deadline means

Whatever a client is called for, whoever else is there, and in whatever order
they act: the call comes to its end, and beyond its deadline only the transport
takes time (`keepsDeadlines`). It is the deadline that ends its waits; none of
them has a number of tries that could end it before.
-/

namespace CloudOrchestration

open Workflow Channel Schedule

/-- **The strand of a number has ended in time**: beyond the deadline it has
spent no time but on its own requests. If these took none, then by the deadline
it had ended. -/
def Schedule.EndedInTime {σ Q R α : Type} (deadline : Deadline) (i : Nat) (start : Instant)
    (s : Schedule σ Q R α) : Prop :=
  ∃ finish o, s.strands[i]? = some (.ended finish o) ∧ s.OnTime deadline i start finish ∧
    ((∀ instant q delay r, (⟨instant, i, .asked q delay r⟩ : Event Q R) ∈ s.log → delay = 0) →
      start ≤ deadline.instant → finish ≤ deadline.instant)

/-- **The calls of a client keep to their deadlines.** -/
structure Client.KeepsDeadlines (c : Client) : Prop where
  /-- A call that is about to start, beside any other strands and at any point
  of what they do, comes to its end, and ends in time. -/
  ends : ∀ {σ α : Type} {server : Server σ Request (Except Fault Response)} (op : Operation)
    (f : op.Answer → α) {deadline i t} {s : Schedule σ Request (Except Fault Response) α},
    s.strands[i]? = some (.running t (f <$> op.run c deadline)) →
      (∀ e ∈ s.log, e.strand ≠ i) →
        Inevitably server (EndedInTime deadline i (max s.world.clock t)) s
  /-- A wait for a state is a loop without a count: it looks, sleeps, and begins
  again. -/
  waits : ∀ {α β : Type} {deadline : Deadline} {what} {look : Call α} {judge : α → Readiness β}
    {t sleeps}, deadline.waitsLeft t c.interval ≤ sleeps →
      SameInTime t (poll deadline c.interval what look judge sleeps)
        (lookOnce deadline what look judge fun _ => do
          sleep deadline c.interval
          poll deadline c.interval what look judge sleeps)
  /-- So is a change that is put off. -/
  changes : ∀ {deadline : Deadline} {q t retries}, deadline.waitsLeft t c.interval ≤ retries →
    SameInTime t (c.channel.submitAgain q deadline retries)
      (c.channel.trySubmit q deadline fun _ => do
        sleep deadline c.interval
        c.channel.submitAgain q deadline retries)

/-- **After the deadline only the transport takes time.** -/
theorem keepsDeadlines (c : Client) (hinterval : 0 < c.interval) : c.KeepsDeadlines where
  ends {_ _ _} op f {deadline _ _ _} hi hlog := by
    have hw : (f <$> op.run c deadline).Punctual deadline :=
      punctual_bind (Client.punctual_operation op) fun _ => punctual_done _
    refine (inevitably_onTime hw hi hlog).mono ?_
    rintro s' ⟨finish, o, hended, htime⟩
    exact ⟨finish, o, hended, htime, htime.finish_le⟩
  waits hsleeps := sameInTime_poll hinterval 1 hsleeps
  changes hretries := sameInTime_submitAgain hinterval 1 hretries

/-! ## Calls that end at their deadlines, and one that ends after it -/

/-- A provider that takes long to look for a deployment. -/
def slowScript : Script := [((.get, Path.deployment "w" "w"), [.refuses 404 1000])]

/-- Two deletions that need the same lock, and a wait for what never comes. -/
def waiters : List (Operation × Deadline) := [
  (.lifecycle (.deleteDeployment "w" "w"), ⟨300⟩),
  (.lifecycle (.deleteDeployment "w" "w"), ⟨500⟩),
  (.wait (.created "x"), ⟨12000⟩)]

/-- All of them about to start. -/
def waiting : Schedule Script Request (Except Fault Response) ((op : Operation) × op.Answer) :=
  Schedule.start { server := slowScript } (waiters.map fun x => x.1.call plainClient x.2)

/-- The first deletion is held up by its request beyond its deadline; the second
waits for the lock until its own deadline, and the last looks again and again
until its own. -/
theorem keepsDeadlines_waiting : 0 < plainClient.interval ∧
    (∃ n, (waiting.advance Script.respond n).EndedInTime ⟨300⟩ 0 0) ∧
    (∃ n, (waiting.advance Script.respond n).EndedInTime ⟨500⟩ 1 0) ∧
    (∃ n, (waiting.advance Script.respond n).EndedInTime ⟨12000⟩ 2 0) ∧
    ((waiting.advance Script.respond 40).outcomes.map (·.1)) = [1000, 500, 12000] := by
  have hinterval : 0 < plainClient.interval := by decide
  have hkeeps : plainClient.KeepsDeadlines := keepsDeadlines plainClient hinterval
  have hlog : ∀ i, ∀ e ∈ waiting.log, e.strand ≠ i := fun _ _ he => nomatch he
  have hfirst : Inevitably Script.respond (EndedInTime ⟨300⟩ 0 0) waiting :=
    hkeeps.ends (.lifecycle (.deleteDeployment "w" "w")) (Sigma.mk _) rfl (hlog 0)
  have hsecond : Inevitably Script.respond (EndedInTime ⟨500⟩ 1 0) waiting :=
    hkeeps.ends (.lifecycle (.deleteDeployment "w" "w")) (Sigma.mk _) rfl (hlog 1)
  have hthird : Inevitably Script.respond (EndedInTime ⟨12000⟩ 2 0) waiting :=
    hkeeps.ends (.wait (.created "x")) (Sigma.mk _) rfl (hlog 2)
  refine ⟨hinterval, hfirst.exists_advance, hsecond.exists_advance, hthird.exists_advance, ?_⟩
  decide +kernel

end CloudOrchestration
