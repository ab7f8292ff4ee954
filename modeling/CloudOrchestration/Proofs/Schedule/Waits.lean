import CloudOrchestration.Proofs.Schedule.Clocked
import CloudOrchestration.Proofs.Workflow.Retries
/-!
# Waits for a state in a schedule

A wait for a state has no count of its looks, and a look may take as long as its
requests do. It ends all the same: the sleeps between its looks reach the
deadline after a number of them that is known at the start, whatever time the
looks take in between.
-/

namespace CloudOrchestration

open Workflow

variable {σ Q R α β γ : Type}

/-- **How the strand of a number has waited** from an instant on, with which
looks, and how it ended. Its outcome was put in the form of all outcomes by a
function. -/
structure Schedule.Waited (deadline : Deadline) (interval : Nat) (what : String)
    (look : Workflow Q R α) (judge : α → Readiness β) (f : β → γ) (i : Nat) (start : Instant)
    (s : Schedule σ Q R γ) (looks : List (Look Q R α)) (last : Look Q R α) (finish : Instant)
    (o : Except Fault β) : Prop where
  ended : s.strands[i]? = some (.ended finish (o.map f))
  /-- Nothing was asked but in the looks. -/
  dealings : s.dealings i = looks.flatMap (·.value.1)
  /-- All looks but the last saw the state pending before the deadline, and the
  last decides. -/
  decided : Looks deadline interval what look judge start looks last finish o
  timely : ∀ x ∈ looks.tail, x.begun ≤ deadline.instant
  bounded : looks.length ≤ deadline.remaining start ⌈/⌉ interval + 1
  /-- If no look took any time and none saw anything but a pending state, all the
  time up to the deadline was used, and no more. -/
  exact (honce : ∀ x ∈ looks, x.ended = x.begun)
    (hpending : ∀ x ∈ looks, SeesPending judge x.value.2) :
    finish = max start deadline.instant ∧
      looks.length = deadline.remaining start ⌈/⌉ interval + 1 ∧
      ∃ state, o = .error (.timeout (.waiting what state))

/-- **A wait looks until that decides it, or the deadline has passed**: one that
is about to start, beside any other strands and at any point of what they do,
ends, and has then waited so. -/
theorem Schedule.wait_looks_until_decided {server : Server σ Q R} {s : Schedule σ Q R γ}
    {deadline : Deadline} {interval : Nat} {what : String} {look : Workflow Q R α}
    {judge : α → Readiness β} {f : β → γ} {i : Nat} {t : Instant} (hinterval : 0 < interval)
    (hi : s.strands[i]? = some (.running t (f <$> awaitState deadline interval what look judge)))
    (hlog : ∀ e ∈ s.log, e.strand ≠ i) :
    Inevitably server (fun s' => ∃ looks last finish o, s'.Waited deadline interval what look judge f
      i (max s.world.clock t) looks last finish o) s := by
  refine (inevitably_runsFrom hi hlog).mono ?_
  rintro s' ⟨finish, _, hended, hmapped⟩
  obtain ⟨o, hruns, rfl⟩ := runsFrom_map hmapped
  obtain ⟨looks, last, hlooks, hdealings⟩ := looks_of_runsFrom (.inl hinterval) hruns
  refine ⟨looks, last, finish, o, hended, hdealings, hlooks, hlooks.row.begun_le,
    hlooks.row.length_le hinterval, fun honce hpending => ?_⟩
  have hlast : SeesPending judge last.value.2 := hpending last hlooks.row.mem
  obtain ⟨hfinish, hlength⟩ := hlooks.row.of_at_once hinterval honce (hlooks.late hlast)
  refine ⟨hlooks.finish_eq.trans hfinish, hlength, ?_⟩
  obtain ⟨a, state, hvalue, hj⟩ := hlast
  refine ⟨state, ?_⟩
  rw [hlooks.outcome, hvalue]
  simp only [lastLook, hj]

/-- A server that answers at once how many requests came before. -/
def countingServer : Server Nat Unit Nat := fun count _ =>
  { server := count + 1, delay := 0, answer := count }

/-- A wait for a number of requests. -/
def awaitCount (deadline : Deadline) (count : Nat) : Workflow Unit Nat Nat :=
  awaitState deadline 10 "the count" (ask ()) fun n =>
    if count ≤ n then .ready n else .pending (toString n)

/-- A wait for more requests than there is time for, about to start. -/
def counting : Schedule Nat Unit Nat Nat :=
  Schedule.start { server := 0 } [id <$> awaitCount ⟨25⟩ 9]

/-- Of the four looks the last is made at the deadline. -/
theorem Schedule.wait_looks_until_decided_counting :
    (∃ n looks last finish o, (counting.advance countingServer n).Waited ⟨25⟩ 10 "the count" (ask ())
      (fun n => if 9 ≤ n then .ready n else .pending (toString n)) id 0 0 looks last finish o) ∧
    ((counting.advance countingServer 30).requests 0).map (·.1) = [0, 10, 20, 25] ∧
    (counting.advance countingServer 30).outcomes =
      [(25, .error (.timeout (.waiting "the count" "3")))] := by
  refine ⟨?_, by decide +kernel, by decide +kernel⟩
  have hlog : ∀ e ∈ counting.log, e.strand ≠ 0 := fun _ he => nomatch he
  have hi : counting.strands[0]? = some (.running 0 (id <$> awaitState ⟨25⟩ 10 "the count" (ask ())
      fun n => if 9 ≤ n then .ready n else .pending (toString n))) := rfl
  exact (wait_looks_until_decided (by decide) hi hlog).exists_advance

end CloudOrchestration
