import CloudOrchestration.Workflow.Basic
/-!
# Waiting for a state

A resource is looked at again and again until it is ready, is in a state that
it cannot leave for the awaited one, or the deadline has passed. Between two
looks the workflow sleeps for the interval, never past the deadline. So the
number of sleeps is known at the start (`Deadline.waitsLeft`), and the
loop recurses on it: after that many the deadline has passed. If the interval is
nothing, that is so as long as looking takes time.
-/

namespace CloudOrchestration

/-- What a look at a resource says. -/
inductive Readiness (α : Type) where
  | ready (a : α)
  /-- Not there yet. -/
  | pending (state : String)
  /-- Never to be there. -/
  | stuck (reason : String)
  deriving DecidableEq, Repr

namespace Workflow

variable {Q R α β : Type}

/-- The fault of a wait that the deadline ended. -/
def overdue (what state : String) : Workflow Q R β := fail (.timeout (.waiting what state))

/-- Look once. While the state is pending and the deadline has not passed, go
on as `again` says. -/
def lookOnce (deadline : Deadline) (what : String) (look : Workflow Q R α)
    (judge : α → Readiness β) (again : String → Workflow Q R β) : Workflow Q R β := do
  match judge (← look) with
  | .ready b => pure b
  | .stuck reason => fail (.invalidState (.stuck what reason))
  | .pending state =>
    if deadline.isExpired (← now) then overdue what state else again state

/-- Look until the state is reached, with so many sleeps left. -/
def poll (deadline : Deadline) (interval : Nat) (what : String) (look : Workflow Q R α)
    (judge : α → Readiness β) : Nat → Workflow Q R β
  | 0 => lookOnce deadline what look judge (overdue what)
  | sleeps + 1 => lookOnce deadline what look judge fun _ => do
    sleep deadline interval
    poll deadline interval what look judge sleeps

/-- **Wait for a state.** A look that finds the resource ready counts even
after the deadline; one that finds it pending then ends the wait. -/
def awaitState (deadline : Deadline) (interval : Nat) (what : String) (look : Workflow Q R α)
    (judge : α → Readiness β) : Workflow Q R β := do
  poll deadline interval what look judge (deadline.waitsLeft (← now) interval)

end Workflow

end CloudOrchestration
