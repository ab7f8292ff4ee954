import CloudOrchestration.Schedule.Lock
import CloudOrchestration.Workflow.Basic
/-!
# The world around workflows

What workflows share: the clock, the three locks, the tracked accounts, the
random numbers to come and the state of the server. A server is any function
that answers a request from its state; the answer is determined when the
request is sent and arrives after a delay.
-/

namespace CloudOrchestration

/-- The answer to a request, the time it takes, and the server after it. -/
structure Reply (σ R : Type) where
  server : σ
  delay : Nat
  answer : R

/-- How a server answers. -/
abbrev Server (σ Q R : Type) := σ → Q → Reply σ R

/-- What workflows share. -/
structure World (σ : Type) where
  server : σ
  clock : Instant := 0
  locks : Domain → Lock := fun _ => .free
  /-- The tracked accounts, each once and in order. -/
  accounts : List String := []
  /-- The numbers that will be drawn; after them all are zero. -/
  draws : List Draw := []

/-- Put a name at its place in an ordered list without repetitions. -/
def insertName (name : String) : List String → List String
  | [] => [name]
  | x :: rest =>
    if name = x then x :: rest
    else if name < x then name :: x :: rest
    else x :: insertName name rest

namespace World

variable {σ : Type}

/-- The world with the lock of one domain changed. -/
def setLock (w : World σ) (domain : Domain) (lock : Lock) : World σ :=
  { w with locks := fun d => if d = domain then lock else w.locks d }

@[simp] theorem locks_setLock (w : World σ) (domain d : Domain) (lock : Lock) :
    (w.setLock domain lock).locks d = if d = domain then lock else w.locks d := rfl

/-- The domains whose locks are taken. -/
def lockedDomains (w : World σ) : List Domain :=
  Domain.all.filter fun d => (w.locks d).isTaken

/-- The next random number. -/
def nextDraw (w : World σ) : Draw := w.draws.headD 0

end World

end CloudOrchestration
