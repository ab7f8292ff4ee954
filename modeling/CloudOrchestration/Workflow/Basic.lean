import CloudOrchestration.Deadline
import CloudOrchestration.Fault
/-!
# Workflows

A workflow is what a call does, written down as data: an effect, and for
each answer to it the workflow that follows. It ends with a value or with a
fault. Every workflow is finite along every sequence of answers, which is
what lets the schedule run it to its end and proofs follow it by induction.

Requests and their answers are parameters. The other effects are those of
the client itself: reading the clock, sleeping, the three locks, the set of
tracked accounts and drawing a random number.
-/

namespace CloudOrchestration

/-- A random number of four hexadecimal digits. -/
abbrev Draw := Fin 0x10000

/-- One thing that a workflow does to the world around it. -/
inductive Effect (Q R : Type) where
  /-- Read the clock. -/
  | now
  /-- Sleep until an instant; one in the past is reached at once. -/
  | sleepUntil (instant : Instant)
  /-- Send a request and wait for its answer. -/
  | ask (q : Q)
  /-- Wait for the lock of a domain, at most for the budget. A free lock is
  obtained whatever the budget. -/
  | acquire (domain : Domain) (budget : Nat)
  | release (domain : Domain)
  | isLocked (domain : Domain)
  /-- Add an account to the tracked ones. -/
  | track (account : String)
  | untrack (account : String)
  /-- The tracked accounts, in order. -/
  | tracked
  /-- Draw a random number. -/
  | draw

namespace Effect

variable {Q R : Type}

/-- The type of the answer to an effect. -/
@[reducible] def Answer : Effect Q R → Type
  | now => Instant
  | sleepUntil _ => Unit
  | ask _ => R
  | acquire _ _ => Bool
  | release _ => Unit
  | isLocked _ => Bool
  | track _ => Unit
  | untrack _ => Unit
  | tracked => List String
  | draw => Draw

end Effect

/-- What a call does, and what it ends with. -/
inductive Workflow (Q R α : Type) where
  | done (a : α)
  | fail (fault : Fault)
  | perform (e : Effect Q R) (next : e.Answer → Workflow Q R α)

namespace Workflow

variable {Q R α β γ : Type}

/-- Go on with the value a workflow ends with; a fault ends the whole. -/
def bind : Workflow Q R α → (α → Workflow Q R β) → Workflow Q R β
  | done a, f => f a
  | fail fault, _ => fail fault
  | perform e next, f => perform e fun answer => (next answer).bind f

instance : Monad (Workflow Q R) where
  pure := done
  bind := bind

/-- Turn the end of a workflow, value or fault, into a value. -/
def attempt : Workflow Q R α → Workflow Q R (Except Fault α)
  | done a => done (.ok a)
  | fail fault => done (.error fault)
  | perform e next => perform e fun answer => (next answer).attempt

/-- End as a result says. -/
def ofExcept : Except Fault α → Workflow Q R α
  | .ok a => done a
  | .error fault => fail fault

/-- Perform one effect. -/
def effect (e : Effect Q R) : Workflow Q R e.Answer := perform e done

/-! ## Laws -/

@[simp] theorem pure_eq (a : α) : (pure a : Workflow Q R α) = done a := rfl

@[simp] theorem bind_eq (w : Workflow Q R α) (f : α → Workflow Q R β) : w >>= f = w.bind f := rfl

@[simp] theorem done_bind (a : α) (f : α → Workflow Q R β) : (done a).bind f = f a := rfl

@[simp] theorem fail_bind (fault : Fault) (f : α → Workflow Q R β) :
    (fail fault).bind f = fail fault := rfl

@[simp] theorem perform_bind (e : Effect Q R) (next : e.Answer → Workflow Q R α)
    (f : α → Workflow Q R β) :
    (perform e next).bind f = perform e fun answer => (next answer).bind f := rfl

@[simp] theorem bind_done (w : Workflow Q R α) : w.bind done = w := by
  induction w with
  | done _ => rfl
  | fail _ => rfl
  | perform e next ih => simp only [perform_bind, ih]

/-- **Sequencing is associative.** -/
theorem bind_assoc (w : Workflow Q R α) (f : α → Workflow Q R β) (g : β → Workflow Q R γ) :
    (w.bind f).bind g = w.bind fun a => (f a).bind g := by
  induction w with
  | done _ => rfl
  | fail _ => rfl
  | perform e next ih => simp only [perform_bind, ih]

@[simp] theorem attempt_done (a : α) : (done a : Workflow Q R α).attempt = done (.ok a) := rfl

@[simp] theorem attempt_fail (fault : Fault) :
    (fail fault : Workflow Q R α).attempt = done (.error fault) := rfl

@[simp] theorem attempt_perform (e : Effect Q R) (next : e.Answer → Workflow Q R α) :
    (perform e next).attempt = perform e fun answer => (next answer).attempt := rfl

/-- An attempt whose fault is raised again changes nothing. -/
@[simp] theorem attempt_bind_ofExcept (w : Workflow Q R α) : w.attempt.bind ofExcept = w := by
  induction w with
  | done _ => rfl
  | fail _ => rfl
  | perform e next ih => simp only [attempt_perform, perform_bind, ih]

instance : LawfulMonad (Workflow Q R) :=
  LawfulMonad.mk' _ bind_done (fun _ _ => rfl) bind_assoc

/-! ## The effects as workflows -/

/-- The present instant. -/
def now : Workflow Q R Instant := effect .now

def sleepUntil (instant : Instant) : Workflow Q R Unit := effect (.sleepUntil instant)

/-- Let a span of time pass. -/
def pause (span : Nat) : Workflow Q R Unit := do
  sleepUntil ((← now) + span)

/-- Wait for an interval, cut short at the deadline. For `none` the call panics
here: nothing follows. -/
def sleep? (deadline : Deadline) (interval : Nat) : Workflow Q R (Option Unit) := do
  match deadline.wake? (← now) interval with
  | some instant => some <$> sleepUntil instant
  | none => pure none

/-- Wait for an interval that is soon over, cut short at the deadline. It is what
`sleep?` does before the clock comes to its end; so are the waits for an interval of
the settings, which has 64 bits. -/
def sleep (deadline : Deadline) (interval : Nat) : Workflow Q R Unit := do
  sleepUntil (deadline.wake (← now) interval)

/-- Send a request and wait for its answer. -/
def ask (q : Q) : Workflow Q R R := effect (.ask q)

/-- Wait for the lock of a domain, at most for the budget. -/
def acquire (domain : Domain) (budget : Nat) : Workflow Q R Unit := do
  unless ← effect (.acquire domain budget) do
    fail (.lockTimeout (.busy domain budget))

def release (domain : Domain) : Workflow Q R Unit := effect (.release domain)

def isLocked (domain : Domain) : Workflow Q R Bool := effect (.isLocked domain)

/-- The domains whose locks are held. -/
def lockedDomains : Workflow Q R (List Domain) := Domain.all.filterM isLocked

/-- **Hold a lock over a body.** However the body ends, the lock is released
before the whole ends in the same way. -/
def holding (domain : Domain) (budget : Nat) (body : Workflow Q R α) : Workflow Q R α := do
  acquire domain budget
  let outcome ← body.attempt
  release domain
  ofExcept outcome

/-- Go on whatever a workflow ends with. -/
def regardless (w : Workflow Q R α) : Workflow Q R Unit := do
  let _ ← w.attempt

def track (account : String) : Workflow Q R Unit := effect (.track account)

def untrack (account : String) : Workflow Q R Unit := effect (.untrack account)

def tracked : Workflow Q R (List String) := effect .tracked

def draw : Workflow Q R Draw := effect .draw

end Workflow

end CloudOrchestration
