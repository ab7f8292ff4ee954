/-!
# Locks with a queue

A lock goes to those who wait for it in the order in which they came. When it
is released while somebody waits it is handed to the first of them at once
and is free at no time in between; the heir takes it when it next acts. One
who gives up leaves the queue.
-/

namespace CloudOrchestration

/-- A lock, and the numbers of those who wait for it. -/
inductive Lock where
  | free
  | held (queue : List Nat)
  /-- Released, and promised to an heir that has not acted yet. -/
  | handed (heir : Nat) (queue : List Nat)
  deriving DecidableEq, Repr

namespace Lock

/-- Whether the lock cannot be had at once. -/
def isTaken : Lock → Bool
  | free => false
  | held _ | handed _ _ => true

/-- Whether the lock has been handed to one of those who wait. -/
def isHandedTo (n : Nat) : Lock → Bool
  | handed heir _ => heir == n
  | free | held _ => false

/-- The end of a hold. -/
def release : Lock → Lock
  | held (heir :: queue) => handed heir queue
  | held [] => free
  | free => free
  | handed heir queue => handed heir queue

/-- Wait for a lock that is taken, behind all others. -/
def enqueue (n : Nat) : Lock → Lock
  | free => free
  | held queue => held (queue ++ [n])
  | handed heir queue => handed heir (queue ++ [n])

/-- The end of a wait: an heir holds the lock, anybody else leaves the
queue. -/
def settle (n : Nat) : Lock → Lock
  | free => free
  | held queue => held (queue.erase n)
  | handed heir queue => if heir = n then held queue else handed heir (queue.erase n)

end Lock

end CloudOrchestration
