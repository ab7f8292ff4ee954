import CloudOrchestration.Schedule.World
/-!
# Strands

A strand is a workflow on its way. It acts when its instant has come, waits
for a lock, or has ended. One action performs one effect, and leaves a strand
from which fewer actions are possible: `Follows` is that relation, and it is
well founded because workflows are.
-/

namespace CloudOrchestration

/-- What others can see of an action. -/
inductive Happening (Q R : Type) where
  /-- A request was sent; its answer arrives after the delay. -/
  | asked (q : Q) (delay : Nat) (answer : R)
  | slept (instant : Instant)
  /-- A wait for a lock began. -/
  | queued (domain : Domain) (budget : Nat)
  | acquired (domain : Domain)
  | refused (domain : Domain)
  | released (domain : Domain)

/-- A workflow on its way. -/
inductive Strand (Q R α : Type) where
  /-- To act at an instant. -/
  | running (instant : Instant) (rest : Workflow Q R α)
  /-- In the queue for a lock, up to an instant. -/
  | waiting (domain : Domain) (expiry : Instant) (next : Bool → Workflow Q R α)
  | ended (instant : Instant) (outcome : Except Fault α)

namespace Strand

variable {σ Q R α : Type}

/-- When the strand of a number can act next. One that waits for a lock acts
when the lock has been handed to it, or when its time is up. -/
def readyAt? (w : World σ) (n : Nat) : Strand Q R α → Option Instant
  | running instant _ => some (max w.clock instant)
  | waiting domain expiry _ =>
    some (if (w.locks domain).isHandedTo n then w.clock else max w.clock expiry)
  | ended _ _ => none

/-- What an action leaves. -/
structure Turn (σ Q R α : Type) where
  world : World σ
  strand : Strand Q R α
  happening : Option (Happening Q R) := none

/-- The action of the strand of a number, at the present instant. -/
def act? (server : Server σ Q R) (w : World σ) (n : Nat) :
    Strand Q R α → Option (Turn σ Q R α)
  | ended _ _ => none
  | waiting domain _ next =>
    let granted := (w.locks domain).isHandedTo n
    some {
      world := w.setLock domain ((w.locks domain).settle n)
      strand := running w.clock (next granted)
      happening := some (if granted then .acquired domain else .refused domain) }
  | running _ (.done a) => some { world := w, strand := ended w.clock (.ok a) }
  | running _ (.fail fault) => some { world := w, strand := ended w.clock (.error fault) }
  | running _ (.perform e next) =>
    match e, next with
    | .now, next => some { world := w, strand := running w.clock (next w.clock) }
    | .sleepUntil instant, next => some {
        world := w
        strand := running instant (next ())
        happening := some (.slept instant) }
    | .ask q, next =>
      let reply := server w.server q
      some {
        world := { w with server := reply.server }
        strand := running (w.clock + reply.delay) (next reply.answer)
        happening := some (.asked q reply.delay reply.answer) }
    | .acquire domain budget, next =>
      if (w.locks domain).isTaken then
        if budget = 0 then some {
          world := w
          strand := running w.clock (next false)
          happening := some (.refused domain) }
        else some {
          world := w.setLock domain ((w.locks domain).enqueue n)
          strand := waiting domain (w.clock + budget) next
          happening := some (.queued domain budget) }
      else some {
        world := w.setLock domain (.held [])
        strand := running w.clock (next true)
        happening := some (.acquired domain) }
    | .release domain, next => some {
        world := w.setLock domain (w.locks domain).release
        strand := running w.clock (next ())
        happening := some (.released domain) }
    | .isLocked domain, next => some {
        world := w
        strand := running w.clock (next (w.locks domain).isTaken) }
    | .track account, next => some {
        world := { w with accounts := insertName account w.accounts }
        strand := running w.clock (next ()) }
    | .untrack account, next => some {
        world := { w with accounts := w.accounts.filter (· != account) }
        strand := running w.clock (next ()) }
    | .tracked, next => some {
        world := w
        strand := running w.clock (next w.accounts) }
    | .draw, next => some {
        world := { w with draws := w.draws.tail }
        strand := running w.clock (next w.nextDraw) }

/-! ## Progress -/

/-- One action leads from the second strand to the first. -/
inductive Follows : Strand Q R α → Strand Q R α → Prop where
  | returned {t t' : Instant} {a : α} {r : Except Fault α} :
      Follows (ended t' r) (running t (.done a))
  | failed {t t' : Instant} {fault : Fault} {r : Except Fault α} :
      Follows (ended t' r) (running t (.fail fault))
  | answered {t t' : Instant} {e : Effect Q R} {next : e.Answer → Workflow Q R α}
      {answer : e.Answer} : Follows (running t' (next answer)) (running t (.perform e next))
  | queued {t t' : Instant} {d : Domain} {budget : Nat} {next : Bool → Workflow Q R α} :
      Follows (waiting d t' next) (running t (.perform (.acquire d budget) next))
  | settled {t t' : Instant} {d : Domain} {next : Bool → Workflow Q R α} {granted : Bool} :
      Follows (running t' (next granted)) (waiting d t next)

/-- **What comes of asking for a lock**: it is obtained if it is free; if not, the
strand stands in line, unless it has no time to wait. -/
inductive Enters (w : World σ) (n : Nat) (d : Domain) (budget : Nat)
    (next : Bool → Workflow Q R α) : Turn σ Q R α → Prop where
  | acquired (hfree : (w.locks d).isTaken = false) : Enters w n d budget next {
      world := w.setLock d (.held [])
      strand := running w.clock (next true)
      happening := some (.acquired d) }
  | refused (htaken : (w.locks d).isTaken) (hbudget : budget = 0) : Enters w n d budget next {
      world := w
      strand := running w.clock (next false)
      happening := some (.refused d) }
  | queued (htaken : (w.locks d).isTaken) (hbudget : budget ≠ 0) : Enters w n d budget next {
      world := w.setLock d ((w.locks d).enqueue n)
      strand := waiting d (w.clock + budget) next
      happening := some (.queued d budget) }

theorem enters_of_act? {server : Server σ Q R} {w : World σ} {n : Nat} {t : Instant}
    {d : Domain} {budget : Nat} {next : Bool → Workflow Q R α} {turn : Turn σ Q R α}
    (h : (running t (.perform (.acquire d budget) next)).act? server w n = some turn) :
    Enters w n d budget next turn := by
  simp only [act?] at h
  split at h
  next htaken =>
    split at h
    next hbudget =>
      cases h
      exact .refused htaken hbudget
    next hbudget =>
      cases h
      exact .queued htaken hbudget
  next hfree =>
    cases h
    exact .acquired (Bool.eq_false_iff.2 hfree)

/-- **An action leads to a strand that follows.** -/
theorem follows_of_act? {server : Server σ Q R} {w : World σ} {n : Nat} {s : Strand Q R α}
    {a : Turn σ Q R α} (h : s.act? server w n = some a) : Follows a.strand s := by
  cases s with
  | ended t r => cases h
  | waiting d expiry next => cases h; exact .settled
  | running t rest =>
    cases rest with
    | done a => cases h; exact .returned
    | fail fault => cases h; exact .failed
    | perform e next =>
      cases e with
      | acquire d budget =>
        cases enters_of_act? h with
        | acquired | refused => exact .answered (e := .acquire d budget)
        | queued => exact .queued
      | now => cases h; exact .answered (e := .now)
      | sleepUntil wake => cases h; exact .answered (e := .sleepUntil wake)
      | ask q => cases h; exact .answered (e := .ask q)
      | release d => cases h; exact .answered (e := .release d)
      | isLocked d => cases h; exact .answered (e := .isLocked d)
      | track account => cases h; exact .answered (e := .track account)
      | untrack account => cases h; exact .answered (e := .untrack account)
      | tracked => cases h; exact .answered (e := .tracked)
      | draw => cases h; exact .answered (e := .draw)

theorem acc_ended (t : Instant) (r : Except Fault α) :
    Acc Follows (ended (Q := Q) (R := R) t r) := ⟨_, fun _ h => nomatch h⟩

/-- A strand that acts can act only finitely often: workflows are finite. -/
theorem acc_running (rest : Workflow Q R α) : ∀ t : Instant, Acc Follows (running t rest) := by
  induction rest with
  | done a => exact fun t => ⟨_, fun _ h => by cases h; exact acc_ended _ _⟩
  | fail fault => exact fun t => ⟨_, fun _ h => by cases h; exact acc_ended _ _⟩
  | perform e next ih =>
    refine fun t => ⟨_, fun _ h => ?_⟩
    cases h with
    | answered => exact ih _ _
    | queued => exact ⟨_, fun _ h => by cases h; exact ih _ _⟩

/-- **No strand acts for ever.** -/
theorem acc_follows (s : Strand Q R α) : Acc Follows s := by
  cases s with
  | running t rest => exact acc_running rest t
  | waiting d t next => exact ⟨_, fun _ h => by cases h; exact acc_running _ _⟩
  | ended t r => exact acc_ended t r

end Strand

end CloudOrchestration
