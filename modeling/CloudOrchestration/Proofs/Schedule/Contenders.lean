import CloudOrchestration.Proofs.Schedule.Interleaving
import Mathlib.Logic.Function.Basic
/-!
# Contenders for a lock

A task comes for the lock of a domain at its start, waits for it up to its
expiry, and when it has been granted the lock holds it for a span. Where it
stands is its `Standing`; what it can do next, and what that does to the lock,
is `LockTask.Move`.

Of all the tasks on one domain, `Orderly` says how their standings go together
with the lock and with each other. Time may pass as long as nobody can act
(`Orderly.tick`), and every move preserves it (`Orderly.move`). So the lock is
shared fairly: one holds it at a time, they hold it in the order in which they
came, and nobody waits while nobody holds it.
-/

namespace CloudOrchestration

/-- **A task**: it comes for the lock of a domain, waits at most for a timeout,
and holds the lock for a span. -/
structure LockTask where
  start : Instant
  domain : Domain
  timeout : Nat
  hold : Nat
  deriving DecidableEq, Repr

/-- Where a task stands. -/
inductive Standing where
  | coming
  | queued
  /-- It was granted the lock at an instant, and holds it. -/
  | holding (grant : Instant)
  /-- It was granted the lock at an instant, and has released it. -/
  | left (grant : Instant)
  | refused

namespace Standing

/-- When the lock was granted. -/
def grant? : Standing → Option Instant
  | holding grant | left grant => some grant
  | coming | queued | refused => none

/-- The task has nothing to do with the lock any more. -/
def IsOver : Standing → Prop
  | left _ | refused => True
  | coming | queued | holding _ => False

end Standing

namespace LockTask

/-- The instant at which a task gives up. -/
def expiry (task : LockTask) : Instant := task.start + task.timeout

/-- **A task is on time**: none of its instants is past before it has acted. -/
def Timely (task : LockTask) (now : Instant) : Standing → Prop
  | .coming => now ≤ task.start
  | .queued => task.start ≤ now ∧ now ≤ task.expiry
  | .holding grant =>
    task.start ≤ grant ∧ grant ≤ task.expiry ∧ grant ≤ now ∧ now ≤ grant + task.hold
  | .left grant => task.start ≤ grant ∧ grant ≤ task.expiry ∧ grant + task.hold ≤ now
  | .refused => task.expiry ≤ now

/-- Up to when a task has waited. -/
def waitedUntil (task : LockTask) (now : Instant) : Standing → Instant
  | .coming => task.start
  | .queued => now
  | .holding grant | .left grant => grant
  | .refused => task.expiry

/-- Time may pass until an instant: the task has nothing to do before. -/
def Idle (task : LockTask) (now later : Instant) (isHeir : Bool) : Standing → Prop
  | .coming => later ≤ task.start
  | .queued => later ≤ task.expiry ∧ (isHeir → later = now)
  | .holding grant => later ≤ grant + task.hold
  | .left _ | .refused => True

/-- **What a task of a number can do**, and what becomes of the lock. -/
inductive Move (task : LockTask) (n : Nat) (now : Instant) :
    Standing → Lock → Standing → Lock → Prop where
  | enter {lock : Lock} (hstart : now = task.start) (hfree : lock.isTaken = false) :
      Move task n now .coming lock (.holding now) (.held [])
  | queue {lock : Lock} (hstart : now = task.start) (htaken : lock.isTaken) :
      Move task n now .coming lock .queued (lock.enqueue n)
  /-- A task with no time to wait does not find the lock free. -/
  | refuse {lock : Lock} (hstart : now = task.start) (htaken : lock.isTaken)
      (htimeout : task.timeout = 0) : Move task n now .coming lock .refused lock
  | inherit {lock : Lock} (hheir : lock.isHandedTo n) :
      Move task n now .queued lock (.holding now) (lock.settle n)
  | giveUp {lock : Lock} (hheir : lock.isHandedTo n = false) (hexpiry : now = task.expiry) :
      Move task n now .queued lock .refused (lock.settle n)
  | leave {lock : Lock} {grant : Instant} (hend : now = grant + task.hold) :
      Move task n now (.holding grant) lock (.left grant) lock.release

end LockTask

/-! ## The line at a lock -/

namespace Lock

/-- All who wait, the heir first. -/
def line : Lock → List Nat
  | free => []
  | held queue => queue
  | handed heir queue => heir :: queue

variable {lock : Lock} {n : Nat}

theorem line_enqueue (h : lock.isTaken) : (lock.enqueue n).line = lock.line ++ [n] := by
  cases lock <;> first | rfl | cases h

/-- One who acts after a wait leaves the line, as an heir or otherwise. -/
theorem line_settle : (lock.settle n).line = lock.line.erase n := by
  cases lock with
  | free => rfl
  | held queue => rfl
  | handed heir queue =>
    by_cases h : heir = n
    · simp [settle, line, h]
    · simp [settle, line, h]

theorem line_release : lock.release.line = lock.line := by
  cases lock with
  | free => rfl
  | held queue => cases queue <;> rfl
  | handed heir queue => rfl

theorem line_of_not_isTaken (h : lock.isTaken = false) : lock.line = [] := by
  cases lock <;> first | rfl | cases h

theorem isTaken_of_mem_line (h : n ∈ lock.line) : lock.isTaken := by
  cases lock with
  | free => cases h
  | held _ | handed _ _ => rfl

theorem isTaken_of_isHeld (h : lock.isHeld) : lock.isTaken := by
  cases lock <;> first | rfl | cases h

/-- Whoever joins the line changes nothing about who holds the lock. -/
theorem isHeld_enqueue_eq : (lock.enqueue n).isHeld = lock.isHeld := by
  cases lock <;> rfl

/-- Nor does one who leaves the line, unless it is the heir. -/
theorem isHeld_settle_eq (h : lock.isHandedTo n = false) :
    (lock.settle n).isHeld = lock.isHeld := by
  cases lock with
  | free | held _ => rfl
  | handed heir queue =>
    have hne : heir ≠ n := by simpa [isHandedTo] using h
    simp [settle, hne, isHeld]

/-- The heir is the first of the line. -/
theorem exists_line_eq_of_isHandedTo (h : lock.isHandedTo n) :
    ∃ queue, lock.line = n :: queue ∧ lock.settle n = held queue := by
  cases lock with
  | free | held _ => cases h
  | handed heir queue =>
    have heq : heir = n := by simpa [isHandedTo] using h
    subst heq
    exact ⟨queue, rfl, by simp [settle]⟩

/-- A lock that is taken while nobody holds it has been handed to somebody. -/
theorem exists_isHandedTo (htaken : lock.isTaken) (hheld : lock.isHeld = false) :
    ∃ heir, lock.isHandedTo heir ∧ heir ∈ lock.line := by
  cases lock with
  | free => cases htaken
  | held _ => cases hheld
  | handed heir queue => exact ⟨heir, by simp [isHandedTo], by simp [line]⟩

theorem isHeld_release (h : lock.isHeld) : lock.release.isHeld = false := by
  cases lock with
  | free | handed _ _ => cases h
  | held queue => cases queue <;> rfl

end Lock

/-! ## The tasks on one domain -/

/-- The task of a number is one for the lock of a domain. -/
def Contends (tasks : List LockTask) (d : Domain) (n : Nat) (task : LockTask) : Prop :=
  tasks[n]? = some task ∧ task.domain = d

namespace Standing

/-- At an instant somebody holds the lock who has been granted it. -/
def Busy (tasks : List LockTask) (d : Domain) (standing : Nat → Standing) (t : Instant) : Prop :=
  ∃ k task g, Contends tasks d k task ∧ (standing k).grant? = some g ∧
    g ≤ t ∧ t < g + task.hold

/-- At an instant another holds the lock that came no later than a start. At the
instant itself it may have left. -/
def Occupied (tasks : List LockTask) (d : Domain) (standing : Nat → Standing) (n : Nat)
    (start t : Instant) : Prop :=
  ∃ k task g, k ≠ n ∧ Contends tasks d k task ∧ (standing k).grant? = some g ∧
    task.start ≤ start ∧ g ≤ t ∧ t ≤ g + task.hold

end Standing

/-- **What the tasks on a domain have come to** by now. -/
structure Recorded (tasks : List LockTask) (d : Domain) (now : Instant)
    (standing : Nat → Standing) : Prop where
  timely {i : Nat} {task : LockTask} (hi : Contends tasks d i task) :
    task.Timely now (standing i)
  /-- No two hold the lock at a time. -/
  apart {i j : Nat} {task task' : LockTask} {g g' : Instant} (hij : i ≠ j)
    (hi : Contends tasks d i task) (hj : Contends tasks d j task')
    (hg : (standing i).grant? = some g) (hg' : (standing j).grant? = some g') :
    g + task.hold ≤ g' ∨ g' + task'.hold ≤ g
  /-- Whoever came before one that has been granted the lock has left by then, or
  has given up. -/
  inOrder {i j : Nat} {task task' : LockTask} {g' : Instant}
    (hi : Contends tasks d i task) (hj : Contends tasks d j task')
    (hstart : task.start < task'.start) (hg' : (standing j).grant? = some g') :
    (∃ g, standing i = .left g ∧ g + task.hold ≤ g') ∨
      standing i = .refused ∧ task.expiry ≤ g'
  /-- While one waits, another holds the lock. -/
  busy {i : Nat} {task : LockTask} {t : Instant} (hi : Contends tasks d i task)
    (hstart : task.start ≤ t) (ht : t < task.waitedUntil now (standing i)) :
    Standing.Busy tasks d standing t
  /-- One gives up only while another holds the lock. -/
  heldUp {i : Nat} {task : LockTask} (hi : Contends tasks d i task)
    (hrefused : standing i = .refused) :
    Standing.Occupied tasks d standing i task.start task.expiry

/-- **Those who wait form a line**, in the order in which they came. -/
structure Lined (tasks : List LockTask) (d : Domain) (line : List Nat)
    (standing : Nat → Standing) : Prop where
  mem {i : Nat} : i ∈ line ↔ ∃ task, Contends tasks d i task ∧ standing i = .queued
  nodup : line.Nodup
  sorted : line.Pairwise fun i j => ∀ task task',
    Contends tasks d i task → Contends tasks d j task' → task.start ≤ task'.start

/-- **Who waits for a lock and who holds it.** -/
structure Arranged (tasks : List LockTask) (d : Domain) (now : Instant) (lock : Lock)
    (standing : Nat → Standing) : Prop where
  lined : Lined tasks d lock.line standing
  held {i : Nat} {task : LockTask} {g : Instant} (hi : Contends tasks d i task)
    (hg : standing i = .holding g) : lock.isHeld
  unique {i j : Nat} {task task' : LockTask} {g g' : Instant}
    (hi : Contends tasks d i task) (hj : Contends tasks d j task')
    (hg : standing i = .holding g) (hg' : standing j = .holding g') : i = j
  /-- Somebody is ahead of the line: the holder, or one who has just left. -/
  ahead (htaken : lock.isTaken) : ∃ k task g, Contends tasks d k task ∧
    (if lock.isHeld then standing k = .holding g
      else standing k = .left g ∧ g + task.hold = now) ∧
    ∀ j ∈ lock.line, ∀ task', Contends tasks d j task' → task.start ≤ task'.start

/-- **The tasks on a domain are in order.** -/
structure Orderly (tasks : List LockTask) (d : Domain) (now : Instant) (lock : Lock)
    (standing : Nat → Standing) : Prop where
  recorded : Recorded tasks d now standing
  arranged : Arranged tasks d now lock standing

section

variable {tasks : List LockTask} {d : Domain} {now later : Instant} {lock lock' : Lock}
variable {standing standing' : Nat → Standing} {n : Nat} {task : LockTask} {st : Standing}

theorem Contends.eq {task' : LockTask} (h : Contends tasks d n task)
    (h' : Contends tasks d n task') : task = task' :=
  Option.some.inj (h.1.symm.trans h'.1)

/-- Once granted, always granted. -/
theorem Standing.Busy.mono {t : Instant} (h : Busy tasks d standing t)
    (hgrant : ∀ k task g, Contends tasks d k task → (standing k).grant? = some g →
      (standing' k).grant? = some g) : Busy tasks d standing' t := by
  obtain ⟨k, task, g, hk, hg, hspan⟩ := h
  exact ⟨k, task, g, hk, hgrant k task g hk hg, hspan⟩

theorem Standing.Occupied.mono {start t : Instant} (h : Occupied tasks d standing n start t)
    (hgrant : ∀ k task g, Contends tasks d k task → (standing k).grant? = some g →
      (standing' k).grant? = some g) : Occupied tasks d standing' n start t := by
  obtain ⟨k, task, g, hkn, hk, hg, hspan⟩ := h
  exact ⟨k, task, g, hkn, hk, hgrant k task g hk hg, hspan⟩

/-- Before any of them has come, nobody waits. -/
theorem orderly_coming : Orderly tasks d 0 .free fun _ => .coming where
  recorded := by
    refine ⟨fun _ => Nat.zero_le _, fun _ _ _ hg => ?_, fun _ _ _ hg => ?_,
      fun _ hstart ht => ?_, fun _ hst => ?_⟩
    · cases hg
    · cases hg
    · exact absurd hstart (Nat.not_le.2 ht)
    · cases hst
  arranged := by
    refine ⟨⟨fun {i} => ?_, List.nodup_nil, .nil⟩, fun _ hg => ?_, fun _ _ hg => ?_,
      fun htaken => ?_⟩
    · simp [Lock.line]
    · cases hg
    · cases hg
    · cases htaken

/-- The tasks on other domains do not matter. -/
theorem Orderly.congr (h : Orderly tasks d now lock standing)
    (hsame : ∀ i task, Contends tasks d i task → standing' i = standing i) :
    Orderly tasks d now lock standing' := by
  obtain ⟨hr, ha⟩ := h
  have hgrant : ∀ k task g, Contends tasks d k task → (standing k).grant? = some g →
      (standing' k).grant? = some g := by
    intro k task g hk hg
    rwa [hsame k task hk]
  refine ⟨⟨fun {i task} hi => ?_, fun {i j task task' g g'} hij hi hj hg hg' => ?_,
    fun {i j task task' g'} hi hj hstart hg' => ?_, fun {i task t} hi hstart ht => ?_,
    fun {i task} hi hst => ?_⟩, ⟨⟨fun {i} => ?_, ha.lined.nodup, ha.lined.sorted⟩,
    fun {i task g} hi hg => ?_, fun {i j task task' g g'} hi hj hg hg' => ?_,
    fun htaken => ?_⟩⟩
  · exact hsame i task hi ▸ hr.timely hi
  · exact hr.apart hij hi hj (hsame i task hi ▸ hg) (hsame j task' hj ▸ hg')
  · exact hsame i task hi ▸ hr.inOrder hi hj hstart (hsame j task' hj ▸ hg')
  · exact (hr.busy hi hstart (hsame i task hi ▸ ht)).mono hgrant
  · exact (hr.heldUp hi (hsame i task hi ▸ hst)).mono hgrant
  · rw [ha.lined.mem]
    exact exists_congr fun task => and_congr_right fun hi => by rw [hsame i task hi]
  · exact ha.held hi (hsame i task hi ▸ hg)
  · exact ha.unique hi hj (hsame i task hi ▸ hg) (hsame j task' hj ▸ hg')
  · obtain ⟨k, task, g, hk, hahead, hline⟩ := ha.ahead htaken
    exact ⟨k, task, g, hk, by rwa [hsame k task hk], hline⟩

/-- **When all are done the lock is free.** -/
theorem Arranged.eq_free (ha : Arranged tasks d now lock standing)
    (hover : ∀ i task, Contends tasks d i task → (standing i).IsOver) : lock = .free := by
  have hnot : ¬ lock.isTaken := by
    intro htaken
    obtain ⟨k, task, g, hk, hahead, -⟩ := ha.ahead htaken
    split at hahead
    · have hk' := hover k task hk
      rw [hahead] at hk'
      exact hk'
    next hheld =>
      obtain ⟨heir, -, hmem⟩ := Lock.exists_isHandedTo htaken (by simpa using hheld)
      obtain ⟨task', hheir, hqueued⟩ := ha.lined.mem.1 hmem
      have hheir' := hover heir task' hheir
      rw [hqueued] at hheir'
      exact hheir'
  cases lock with
  | free => rfl
  | held _ | handed _ _ => exact absurd rfl hnot

/-! ## Time passes -/

theorem LockTask.Timely.tick {isHeir : Bool} (h : task.Timely now st) (hle : now ≤ later)
    (hidle : task.Idle now later isHeir st) : task.Timely later st := by
  cases st with
  | coming => exact hidle
  | queued => exact ⟨Nat.le_trans h.1 hle, hidle.1⟩
  | holding g => exact ⟨h.1, h.2.1, Nat.le_trans h.2.2.1 hle, hidle⟩
  | left g => exact ⟨h.1, h.2.1, Nat.le_trans h.2.2 hle⟩
  | refused => exact Nat.le_trans h hle

/-- Only for one who waits does the wait go on. -/
theorem LockTask.waitedUntil_eq (h : st ≠ .queued) :
    task.waitedUntil later st = task.waitedUntil now st := by
  cases st <;> first | rfl | exact absurd rfl h

/-- Time does not pass while the lock is on its way to an heir. -/
theorem Arranged.isHeld_of_lt (ha : Arranged tasks d now lock standing) (hlt : now < later)
    (hidle : ∀ i task, Contends tasks d i task →
      task.Idle now later (lock.isHandedTo i) (standing i))
    (htaken : lock.isTaken) : lock.isHeld := by
  cases hheld : lock.isHeld with
  | true => rfl
  | false =>
    obtain ⟨heir, hheir, hmem⟩ := Lock.exists_isHandedTo htaken hheld
    obtain ⟨task, hcontends, hqueued⟩ := ha.lined.mem.1 hmem
    have hi := hidle heir task hcontends
    rw [hqueued] at hi
    exact absurd (hi.2 hheir) (Nat.ne_of_gt hlt)

/-- **Time may pass while nobody can act.** -/
theorem Orderly.tick (h : Orderly tasks d now lock standing) (hle : now ≤ later)
    (hidle : ∀ i task, Contends tasks d i task →
      task.Idle now later (lock.isHandedTo i) (standing i)) :
    Orderly tasks d later lock standing := by
  obtain ⟨hr, ha⟩ := h
  rcases Nat.eq_or_lt_of_le hle with rfl | hlt
  · exact ⟨hr, ha⟩
  have hheld := ha.isHeld_of_lt hlt hidle
  refine ⟨⟨fun {i task} hi => ?_, hr.apart, hr.inOrder, fun {i task t} hi hstart ht => ?_,
    hr.heldUp⟩, ⟨ha.lined, ha.held, ha.unique, fun htaken => ?_⟩⟩
  · exact (hr.timely hi).tick hle (hidle i task hi)
  · by_cases hqueued : standing i = .queued
    · rcases Nat.lt_or_ge t now with hbefore | hafter
      · exact hr.busy hi hstart (by rw [hqueued]; exact hbefore)
      · -- the one who holds the lock now does so until time has passed
        have htaken := Lock.isTaken_of_mem_line (ha.lined.mem.2 ⟨task, hi, hqueued⟩)
        obtain ⟨k, task', g, hk, hholding, -⟩ := ha.ahead htaken
        rw [if_pos (hheld htaken)] at hholding
        have htimely := hr.timely hk
        have hidle' := hidle k task' hk
        rw [hholding] at htimely hidle'
        rw [hqueued] at ht
        refine ⟨k, task', g, hk, by rw [hholding]; rfl, ?_, ?_⟩
        · exact Nat.le_trans htimely.2.2.1 hafter
        · exact Nat.lt_of_lt_of_le ht hidle'
    · refine hr.busy hi hstart ?_
      rwa [LockTask.waitedUntil_eq hqueued] at ht
  · have hheld' := hheld htaken
    simpa only [if_pos hheld'] using ha.ahead htaken

/-! ## What a move does to the record -/

/-- A grant of the lock to a task: nobody holds it, and nobody else who waits
came earlier. -/
structure Granted (tasks : List LockTask) (d : Domain) (standing : Nat → Standing) (n : Nat)
    (task : LockTask) : Prop where
  none_holds {i : Nat} {task' : LockTask} {g : Instant} (hi : Contends tasks d i task') :
    standing i ≠ .holding g
  first {i : Nat} {task' : LockTask} (hi : Contends tasks d i task')
    (hqueued : standing i = .queued) : task.start ≤ task'.start

/-- Whoever was granted the lock before has left by now. -/
theorem Recorded.left_of_granted (hr : Recorded tasks d now standing)
    (hgranted : Granted tasks d standing n task) {i : Nat} {task' : LockTask} {g : Instant}
    (hi : Contends tasks d i task') (hg : (standing i).grant? = some g) :
    g + task'.hold ≤ now := by
  have ht := hr.timely hi
  cases hst : standing i with
  | coming | queued | refused => simp [hst, Standing.grant?] at hg
  | holding g' => exact absurd hst (hgranted.none_holds hi)
  | left g' =>
    rw [hst] at hg ht
    cases hg
    exact ht.2.2

/-- Whoever came before has left as well, or has given up. -/
theorem Recorded.over_of_granted (hr : Recorded tasks d now standing)
    (hgranted : Granted tasks d standing n task) (hcame : task.start ≤ now) {i : Nat}
    {task' : LockTask} (hi : Contends tasks d i task') (hstart : task'.start < task.start) :
    (∃ g, standing i = .left g ∧ g + task'.hold ≤ now) ∨
      standing i = .refused ∧ task'.expiry ≤ now := by
  have ht := hr.timely hi
  cases hst : standing i with
  | coming =>
    rw [hst] at ht
    exact absurd (Nat.lt_of_le_of_lt ht hstart) (Nat.not_lt.2 hcame)
  | queued => exact absurd hstart (Nat.not_lt.2 (hgranted.first hi hst))
  | holding g => exact absurd hst (hgranted.none_holds hi)
  | left g =>
    rw [hst] at ht
    exact .inl ⟨g, rfl, ht.2.2⟩
  | refused =>
    rw [hst] at ht
    exact .inr ⟨rfl, ht⟩

/-- **What a task has been granted when it goes on**: what it had been before, or the
lock, now. -/
def Standing.Regrants (tasks : List LockTask) (d : Domain) (standing : Nat → Standing) (n : Nat)
    (task : LockTask) (now : Instant) (st : Standing) : Prop :=
  st.grant? = (standing n).grant? ∨
    (standing n).grant? = none ∧ st.grant? = some now ∧ Granted tasks d standing n task

/-- Once granted, the lock stays so. -/
theorem Standing.Regrants.grant?_update (h : Regrants tasks d standing n task now st) {k : Nat}
    {g : Instant} (hg : (standing k).grant? = some g) :
    (Function.update standing n st k).grant? = some g := by
  by_cases hkn : k = n
  · subst hkn
    rw [Function.update_self]
    obtain hsame | ⟨hnone, -, -⟩ := h
    · rwa [hsame]
    · rw [hnone] at hg
      cases hg
  · rwa [Function.update_of_ne hkn]

/-- A grant is an old one, or the one that the task gets now. -/
theorem Standing.Regrants.cases_of_update (h : Regrants tasks d standing n task now st) {k : Nat}
    {g : Instant} (hg : (Function.update standing n st k).grant? = some g) :
    (standing k).grant? = some g ∨ k = n ∧ g = now ∧ Granted tasks d standing n task := by
  by_cases hkn : k = n
  · subst hkn
    rw [Function.update_self] at hg
    obtain hsame | ⟨-, hnow, hgranted⟩ := h
    · exact .inl (hsame ▸ hg)
    · rw [hnow] at hg
      exact .inr ⟨rfl, (Option.some.inj hg).symm, hgranted⟩
  · rw [Function.update_of_ne hkn] at hg
    exact .inl hg

theorem LockTask.Timely.start_le_of_grant? {g : Instant} (h : task.Timely now st)
    (hg : st.grant? = some g) : task.start ≤ g := by
  cases st with
  | coming | queued | refused => cases hg
  | holding g' | left g' =>
    cases hg
    exact h.1

/-- **One task goes on**, and the record does. -/
theorem Recorded.update (hr : Recorded tasks d now standing) (hn : Contends tasks d n task)
    (hopen : ¬ (standing n).IsOver) (htimely : task.Timely now st)
    (hwaited : task.waitedUntil now st = task.waitedUntil now (standing n))
    (hgrant : Standing.Regrants tasks d standing n task now st)
    (hrefused : st = .refused → Standing.Occupied tasks d standing n task.start task.expiry) :
    Recorded tasks d now (Function.update standing n st) where
  timely {i task'} hi := by
    by_cases hin : i = n
    · subst hin
      rw [Function.update_self, hi.eq hn]
      exact htimely
    · rw [Function.update_of_ne hin]
      exact hr.timely hi
  apart {i j task₁ task₂ g g'} hij hi hj hg hg' := by
    obtain hold | ⟨rfl, rfl, hgranted⟩ := hgrant.cases_of_update hg
    · obtain hold' | ⟨rfl, rfl, hgranted⟩ := hgrant.cases_of_update hg'
      · exact hr.apart hij hi hj hold hold'
      · exact .inl (hr.left_of_granted hgranted hi hold)
    · obtain hold' | ⟨rfl, -, -⟩ := hgrant.cases_of_update hg'
      · exact .inr (hr.left_of_granted hgranted hj hold')
      · exact absurd rfl hij
  inOrder {i j task₁ task₂ g'} hi hj hstart hg' := by
    by_cases hin : i = n
    · -- the task itself has not left, so nobody has been granted the lock who came later
      subst hin
      obtain hold | ⟨rfl, -, -⟩ := hgrant.cases_of_update hg'
      · obtain ⟨g, hg, -⟩ | ⟨hg, -⟩ := hr.inOrder hi hj hstart hold
        all_goals exact absurd (by rw [hg]; trivial) hopen
      · rw [hi.eq hj] at hstart
        exact absurd hstart (Nat.lt_irrefl _)
    · rw [Function.update_of_ne hin]
      obtain hold | ⟨rfl, rfl, hgranted⟩ := hgrant.cases_of_update hg'
      · exact hr.inOrder hi hj hstart hold
      · rw [Function.update_self] at hg'
        rw [hj.eq hn] at hstart
        exact hr.over_of_granted hgranted (htimely.start_le_of_grant? hg') hi hstart
  busy {i task' t} hi hstart ht := by
    refine (hr.busy hi hstart ?_).mono fun _ _ _ _ => hgrant.grant?_update
    by_cases hin : i = n
    · subst hin
      rwa [Function.update_self, hi.eq hn, hwaited, ← hi.eq hn] at ht
    · rwa [Function.update_of_ne hin] at ht
  heldUp {i task'} hi hst := by
    by_cases hin : i = n
    · subst hin
      rw [Function.update_self] at hst
      rw [hi.eq hn]
      exact (hrefused hst).mono fun _ _ _ _ => hgrant.grant?_update
    · rw [Function.update_of_ne hin] at hst
      exact (hr.heldUp hi hst).mono fun _ _ _ _ => hgrant.grant?_update

/-! ## What a move does to the line -/

/-- Whoever comes last joins at the end. -/
theorem Lined.join {line : List Nat} (h : Lined tasks d line standing)
    (hn : Contends tasks d n task) (hst : standing n ≠ .queued)
    (hlast : ∀ j ∈ line, ∀ task', Contends tasks d j task' → task'.start ≤ task.start) :
    Lined tasks d (line ++ [n]) (Function.update standing n .queued) := by
  have hout : n ∉ line := fun hmem => hst (h.mem.1 hmem).choose_spec.2
  refine ⟨fun {i} => ?_, ?_, ?_⟩
  · rw [List.mem_append, List.mem_singleton, h.mem]
    by_cases hin : i = n
    · subst hin
      simp only [Function.update_self, and_true, or_true, true_iff]
      exact ⟨task, hn⟩
    · simp [hin]
  · refine List.nodup_append.2 ⟨h.nodup, by simp, ?_⟩
    intro i hi j hj hij
    rw [List.mem_singleton] at hj
    exact hout (hj ▸ hij ▸ hi)
  · refine List.pairwise_append.2 ⟨h.sorted, by simp, ?_⟩
    intro i hi j hj task₁ task₂ hi' hj'
    rw [List.mem_singleton] at hj
    subst hj
    rw [hj'.eq hn]
    exact hlast i hi task₁ hi'

/-- Whoever waits no longer leaves, from wherever in the line. -/
theorem Lined.quit {line : List Nat} (h : Lined tasks d line standing) (hst : st ≠ .queued) :
    Lined tasks d (line.erase n) (Function.update standing n st) := by
  refine ⟨fun {i} => ?_, h.nodup.erase n, h.sorted.sublist List.erase_sublist⟩
  rw [h.nodup.mem_erase_iff, h.mem]
  by_cases hin : i = n
  · subst hin
    simp [hst]
  · simp [hin]

/-- One who does not wait is not in the line. -/
theorem Lined.erase_eq {line : List Nat} (h : Lined tasks d line standing)
    (hst : standing n ≠ .queued) : line.erase n = line :=
  List.erase_of_not_mem fun hmem => hst (h.mem.1 hmem).choose_spec.2

/-! ## Moves -/

/-- A task waits for the lock, or comes for it just now. -/
def LockTask.Waits (task : LockTask) (now : Instant) (st : Standing) : Prop :=
  st = .queued ∨ st = .coming ∧ now = task.start

namespace LockTask.Waits

theorem grant?_eq (h : task.Waits now st) : st.grant? = none := by
  obtain rfl | ⟨rfl, -⟩ := h <;> rfl

theorem not_isOver (h : task.Waits now st) : ¬ st.IsOver := by
  obtain rfl | ⟨rfl, -⟩ := h <;> exact id

theorem waitedUntil_eq (h : task.Waits now st) : task.waitedUntil now st = now := by
  obtain rfl | ⟨rfl, rfl⟩ := h <;> rfl

theorem start_le_and_le_expiry (h : task.Waits now st) (htimely : task.Timely now st) :
    task.start ≤ now ∧ now ≤ task.expiry := by
  obtain rfl | ⟨rfl, rfl⟩ := h
  · exact htimely
  · exact ⟨Nat.le_refl _, Nat.le_add_right _ _⟩

end LockTask.Waits

/-- Who is ahead of the line was granted the lock, and has it until now at
least. -/
theorem Orderly.exists_ahead (h : Orderly tasks d now lock standing) (htaken : lock.isTaken) :
    ∃ k task' g, Contends tasks d k task' ∧
      (if lock.isHeld then standing k = .holding g
        else standing k = .left g ∧ g + task'.hold = now) ∧
      (standing k).grant? = some g ∧ task'.start ≤ g ∧ g ≤ now ∧ now ≤ g + task'.hold ∧
      ∀ j ∈ lock.line, ∀ task'', Contends tasks d j task'' → task'.start ≤ task''.start := by
  obtain ⟨k, task', g, hk, hahead, hline⟩ := h.arranged.ahead htaken
  have htimely := h.recorded.timely hk
  refine ⟨k, task', g, hk, hahead, ?_⟩
  split at hahead
  · rw [hahead] at htimely ⊢
    exact ⟨rfl, htimely.1, htimely.2.2.1, htimely.2.2.2, hline⟩
  · obtain ⟨hleft, hnow⟩ := hahead
    rw [hleft] at htimely ⊢
    refine ⟨rfl, htimely.1, ?_, Nat.le_of_eq hnow.symm, hline⟩
    exact Nat.le_trans (Nat.le_add_right _ _) htimely.2.2

/-- While the lock is taken, it is by somebody who came no later than a task that
waits. -/
theorem Orderly.occupied (h : Orderly tasks d now lock standing)
    (hn : Contends tasks d n task) (hwaits : task.Waits now (standing n))
    (htaken : lock.isTaken) : Standing.Occupied tasks d standing n task.start now := by
  obtain ⟨k, task', g, hk, -, hgrant, hcame, hbefore, hafter, hline⟩ := h.exists_ahead htaken
  refine ⟨k, task', g, ?_, hk, hgrant, ?_, hbefore, hafter⟩
  · rintro rfl
    rw [hwaits.grant?_eq] at hgrant
    cases hgrant
  · obtain hst | ⟨-, hstart⟩ := hwaits
    · exact hline n (h.arranged.lined.mem.2 ⟨task, hn, hst⟩) task hn
    · exact hstart ▸ Nat.le_trans hcame hbefore

/-- Whoever gets a lock that nobody holds, and is the first in line, is granted
it. -/
theorem Orderly.granted (h : Orderly tasks d now lock standing) (hn : Contends tasks d n task)
    (hheld : lock.isHeld = false)
    (hfirst : lock.line = [] ∨ ∃ queue, lock.line = n :: queue) :
    Granted tasks d standing n task where
  none_holds hi hholding := by
    have := h.arranged.held hi hholding
    rw [hheld] at this
    cases this
  first {i task'} hi hqueued := by
    have hmem := h.arranged.lined.mem.2 ⟨task', hi, hqueued⟩
    obtain hempty | ⟨queue, hline⟩ := hfirst
    · rw [hempty] at hmem
      cases hmem
    · have hsorted := h.arranged.lined.sorted
      rw [hline] at hmem hsorted
      obtain rfl | hmem := List.mem_cons.1 hmem
      · exact Nat.le_of_eq (by rw [hi.eq hn])
      · exact List.rel_of_pairwise_cons hsorted hmem task task' hn hi

/-- One task has been granted the lock. -/
theorem Orderly.grant {queue : List Nat} (h : Orderly tasks d now lock standing)
    (hn : Contends tasks d n task) (hwaits : task.Waits now (standing n))
    (hgranted : Granted tasks d standing n task) (hline : queue = lock.line.erase n) :
    Orderly tasks d now (.held queue) (Function.update standing n (.holding now)) := by
  have honly : ∀ {i task' g}, Contends tasks d i task' →
      Function.update standing n (.holding now) i = .holding g → i = n := by
    intro i task' g hi hholding
    by_contra hin
    rw [Function.update_of_ne hin] at hholding
    exact hgranted.none_holds hi hholding
  obtain ⟨hcame, hexpiry⟩ := hwaits.start_le_and_le_expiry (h.recorded.timely hn)
  have hrecorded : Recorded tasks d now (Function.update standing n (.holding now)) :=
    h.recorded.update hn hwaits.not_isOver
      ⟨hcame, hexpiry, Nat.le_refl _, Nat.le_add_right _ _⟩ hwaits.waitedUntil_eq.symm
      (.inr ⟨hwaits.grant?_eq, rfl, hgranted⟩) (by simp)
  have hlined : Lined tasks d queue (Function.update standing n (.holding now)) := by
    rw [hline]
    exact h.arranged.lined.quit (by simp)
  refine ⟨hrecorded, hlined, fun _ _ => rfl, fun hi hj hg hg' => ?_, fun _ => ?_⟩
  · rw [honly hi hg, honly hj hg']
  · refine ⟨n, task, now, hn, by simp [Lock.isHeld], fun j hj task' hj' => ?_⟩
    obtain ⟨task'', hj'', hqueued⟩ := hlined.mem.1 hj
    have hjn : j ≠ n := by
      rintro rfl
      simp at hqueued
    rw [Function.update_of_ne hjn] at hqueued
    exact hgranted.first hj' hqueued

/-- One task waits, or waits no more, while others hold the lock. -/
theorem Orderly.wait (h : Orderly tasks d now lock standing)
    (hn : Contends tasks d n task) (hwaits : task.Waits now (standing n))
    (hst : st = .queued ∨ st = .refused ∧ now = task.expiry) (htaken : lock.isTaken)
    (hheld : lock'.isHeld = lock.isHeld)
    (hlined : Lined tasks d lock'.line (Function.update standing n st)) :
    Orderly tasks d now lock' (Function.update standing n st) := by
  have hbounds := hwaits.start_le_and_le_expiry (h.recorded.timely hn)
  have hrecorded : Recorded tasks d now (Function.update standing n st) := by
    obtain rfl | ⟨rfl, rfl⟩ := hst
    · exact h.recorded.update hn hwaits.not_isOver hbounds hwaits.waitedUntil_eq.symm
        (.inl hwaits.grant?_eq.symm) (by simp)
    · exact h.recorded.update hn hwaits.not_isOver (Nat.le_refl _) hwaits.waitedUntil_eq.symm
        (.inl hwaits.grant?_eq.symm) fun _ => h.occupied hn hwaits htaken
  have hothers : ∀ {i g}, Function.update standing n st i = .holding g →
      standing i = .holding g := by
    intro i g hholding
    by_cases hin : i = n
    · subst hin
      rw [Function.update_self] at hholding
      obtain rfl | ⟨rfl, -⟩ := hst <;> cases hholding
    · rwa [Function.update_of_ne hin] at hholding
  refine ⟨hrecorded, hlined, fun hi hg => ?_, fun hi hj hg hg' => ?_, fun _ => ?_⟩
  · rw [hheld]
    exact h.arranged.held hi (hothers hg)
  · exact h.arranged.unique hi hj (hothers hg) (hothers hg')
  · obtain ⟨k, task', g, hk, hahead, hgrant, hcame, hbefore, hafter, hline⟩ :=
      h.exists_ahead htaken
    have hkn : k ≠ n := by
      rintro rfl
      rw [hwaits.grant?_eq] at hgrant
      cases hgrant
    refine ⟨k, task', g, hk, ?_, fun j hj task'' hj' => ?_⟩
    · rwa [hheld, Function.update_of_ne hkn]
    · obtain ⟨_, _, hqueued⟩ := hlined.mem.1 hj
      by_cases hjn : j = n
      · subst hjn
        rw [hj'.eq hn]
        obtain hst | ⟨-, hstart⟩ := hwaits
        · exact hline j (h.arranged.lined.mem.2 ⟨task, hn, hst⟩) task hn
        · exact hstart ▸ Nat.le_trans hcame hbefore
      · rw [Function.update_of_ne hjn] at hqueued
        exact hline j (h.arranged.lined.mem.2 ⟨task'', hj', hqueued⟩) task'' hj'

/-- The one who holds the lock leaves it. -/
theorem Orderly.leave {g : Instant} (h : Orderly tasks d now lock standing)
    (hn : Contends tasks d n task) (hholding : standing n = .holding g)
    (hend : now = g + task.hold) :
    Orderly tasks d now lock.release (Function.update standing n (.left g)) := by
  have htimely := h.recorded.timely hn
  rw [hholding] at htimely
  have hrecorded : Recorded tasks d now (Function.update standing n (.left g)) :=
    h.recorded.update hn (by rw [hholding]; exact id)
      ⟨htimely.1, htimely.2.1, Nat.le_of_eq hend.symm⟩ (by rw [hholding]; rfl)
      (.inl (by rw [hholding]; rfl)) (by simp)
  have hheld : lock.isHeld := h.arranged.held hn hholding
  have hnone : ∀ {i task' g'}, Contends tasks d i task' →
      Function.update standing n (.left g) i ≠ .holding g' := by
    intro i task' g' hi hg'
    by_cases hin : i = n
    · subst hin
      simp at hg'
    · rw [Function.update_of_ne hin] at hg'
      exact hin (h.arranged.unique hi hn hg' hholding)
  have hlined : Lined tasks d lock.release.line (Function.update standing n (.left g)) := by
    rw [Lock.line_release, ← h.arranged.lined.erase_eq (n := n) (by simp [hholding])]
    exact h.arranged.lined.quit (by simp)
  refine ⟨hrecorded, hlined, fun hi hg => absurd hg (hnone hi),
    fun hi _ hg => absurd hg (hnone hi), fun _ => ?_⟩
  obtain ⟨k, task', g', hk, hahead, -, -, -, -, hline⟩ :=
    h.exists_ahead (Lock.isTaken_of_isHeld hheld)
  rw [if_pos hheld] at hahead
  obtain rfl := h.arranged.unique hk hn hahead hholding
  refine ⟨k, task', g, hk, ?_, ?_⟩
  · rw [if_neg (by simp [Lock.isHeld_release hheld]), Function.update_self, hk.eq hn]
    exact ⟨rfl, hend.symm⟩
  · rwa [Lock.line_release]

/-- **Every move keeps the tasks on the domain in order.** -/
theorem Orderly.move (h : Orderly tasks d now lock standing) (hn : Contends tasks d n task)
    (hmove : task.Move n now (standing n) lock st lock') :
    Orderly tasks d now lock' (Function.update standing n st) := by
  have hlined := h.arranged.lined
  generalize hst : standing n = st₀ at hmove
  cases hmove with
  | enter hstart hfree =>
    have hline := Lock.line_of_not_isTaken hfree
    have hheld := Lock.not_isHeld_of_not_isTaken hfree
    exact h.grant hn (.inr ⟨hst, hstart⟩) (h.granted hn hheld (.inl hline)) (by rw [hline]; rfl)
  | queue hstart htaken =>
    refine h.wait hn (.inr ⟨hst, hstart⟩) (.inl rfl) htaken Lock.isHeld_enqueue_eq ?_
    rw [Lock.line_enqueue htaken]
    refine hlined.join hn (by simp [hst]) fun j hj task' hj' => ?_
    obtain ⟨_, _, hqueued⟩ := hlined.mem.1 hj
    have htimely := h.recorded.timely hj'
    rw [hqueued] at htimely
    exact hstart ▸ htimely.1
  | refuse hstart htaken htimeout =>
    refine h.wait hn (.inr ⟨hst, hstart⟩) (.inr ⟨rfl, ?_⟩) htaken rfl ?_
    · rw [hstart, LockTask.expiry, htimeout, Nat.add_zero]
    · rw [← hlined.erase_eq (n := n) (by simp [hst])]
      exact hlined.quit (by simp)
  | inherit hheir =>
    obtain ⟨queue, hline, hsettle⟩ := Lock.exists_line_eq_of_isHandedTo hheir
    have hheld := Lock.not_isHeld_of_isHandedTo hheir
    rw [hsettle]
    exact h.grant hn (.inl hst) (h.granted hn hheld (.inr ⟨queue, hline⟩)) (by simp [hline])
  | giveUp hheir hexpiry =>
    have htaken := Lock.isTaken_of_mem_line (hlined.mem.2 ⟨task, hn, hst⟩)
    refine h.wait hn (.inl hst) (.inr ⟨rfl, hexpiry⟩) htaken (Lock.isHeld_settle_eq hheir) ?_
    rw [Lock.line_settle]
    exact hlined.quit (by simp)
  | leave hend => exact h.leave hn hst hend

end

end CloudOrchestration
