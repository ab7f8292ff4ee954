import CloudOrchestration.Proofs.Schedule.Contention
/-!
# The locks are fair

Any number of tasks come for the locks, wait, give up and release in any order.
When all have ended, each had the lock of its domain once or failed at its
expiry, and `Schedule.Fair` says how they shared the locks: one at a time, in
the order in which they came but for those who had given up, and never free
while one of them waited. So whoever gives up neither delays those behind nor
takes a turn of theirs.

It holds whichever of several strands acts first whose instants are equal.
-/

namespace CloudOrchestration

open Workflow

variable {σ Q R : Type} {server : Server σ Q R}

namespace Schedule

variable {tasks : List LockTask} {standing : Nat → Standing} {s : Schedule σ Q R Unit} {x : σ}
variable {i : Nat} {task : LockTask} {g : Instant}

/-- **A task had the lock** from an instant on: it was granted the lock then and
at no other time, released it after its span, and ended. -/
structure Held (s : Schedule σ Q R Unit) (i : Nat) (task : LockTask) (g : Instant) : Prop where
  grants : s.grants i = [g]
  releases : s.releases i = [g + task.hold]
  ended : s.strands[i]? = some (.ended (g + task.hold) (.ok ()))

/-- **A task failed at its expiry** and never had the lock. -/
structure TimedOut (s : Schedule σ Q R Unit) (i : Nat) (task : LockTask) : Prop where
  grants : s.grants i = []
  releases : s.releases i = []
  ended : s.strands[i]? =
    some (.ended task.expiry (.error (.lockTimeout (.busy task.domain task.timeout))))

/-- **How tasks have shared the locks.** -/
structure Fair (tasks : List LockTask) (s : Schedule σ Q R Unit) : Prop where
  /-- Each had the lock once, between its start and its expiry, or timed out. -/
  ends {i : Nat} {task : LockTask} (hi : tasks[i]? = some task) :
    (∃ g, s.Held i task g ∧ task.start ≤ g ∧ g ≤ task.expiry) ∨ s.TimedOut i task
  /-- It timed out if and only if it was not granted the lock by its expiry. -/
  timedOut_iff {i : Nat} {task : LockTask} (hi : tasks[i]? = some task) :
    s.TimedOut i task ↔ ¬ ∃ g ∈ s.grants i, g ≤ task.expiry
  /-- No two had the lock of a domain at a time. -/
  apart {i j : Nat} {task task' : LockTask} {g g' : Instant} (hij : i ≠ j)
    (hi : tasks[i]? = some task) (hj : tasks[j]? = some task')
    (hdomain : task.domain = task'.domain) (hg : s.Held i task g) (hg' : s.Held j task' g') :
    g + task.hold ≤ g' ∨ g' + task'.hold ≤ g
  /-- Whoever came before one that had the lock had left by then, or had timed
  out. -/
  inOrder {i j : Nat} {task task' : LockTask} {g' : Instant} (hi : tasks[i]? = some task)
    (hj : tasks[j]? = some task') (hdomain : task.domain = task'.domain)
    (hstart : task.start < task'.start) (hg' : s.Held j task' g') :
    (∃ g, s.Held i task g ∧ g + task.hold ≤ g') ∨ s.TimedOut i task ∧ task.expiry ≤ g'
  /-- While one waited, another had the lock that was granted it in the end. -/
  neverIdle {i : Nat} {task : LockTask} {t : Instant} (hi : tasks[i]? = some task)
    (hstart : task.start ≤ t) (hgrant : ∀ g ∈ s.grants i, t < g) (hexpiry : t < task.expiry) :
    ∃ (k : Nat) (task' : LockTask) (g : Instant), tasks[k]? = some task' ∧
      task'.domain = task.domain ∧ s.Held k task' g ∧ g ≤ t ∧ t < g + task'.hold
  /-- One timed out only because another that came no later had the lock, if only
  up to that instant. -/
  heldUp {i : Nat} {task : LockTask} (hi : tasks[i]? = some task) (hfailed : s.TimedOut i task) :
    ∃ (k : Nat) (task' : LockTask) (g : Instant), k ≠ i ∧ tasks[k]? = some task' ∧
      task'.domain = task.domain ∧ s.Held k task' g ∧ task'.start ≤ task.start ∧
      g ≤ task.expiry ∧ task.expiry ≤ g + task'.hold
  /-- In the end all locks are free. -/
  unlocked (d : Domain) : s.world.locks d = .free

/-! ## Standings at the end -/

/-- A task whose strand has ended is done with the lock. -/
theorem Contending.left_or_refused (h : Contending tasks standing s) (hended : s.HasEnded)
    (hi : tasks[i]? = some task) :
    (∃ g, standing i = .left g ∧ s.Held i task g) ∨
      standing i = .refused ∧ s.TimedOut i task := by
  obtain ⟨strand, hstrand, hat, -⟩ := h.strand hi
  have hgrants := h.grants hi
  have hreleases := h.releases hi
  obtain ⟨t, o, rfl⟩ := Strand.hasEnded_iff.1 (hended strand (List.mem_of_getElem? hstrand))
  generalize standing i = st at hat hgrants hreleases
  cases hat with
  | failed => exact .inr ⟨rfl, hgrants, hreleases, hstrand⟩
  | returned g => exact .inl ⟨g, rfl, hgrants, hreleases, hstrand⟩

theorem Contending.held_iff (h : Contending tasks standing s) (hended : s.HasEnded)
    (hi : tasks[i]? = some task) : s.Held i task g ↔ standing i = .left g := by
  obtain ⟨g', hst, hheld⟩ | ⟨hst, hfailed⟩ := h.left_or_refused hended hi
  · refine ⟨fun hg => ?_, fun hg => ?_⟩
    · have heq : [g'] = [g] := hheld.grants.symm.trans hg.grants
      simp_all
    · rw [hst] at hg
      cases hg
      exact hheld
  · refine ⟨fun hg => ?_, fun hg => ?_⟩
    · have heq : [] = [g] := hfailed.grants.symm.trans hg.grants
      cases heq
    · rw [hst] at hg
      cases hg

theorem Contending.timedOut_iff (h : Contending tasks standing s) (hended : s.HasEnded)
    (hi : tasks[i]? = some task) : s.TimedOut i task ↔ standing i = .refused := by
  obtain ⟨g, hst, hheld⟩ | ⟨hst, hfailed⟩ := h.left_or_refused hended hi
  · refine ⟨fun hfailed => ?_, fun hrefused => ?_⟩
    · have heq : [] = [g] := hfailed.grants.symm.trans hheld.grants
      cases heq
    · rw [hst] at hrefused
      cases hrefused
  · exact iff_of_true hfailed hst

/-- Whoever was granted the lock has had it. -/
theorem Contending.held_of_grant? (h : Contending tasks standing s) (hended : s.HasEnded)
    (hi : tasks[i]? = some task) (hg : (standing i).grant? = some g) : s.Held i task g := by
  obtain ⟨g', hst, hheld⟩ | ⟨hst, -⟩ := h.left_or_refused hended hi
  · rw [hst] at hg
    cases hg
    exact hheld
  · rw [hst] at hg
    cases hg

/-- **Where all tasks are done, they have shared the locks fairly.** -/
theorem Contending.fair (h : Contending tasks standing s) (hended : s.HasEnded) :
    s.Fair tasks := by
  have hrecorded := fun d => (h.orderly d).recorded
  have htimely : ∀ {i task g}, tasks[i]? = some task → s.Held i task g →
      task.start ≤ g ∧ g ≤ task.expiry := by
    intro i task g hi hg
    have ht := (hrecorded task.domain).timely ⟨hi, rfl⟩
    rw [(h.held_iff hended hi).1 hg] at ht
    exact ⟨ht.1, ht.2.1⟩
  have hends : ∀ {i task}, tasks[i]? = some task →
      (∃ g, s.Held i task g ∧ task.start ≤ g ∧ g ≤ task.expiry) ∨ s.TimedOut i task := by
    intro i task hi
    obtain ⟨g, -, hheld⟩ | ⟨-, hfailed⟩ := h.left_or_refused hended hi
    · exact .inl ⟨g, hheld, htimely hi hheld⟩
    · exact .inr hfailed
  refine ⟨hends, fun {i task} hi => ?_, fun {i j task task' g g'} hij hi hj hdomain hg hg' => ?_,
    fun {i j task task' g'} hi hj hdomain hstart hg' => ?_,
    fun {i task t} hi hstart hgrant hexpiry => ?_, fun {i task} hi hfailed => ?_, fun d => ?_⟩
  · refine ⟨fun hfailed => by simp [hfailed.grants], fun hnone => ?_⟩
    obtain ⟨g, hheld, -, hle⟩ | hfailed := hends hi
    · exact absurd ⟨g, by simp [hheld.grants], hle⟩ hnone
    · exact hfailed
  · rw [h.held_iff hended hi] at hg
    rw [h.held_iff hended hj] at hg'
    exact (hrecorded _).apart hij ⟨hi, hdomain⟩ ⟨hj, rfl⟩ (by rw [hg]; rfl) (by rw [hg']; rfl)
  · rw [h.held_iff hended hj] at hg'
    have hbefore := (hrecorded _).inOrder ⟨hi, hdomain⟩ ⟨hj, rfl⟩ hstart
      (show (standing j).grant? = some g' by rw [hg']; rfl)
    obtain ⟨g, hg, hle⟩ | ⟨hrefused, hle⟩ := hbefore
    · exact .inl ⟨g, (h.held_iff hended hi).2 hg, hle⟩
    · exact .inr ⟨(h.timedOut_iff hended hi).2 hrefused, hle⟩
  · have hwaited : t < task.waitedUntil s.world.clock (standing i) := by
      obtain ⟨g, hst, hheld⟩ | ⟨hst, -⟩ := h.left_or_refused hended hi
      · rw [hst]
        exact hgrant g (by simp [hheld.grants])
      · rw [hst]
        exact hexpiry
    obtain ⟨k, task', g, hk, hg, hspan⟩ := (hrecorded _).busy ⟨hi, rfl⟩ hstart hwaited
    exact ⟨k, task', g, hk.1, hk.2, h.held_of_grant? hended hk.1 hg, hspan⟩
  · obtain ⟨k, task', g, hki, hk, hg, hspan⟩ :=
      (hrecorded _).heldUp ⟨hi, rfl⟩ ((h.timedOut_iff hended hi).1 hfailed)
    exact ⟨k, task', g, hki, hk.1, hk.2, h.held_of_grant? hended hk.1 hg, hspan⟩
  · refine (h.orderly d).arranged.eq_free fun i task hi => ?_
    obtain ⟨g, hst, -⟩ | ⟨hst, -⟩ := h.left_or_refused hended hi.1
    · rw [hst]
      trivial
    · rw [hst]
      trivial

/-- A lock for which a strand waits is not free. -/
theorem Contending.locks_ne_free {d : Domain} {expiry : Instant}
    {next : Bool → Workflow Q R Unit} (h : Contending tasks standing s)
    (hwaiting : s.strands[i]? = some (.waiting d expiry next)) : s.world.locks d ≠ .free := by
  have hlt : i < s.strands.length := (List.getElem?_eq_some_iff.1 hwaiting).1
  obtain ⟨task, hi⟩ : ∃ task, tasks[i]? = some task :=
    ⟨_, List.getElem?_eq_getElem (h.length ▸ hlt)⟩
  obtain ⟨strand, hstrand, hat, -⟩ := h.strand hi
  rw [hwaiting] at hstrand
  cases hstrand
  generalize hst : standing i = st at hat
  cases hat with
  | waiting =>
    have hmem := (h.orderly task.domain).arranged.lined.mem.2 ⟨task, ⟨hi, rfl⟩, hst⟩
    intro hfree
    rw [hfree] at hmem
    cases hmem

/-- **The locks are fair** to any tasks, in whatever order strands act whose
instants are equal: the tasks all end, have then shared the locks fairly, and on
the way no lock is free for which one of them waits. -/
theorem tasks_share_fairly (server : Server σ Q R) (x : σ) (tasks : List LockTask) :
    Inevitably server (Completes server (contention x tasks)) (contention x tasks) ∧
    (∀ s, Completes server (contention x tasks) s → s.Fair tasks) ∧
    ∀ s, Unfolds server (contention x tasks) s →
      ∀ (i : Nat) (d : Domain) (expiry : Instant) (next : Bool → Workflow Q R Unit),
        s.strands[i]? = some (.waiting d expiry next) → s.world.locks d ≠ .free := by
  refine ⟨Unfolds.start.inevitably_completes, fun s hs => ?_, fun s hs i d expiry next => ?_⟩
  · obtain ⟨standing, h⟩ := hs.unfolds.contending
    exact h.fair hs.hasEnded
  · obtain ⟨standing, h⟩ := hs.contending
    exact h.locks_ne_free

/-- A lock that is held for long, and five that come meanwhile: the second gives
up in the middle of the queue, the last at once, and the fifth is for another
lock. -/
def rush : List LockTask := [
  { start := 0, domain := .general, timeout := 0, hold := 100 },
  { start := 10, domain := .general, timeout := 200, hold := 30 },
  { start := 20, domain := .general, timeout := 50, hold := 10 },
  { start := 30, domain := .general, timeout := 200, hold := 5 },
  { start := 40, domain := .network, timeout := 0, hold := 7 },
  { start := 50, domain := .general, timeout := 0, hold := 1 }]

/-- A server that is never asked. -/
def unasked : Server Unit Unit Unit := fun s _ => ⟨s, 0, ()⟩

/-- The tasks, when they have ended. -/
def rushed : Schedule Unit Unit Unit Unit := (contention () rush).advance unasked 60

/-- They have been granted their locks one after another, and shared them
fairly. -/
theorem rushed_fairly : (List.range 6).map rushed.grants = [[0], [100], [], [130], [40], []] ∧
    rushed.TimedOut 2 ⟨20, .general, 50, 10⟩ ∧ rushed.Fair rush := by
  have hunfolds : Unfolds unasked (contention () rush) rushed := Unfolds.start.advance 60
  have hended : rushed.HasEnded := by decide +kernel
  have hfair : rushed.Fair rush := (tasks_share_fairly unasked () rush).2.1 _ ⟨hunfolds, hended⟩
  have hgrants : rushed.grants 2 = [] := by decide +kernel
  refine ⟨by decide +kernel, ?_, hfair⟩
  exact (hfair.timedOut_iff rfl).2 (by simp [hgrants])

end Schedule

end CloudOrchestration
