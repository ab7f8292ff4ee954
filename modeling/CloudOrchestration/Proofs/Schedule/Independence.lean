import CloudOrchestration.Proofs.Schedule.Fairness
import Mathlib.Data.List.NodupEquivFin
/-!
# Lock domains are independent

Where the instants of the tasks on a domain do not coincide, what becomes of one
of them is determined by those that came before it on the same domain: it is
granted the lock as soon as all of them have left, unless that is after its
expiry (`Fair.isLeast_of_held`, `Fair.not_left_of_timedOut`). So by induction on
the starts two schedules with the same tasks on a domain agree on them, whatever
tasks either has on other domains (`Fair.held_of_same`).
-/

namespace CloudOrchestration

open Workflow

variable {σ σ' Q R : Type}

namespace Schedule

variable {tasks tasks' : List LockTask} {d : Domain} {i j n : Nat} {task : LockTask} {g t : Instant}
variable {s : Schedule σ Q R Unit} {s' : Schedule σ' Q R Unit}

/-- The instants that matter of a task on a domain: it comes, its time is up, it
releases the lock. -/
def moments (d : Domain) (tasks : List LockTask) (s : Schedule σ Q R Unit) (i : Nat) :
    List Instant :=
  match tasks[i]? with
  | some task => if task.domain = d then task.start :: task.expiry :: s.releases i else []
  | none => []

/-- **No two moments coincide** of different tasks on a domain. -/
def Untied (d : Domain) (tasks : List LockTask) (s : Schedule σ Q R Unit) : Prop :=
  ∀ i < tasks.length, ∀ j < tasks.length, i ≠ j →
    ∀ t ∈ s.moments d tasks i, t ∉ s.moments d tasks j

instance : Decidable (s.Untied d tasks) :=
  have (i j : Nat) : Decidable (∀ t ∈ s.moments d tasks i, t ∉ s.moments d tasks j) :=
    inferInstance
  inferInstanceAs (Decidable (∀ i < tasks.length, ∀ j < tasks.length, i ≠ j → _))

/-- Different tasks on a domain come at different instants. -/
def Distinct (d : Domain) (tasks : List LockTask) : Prop :=
  ∀ {i j : Nat} {task task' : LockTask}, Contends tasks d i task → Contends tasks d j task' →
    task.start = task'.start → i = j

/-- By an instant all have left the lock that came before another. -/
def Left (d : Domain) (tasks : List LockTask) (start t : Instant) (s : Schedule σ Q R Unit) :
    Prop :=
  ∀ k task g, Contends tasks d k task → task.start < start → s.Held k task g → g + task.hold ≤ t

theorem Held.eq {g' : Instant} (h : s.Held i task g) (h' : s.Held i task g') : g = g' := by
  have heq : [g] = [g'] := h.grants.symm.trans h'.grants
  simpa using heq

theorem TimedOut.not_held (h : s.TimedOut i task) : ¬ s.Held i task g := by
  intro hg
  have heq : [] = [g] := h.grants.symm.trans hg.grants
  cases heq

theorem Untied.ne {task' : LockTask} (h : s.Untied d tasks) (hij : i ≠ j)
    (hi : Contends tasks d i task) (hj : Contends tasks d j task')
    (ht : t ∈ task.start :: task.expiry :: s.releases i) :
    t ∉ task'.start :: task'.expiry :: s.releases j := by
  have hne := h i (List.getElem?_eq_some_iff.1 hi.1).1 j (List.getElem?_eq_some_iff.1 hj.1).1 hij t
  simp only [moments, hi.1, hi.2, hj.1, hj.2, if_true] at hne
  exact hne ht

theorem Untied.distinct (h : s.Untied d tasks) : Distinct d tasks := by
  intro i j task task' hi hj hstart
  by_contra hij
  exact h.ne hij hi hj List.mem_cons_self (hstart ▸ List.mem_cons_self)

/-! ## One task after those before it -/

/-- **A task has the lock as soon as all have left that came before.** -/
theorem Fair.isLeast_of_held (h : s.Fair tasks) (hdistinct : Distinct d tasks)
    (hi : Contends tasks d i task) (hg : s.Held i task g) :
    s.Left d tasks task.start g ∧ ∀ t, task.start ≤ t → s.Left d tasks task.start t → g ≤ t := by
  have hle : g ≤ task.expiry := by
    obtain ⟨g', hg', -, hle⟩ | hfailed := h.ends hi.1
    · exact hg.eq hg' ▸ hle
    · exact absurd hg hfailed.not_held
  refine ⟨fun k task' g' hk hstart hg' => ?_, fun t hstart hleft => Nat.le_of_not_lt fun hlt => ?_⟩
  · obtain ⟨g'', hg'', hend⟩ | ⟨hfailed, -⟩ :=
      h.inOrder hk.1 hi.1 (hk.2.trans hi.2.symm) hstart hg
    · exact hg'.eq hg'' ▸ hend
    · exact absurd hg' hfailed.not_held
  · -- another holds the lock at that instant, and came neither before nor after
    have hwaits : ∀ g' ∈ s.grants i, t < g' := by simpa [hg.grants] using hlt
    obtain ⟨k, task', g', hk, hdomain, hg', hle', hend⟩ :=
      h.neverIdle hi.1 hstart hwaits (Nat.lt_of_lt_of_le hlt hle)
    have hk' : Contends tasks d k task' := ⟨hk, hdomain.trans hi.2⟩
    rcases Nat.lt_trichotomy task'.start task.start with hbefore | hsame | hafter
    · exact absurd hend (Nat.not_lt.2 (hleft k task' g' hk' hbefore hg'))
    · obtain rfl := hdistinct hk' hi hsame
      obtain rfl := hi.eq hk'
      rw [hg.eq hg'] at hlt
      exact absurd hlt (Nat.not_lt.2 hle')
    · obtain ⟨g'', hg'', hend'⟩ | ⟨hfailed, -⟩ :=
        h.inOrder hi.1 hk hdomain.symm hafter hg'
      · rw [← hg.eq hg''] at hend'
        have hgt : g ≤ t := Nat.le_trans (Nat.le_add_right _ _) (Nat.le_trans hend' hle')
        exact absurd hlt (Nat.not_lt.2 hgt)
      · exact absurd hg hfailed.not_held

/-- **A task that times out** does so before all have left that came before,
unless one of them leaves at that very instant. -/
theorem Fair.not_left_of_timedOut (h : s.Fair tasks) (hdistinct : Distinct d tasks)
    (hi : Contends tasks d i task) (hfailed : s.TimedOut i task)
    (hne : ∀ k task' g, Contends tasks d k task' → task'.start < task.start →
      s.Held k task' g → g + task'.hold ≠ task.expiry) (ht : t ≤ task.expiry) :
    ¬ s.Left d tasks task.start t := by
  intro hleft
  obtain ⟨k, task', g, hki, hk, hdomain, hg, hstart, -, hend⟩ := h.heldUp hi.1 hfailed
  have hk' : Contends tasks d k task' := ⟨hk, hdomain.trans hi.2⟩
  have hbefore : task'.start < task.start :=
    Nat.lt_of_le_of_ne hstart fun hsame => hki (hdistinct hk' hi hsame)
  have hlt : task.expiry < g + task'.hold :=
    Nat.lt_of_le_of_ne hend (hne k task' g hk' hbefore hg).symm
  exact absurd (hleft k task' g hk' hbefore hg) (Nat.not_le.2 (Nat.lt_of_le_of_lt ht hlt))

/-! ## Two schedules -/

/-- The tasks on a domain are the same. -/
def SameOn (d : Domain) (tasks tasks' : List LockTask) : Prop :=
  ∀ {task : LockTask}, task.domain = d → (task ∈ tasks ↔ task ∈ tasks')

/-- Where two schedules agree on those that came before, a task that has the lock
in one of them has it in the other, at the same instant. -/
theorem Fair.held_of_left (h : s.Fair tasks) (h' : s'.Fair tasks')
    (hdistinct : Distinct d tasks) (hdistinct' : Distinct d tasks')
    (hi : Contends tasks d i task) (hj : Contends tasks' d j task)
    (hne : ∀ k task' g, Contends tasks' d k task' → task'.start < task.start →
      s'.Held k task' g → g + task'.hold ≠ task.expiry)
    (hleft : ∀ t, s.Left d tasks task.start t ↔ s'.Left d tasks' task.start t)
    (hg : s.Held i task g) : s'.Held j task g := by
  obtain ⟨hfree, hleast⟩ := h.isLeast_of_held hdistinct hi hg
  have hbounds : task.start ≤ g ∧ g ≤ task.expiry := by
    obtain ⟨g', hg', hbounds⟩ | hfailed := h.ends hi.1
    · exact hg.eq hg' ▸ hbounds
    · exact absurd hg hfailed.not_held
  obtain ⟨g', hg', hstart, -⟩ | hfailed := h'.ends hj.1
  · obtain ⟨hfree', hleast'⟩ := h'.isLeast_of_held hdistinct' hj hg'
    have hgg' : g ≤ g' := hleast g' hstart ((hleft g').2 hfree')
    have hg'g : g' ≤ g := hleast' g hbounds.1 ((hleft g).1 hfree)
    rwa [Nat.le_antisymm hgg' hg'g]
  · exact absurd ((hleft g).1 hfree)
      (h'.not_left_of_timedOut hdistinct' hj hfailed hne hbounds.2)

/-- Nobody who came before leaves the lock just when the time of a task runs out. -/
theorem Untied.release_ne_expiry (huntied : s.Untied d tasks) (hi : Contends tasks d i task)
    {k : Nat} {task' : LockTask} (hk : Contends tasks d k task')
    (hstart : task'.start < task.start) (hg : s.Held k task' g) :
    g + task'.hold ≠ task.expiry := by
  intro heq
  have hki : k ≠ i := by
    rintro rfl
    rw [hk.eq hi] at hstart
    exact Nat.lt_irrefl _ hstart
  refine huntied.ne hki hk hi (t := g + task'.hold) ?_ ?_
  · simp [hg.releases]
  · simp [heq]

/-- **Schedules with the same tasks on a domain agree on them**, by induction on
their starts. -/
theorem Fair.held_iff_of_sameOn (h : s.Fair tasks) (h' : s'.Fair tasks')
    (huntied : s.Untied d tasks) (hdistinct' : Distinct d tasks')
    (hsame : SameOn d tasks tasks') (hi : Contends tasks d i task)
    (hj : Contends tasks' d j task) : s.Held i task g ↔ s'.Held j task g := by
  induction hn : task.start using Nat.strongRecOn generalizing i j task g with
  | _ n ih =>
    subst hn
    have hdistinct : Distinct d tasks := huntied.distinct
    -- who came before stands at some place in either schedule, and had the lock alike
    have hbefore : ∀ {k task'}, Contends tasks d k task' → task'.start < task.start →
        ∃ k', Contends tasks' d k' task' ∧ ∀ g, s.Held k task' g ↔ s'.Held k' task' g := by
      intro k task' hk hstart
      obtain ⟨k', hk'⟩ := List.getElem?_of_mem ((hsame hk.2).1 (List.mem_of_getElem? hk.1))
      exact ⟨k', ⟨hk', hk.2⟩, fun g => ih _ hstart hk ⟨hk', hk.2⟩ rfl⟩
    have hbefore' : ∀ {k' task'}, Contends tasks' d k' task' → task'.start < task.start →
        ∃ k, Contends tasks d k task' ∧ ∀ g, s.Held k task' g ↔ s'.Held k' task' g := by
      intro k' task' hk' hstart
      obtain ⟨k, hk⟩ := List.getElem?_of_mem ((hsame hk'.2).2 (List.mem_of_getElem? hk'.1))
      exact ⟨k, ⟨hk, hk'.2⟩, fun g => ih _ hstart ⟨hk, hk'.2⟩ hk' rfl⟩
    have hleft : ∀ t, s.Left d tasks task.start t ↔ s'.Left d tasks' task.start t := by
      intro t
      constructor
      · intro hall k' task' g hk' hstart hg
        obtain ⟨k, hk, hiff⟩ := hbefore' hk' hstart
        exact hall k task' g hk hstart ((hiff g).2 hg)
      · intro hall k task' g hk hstart hg
        obtain ⟨k', hk', hiff⟩ := hbefore hk hstart
        exact hall k' task' g hk' hstart ((hiff g).1 hg)
    have hne : ∀ k task' g, Contends tasks d k task' → task'.start < task.start →
        s.Held k task' g → g + task'.hold ≠ task.expiry := fun _ _ _ hk hstart hg =>
      huntied.release_ne_expiry hi hk hstart hg
    have hne' : ∀ k task' g, Contends tasks' d k task' → task'.start < task.start →
        s'.Held k task' g → g + task'.hold ≠ task.expiry := by
      intro k' task' g hk' hstart hg
      obtain ⟨k, hk, hiff⟩ := hbefore' hk' hstart
      exact hne k task' g hk hstart ((hiff g).2 hg)
    constructor
    · exact h.held_of_left h' hdistinct hdistinct' hi hj hne' hleft
    · exact h'.held_of_left h hdistinct' hdistinct hj hi hne fun t => (hleft t).symm

/-- **Two tasks of two schedules have the same outcome**: the same grant, the same
release, and the same end at the same instant. -/
def SameOutcome (s : Schedule σ Q R Unit) (i : Nat) (s' : Schedule σ' Q R Unit) (j : Nat) : Prop :=
  s.grants i = s'.grants j ∧ s.releases i = s'.releases j ∧ s.strands[i]? = s'.strands[j]?

theorem SameOutcome.of_held (h : s.Held i task g) (h' : s'.Held j task g) :
    SameOutcome s i s' j :=
  ⟨h.grants.trans h'.grants.symm, h.releases.trans h'.releases.symm, h.ended.trans h'.ended.symm⟩

theorem SameOutcome.of_timedOut (h : s.TimedOut i task) (h' : s'.TimedOut j task) :
    SameOutcome s i s' j :=
  ⟨h.grants.trans h'.grants.symm, h.releases.trans h'.releases.symm, h.ended.trans h'.ended.symm⟩

/-- Tasks that had the lock alike had the same outcome. -/
theorem Fair.sameOutcome (h : s.Fair tasks) (h' : s'.Fair tasks') (hi : tasks[i]? = some task)
    (hj : tasks'[j]? = some task) (hiff : ∀ g, s.Held i task g ↔ s'.Held j task g) :
    SameOutcome s i s' j := by
  obtain ⟨g, hg, -⟩ | hfailed := h.ends hi
  · exact .of_held hg ((hiff g).1 hg)
  · obtain ⟨g, hg, -⟩ | hfailed' := h'.ends hj
    · exact absurd ((hiff g).2 hg) hfailed.not_held
    · exact .of_timedOut hfailed hfailed'

/-- The tasks on a domain by themselves come at different instants if they do
among all tasks. -/
theorem Distinct.filter (h : Distinct d tasks) :
    Distinct d (tasks.filter (·.domain = d)) := by
  obtain ⟨f, hf⟩ := List.sublist_iff_exists_orderEmbedding_getElem?_eq.1
    (List.filter_sublist (l := tasks) (p := (·.domain = d)))
  intro i j task task' hi hj hstart
  have hi' : Contends tasks d (f i) task := ⟨hf i ▸ hi.1, hi.2⟩
  have hj' : Contends tasks d (f j) task' := ⟨hf j ▸ hj.1, hj.2⟩
  exact f.injective (h hi' hj' hstart)

/-- **Lock domains do not interfere.** Let any tasks end, among which no two
moments coincide of those on one domain. Where the tasks on that domain start by
themselves, each of them is there and has the same outcome: it is granted the
lock at the same instant and ends at the same instant, or it times out in either
case. -/
theorem domains_are_independent {server : Server σ Q R} {server' : Server σ' Q R} {x : σ} {x' : σ'}
    (hs : Completes server (contention x tasks) s) (huntied : s.Untied d tasks)
    (hs' : Completes server' (contention x' (tasks.filter (·.domain = d))) s')
    (hi : Contends tasks d i task) :
    (∃ j : Nat, (tasks.filter (·.domain = d))[j]? = some task) ∧
    ∀ j : Nat, (tasks.filter (·.domain = d))[j]? = some task → SameOutcome s i s' j := by
  have hsame : SameOn d tasks (tasks.filter (·.domain = d)) := by
    intro task hdomain
    simp [hdomain]
  refine ⟨List.getElem?_of_mem ((hsame hi.2).1 (List.mem_of_getElem? hi.1)), fun j hj => ?_⟩
  obtain ⟨standing, hstanding⟩ := hs.unfolds.contending
  obtain ⟨standing', hstanding'⟩ := hs'.unfolds.contending
  have hfair : s.Fair tasks := hstanding.fair hs.hasEnded
  have hfair' : s'.Fair (tasks.filter (·.domain = d)) := hstanding'.fair hs'.hasEnded
  refine hfair.sameOutcome hfair' hi.1 hj fun g => ?_
  exact hfair.held_iff_of_sameOn hfair' huntied (Distinct.filter huntied.distinct) hsame hi
    ⟨hj, hi.2⟩

/-- The tasks of the rush on the general domain, by themselves. -/
def rushedAlone : Schedule Unit Unit Unit Unit :=
  (contention () (rush.filter (·.domain = .general))).advance unasked 60

/-- One of them is granted the lock at the same instant in either case, and the
last, whose number is another by themselves, times out in either case. -/
theorem rushed_independently : rushed.Untied .general rush ∧
    rushed.grants 3 = [130] ∧ SameOutcome rushed 3 rushedAlone 3 ∧
    rushed.grants 5 = [] ∧ SameOutcome rushed 5 rushedAlone 4 := by
  have hs : Completes unasked (contention () rush) rushed :=
    ⟨Unfolds.start.advance 60, by decide +kernel⟩
  have hs' : Completes unasked (contention () (rush.filter (·.domain = .general))) rushedAlone :=
    ⟨Unfolds.start.advance 60, by decide +kernel⟩
  have huntied : rushed.Untied .general rush := by decide +kernel
  refine ⟨huntied, by decide +kernel, ?_, by decide +kernel, ?_⟩
  · exact (domains_are_independent hs huntied hs' (i := 3) ⟨rfl, rfl⟩).2 3 rfl
  · exact (domains_are_independent hs huntied hs' (i := 5) ⟨rfl, rfl⟩).2 4 rfl

end Schedule

end CloudOrchestration
