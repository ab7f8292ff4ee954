import CloudOrchestration.Proofs.Schedule.Contenders
import CloudOrchestration.Proofs.Schedule.Unfolding
/-!
# Tasks that contend for the locks

Any number of tasks start together on free locks: each sleeps until its start,
holds the lock of its domain over a sleep, and ends. Strands and standings
belong together (`LockTask.At`): the action of a strand is a move of its task
or none (`LockTask.At.act`). So in whatever schedule unfolds, the tasks on each
domain are in order, and the log tells where each of them stands
(`Schedule.Contending`).
-/

namespace CloudOrchestration

open Workflow

variable {σ Q R : Type} {server : Server σ Q R}

/-! ## What the log tells about locks -/

namespace Happening

def isGrant : Happening Q R → Bool
  | acquired _ => true
  | asked _ _ _ | slept _ | queued _ _ | refused _ | released _ => false

def isRelease : Happening Q R → Bool
  | released _ => true
  | asked _ _ _ | slept _ | queued _ _ | acquired _ | refused _ => false

end Happening

namespace Schedule

variable {α : Type}

/-- When something of a kind happened in the strand of a number. -/
def instantsOf (kind : Happening Q R → Bool) (log : List (Event Q R)) (n : Nat) : List Instant :=
  log.filterMap fun e => if e.strand = n && kind e.happening then some e.instant else none

/-- When the strand of a number was granted a lock. -/
def grants (s : Schedule σ Q R α) (n : Nat) : List Instant := instantsOf Happening.isGrant s.log n

/-- When the strand of a number released a lock. -/
def releases (s : Schedule σ Q R α) (n : Nat) : List Instant :=
  instantsOf Happening.isRelease s.log n

variable {kind : Happening Q R → Bool} {log : List (Event Q R)} {n i : Nat} {instant : Instant}
variable {happening : Option (Happening Q R)}

/-- What an action adds for its own strand. -/
theorem instantsOf_act_self :
    instantsOf kind (log ++ (happening.map (⟨instant, n, ·⟩)).toList) n =
      instantsOf kind log n ++ (if happening.any kind then [instant] else []) := by
  cases happening with
  | none => simp [instantsOf]
  | some h => cases hk : kind h <;> simp [instantsOf, hk]

/-- It adds nothing for the others. -/
theorem instantsOf_act_other (hni : n ≠ i) :
    instantsOf kind (log ++ (happening.map (⟨instant, n, ·⟩)).toList) i =
      instantsOf kind log i := by
  cases happening <;> simp [instantsOf, hni]

end Schedule

/-- When the lock was released. -/
def Standing.release? (hold : Nat) : Standing → Option Instant
  | left grant => some (grant + hold)
  | coming | queued | holding _ | refused => none

/-! ## Tasks and their strands -/

namespace LockTask

/-- **What a task does.** -/
def run (task : LockTask) : Workflow Q R Unit := do
  pause task.start
  holding task.domain task.timeout (pause task.hold)

/-! ## The rest of a task, effect by effect -/

def leaving (task : LockTask) : Workflow Q R Unit := perform (.release task.domain) done

def staying (task : LockTask) (grant : Instant) : Workflow Q R Unit :=
  perform (.sleepUntil (grant + task.hold)) fun _ => task.leaving

def entering (task : LockTask) : Bool → Workflow Q R Unit
  | true => perform .now task.staying
  | false => fail (.lockTimeout (.busy task.domain task.timeout))

def arriving (task : LockTask) : Workflow Q R Unit :=
  perform (.acquire task.domain task.timeout) task.entering

theorem run_eq (task : LockTask) : (task.run : Workflow Q R Unit) =
    perform .now fun t => perform (.sleepUntil (t + task.start)) fun _ => task.arriving := by
  have hholding : (holding task.domain task.timeout (pause task.hold) : Workflow Q R Unit) =
      task.arriving := by
    refine congrArg (perform (.acquire task.domain task.timeout)) (funext fun granted => ?_)
    cases granted <;> rfl
  rw [← hholding]
  rfl

/-- **The strand of a task** that stands somewhere. -/
inductive At (task : LockTask) : Strand Q R Unit → Standing → Prop where
  | starting : At task (.running 0 task.run) .coming
  | sleeping : At task
      (.running 0 (perform (.sleepUntil task.start) fun _ => task.arriving)) .coming
  | arriving : At task (.running task.start task.arriving) .coming
  | waiting : At task (.waiting task.domain task.expiry task.entering) .queued
  | refused : At task (.running task.expiry (task.entering false)) .refused
  | failed : At task
      (.ended task.expiry (.error (.lockTimeout (.busy task.domain task.timeout)))) .refused
  | entering (g : Instant) : At task (.running g (task.entering true)) (.holding g)
  | staying (g : Instant) : At task (.running g (task.staying g)) (.holding g)
  | leaving (g : Instant) : At task (.running (g + task.hold) task.leaving) (.holding g)
  | left (g : Instant) : At task (.running (g + task.hold) (done ())) (.left g)
  | returned (g : Instant) : At task (.ended (g + task.hold) (.ok ())) (.left g)

variable {task : LockTask} {strand : Strand Q R Unit} {st : Standing} {w : World σ} {n : Nat}
variable {instant : Instant} {turn : Strand.Turn σ Q R Unit}

/-- A task has nothing to do before its strand acts. -/
theorem At.idle (h : task.At strand st) (hdue : strand.Due w.clock) (hle : w.clock ≤ instant)
    (hfirst : ∀ ready, strand.readyAt? w n = some ready → instant ≤ ready) :
    task.Idle w.clock instant ((w.locks task.domain).isHandedTo n) st := by
  have hdue' : strand.Due instant := hdue.wait hfirst
  cases h with
  | starting | sleeping => exact Nat.le_trans hdue' (Nat.zero_le _)
  | arriving => exact hdue'
  | waiting =>
    refine ⟨hdue', fun hheir => Nat.le_antisymm (hfirst _ ?_) hle⟩
    simp [Strand.readyAt?, hheir]
  | entering g | staying g => exact Nat.le_trans hdue' (Nat.le_add_right _ _)
  | leaving g => exact hdue'
  | refused | failed | left | returned => trivial

/-- **What the action of a strand does for its task.** -/
structure Does (task : LockTask) (n : Nat) (instant : Instant) (w : World σ) (st : Standing)
    (turn : Strand.Turn σ Q R Unit) (st' : Standing) : Prop where
  strand : task.At turn.strand st'
  due : turn.strand.Due instant
  lock : st' = st ∧ turn.world.locks task.domain = w.locks task.domain ∨
    task.Move n instant st (w.locks task.domain) st' (turn.world.locks task.domain)
  others {d : Domain} (hd : d ≠ task.domain) : turn.world.locks d = w.locks d
  grants : st'.grant?.toList =
    st.grant?.toList ++ if turn.happening.any Happening.isGrant then [instant] else []
  releases : (st'.release? task.hold).toList = (st.release? task.hold).toList ++
    if turn.happening.any Happening.isRelease then [instant] else []

/-- An action that has nothing to do with the lock. -/
theorem Does.quiet (hstrand : task.At turn.strand st) (hdue : turn.strand.Due instant)
    (hlocks : turn.world.locks = w.locks)
    (hhappening : ∀ h, turn.happening = some h → h.isGrant = false ∧ h.isRelease = false) :
    task.Does n instant w st turn st where
  strand := hstrand
  due := hdue
  lock := .inl ⟨rfl, by rw [hlocks]⟩
  others _ := by rw [hlocks]
  grants := by cases h : turn.happening <;> simp_all
  releases := by cases h : turn.happening <;> simp_all

/-- **A strand acts as its task can.** -/
theorem At.act (h : task.At strand st) (hdue : strand.Due w.clock)
    (hready : strand.readyAt? w n = some instant)
    (hact : strand.act? server { w with clock := instant } n = some turn) :
    ∃ st', task.Does n instant w st turn st' := by
  cases h with
  | starting =>
    obtain rfl := hdue.eq_of_readyAt? hready
    rw [run_eq] at hact
    cases hact
    refine ⟨_, .quiet ?_ (Nat.le_refl _) rfl (by simp)⟩
    show task.At (.running 0 (perform (.sleepUntil (0 + task.start)) fun _ => task.arriving)) _
    rw [Nat.zero_add]
    exact .sleeping
  | sleeping =>
    obtain rfl := hdue.eq_of_readyAt? hready
    cases hact
    exact ⟨_, .quiet .arriving (Nat.zero_le _) rfl (by simp [Happening.isGrant,
      Happening.isRelease])⟩
  | arriving =>
    obtain rfl := hdue.eq_of_readyAt? hready
    cases Strand.enters_of_act? hact with
    | acquired hfree =>
      exact ⟨.holding task.start, .entering _, Nat.le_refl _, .inr (by simpa using .enter rfl hfree),
        fun hd => by simp [hd], rfl, rfl⟩
    | refused htaken htimeout =>
      have hexpiry : task.start = task.expiry := by rw [expiry, htimeout, Nat.add_zero]
      refine ⟨.refused, ?_, Nat.le_refl _, .inr (.refuse rfl htaken htimeout), fun _ => rfl,
        rfl, rfl⟩
      rw [hexpiry]
      exact .refused
    | queued htaken =>
      exact ⟨.queued, .waiting, Nat.le_add_right _ _, .inr (by simpa using .queue rfl htaken),
        fun hd => by simp [hd], rfl, rfl⟩
  | waiting =>
    cases hact
    cases hheir : (w.locks task.domain).isHandedTo n with
    | true =>
      exact ⟨.holding instant, .entering _, Nat.le_refl _, .inr (by simpa using .inherit hheir),
        fun hd => by simp [hd], rfl, rfl⟩
    | false =>
      have hinstant : instant = task.expiry := by
        simp only [Strand.readyAt?, hheir, Bool.false_eq_true, if_false, Option.some.injEq]
          at hready
        rw [← hready]
        exact Nat.max_eq_right hdue
      subst hinstant
      exact ⟨.refused, .refused, Nat.le_refl _, .inr (by simpa using .giveUp hheir rfl),
        fun hd => by simp [hd], rfl, rfl⟩
  | refused =>
    obtain rfl := hdue.eq_of_readyAt? hready
    cases hact
    exact ⟨_, .quiet .failed trivial rfl (by simp)⟩
  | entering g =>
    obtain rfl := hdue.eq_of_readyAt? hready
    cases hact
    exact ⟨_, .quiet (.staying _) (Nat.le_refl _) rfl (by simp)⟩
  | staying g =>
    obtain rfl := hdue.eq_of_readyAt? hready
    cases hact
    exact ⟨_, .quiet (.leaving _) (Nat.le_add_right _ _) rfl (by simp [Happening.isGrant,
      Happening.isRelease])⟩
  | leaving g =>
    obtain rfl := hdue.eq_of_readyAt? hready
    cases hact
    exact ⟨.left g, .left _, Nat.le_refl _, .inr (by simpa using .leave rfl),
      fun hd => by simp [hd], rfl, rfl⟩
  | left g =>
    obtain rfl := hdue.eq_of_readyAt? hready
    cases hact
    exact ⟨_, .quiet (.returned _) trivial rfl (by simp)⟩
  | failed | returned => cases hready

end LockTask

/-! ## The schedule of all tasks -/

namespace Schedule

/-- **Tasks that start together** while all locks are free. -/
def contention (x : σ) (tasks : List LockTask) : Schedule σ Q R Unit :=
  .start { server := x } (tasks.map LockTask.run)

variable {tasks : List LockTask} {standing : Nat → Standing} {s s' : Schedule σ Q R Unit} {x : σ}

/-- **Where the tasks of a schedule stand**, and what its log tells of it. -/
structure Contending (tasks : List LockTask) (standing : Nat → Standing)
    (s : Schedule σ Q R Unit) : Prop where
  length : s.strands.length = tasks.length
  strand {i : Nat} {task : LockTask} (hi : tasks[i]? = some task) :
    ∃ strand, s.strands[i]? = some strand ∧ task.At strand (standing i) ∧
      strand.Due s.world.clock
  orderly (d : Domain) : Orderly tasks d s.world.clock (s.world.locks d) standing
  grants {i : Nat} {task : LockTask} (hi : tasks[i]? = some task) :
    s.grants i = (standing i).grant?.toList
  releases {i : Nat} {task : LockTask} (hi : tasks[i]? = some task) :
    s.releases i = ((standing i).release? task.hold).toList

theorem contending_contention :
    Contending tasks (fun _ => .coming) (contention (Q := Q) (R := R) x tasks) where
  length := by simp [contention, start]
  strand {i task} hi := by
    refine ⟨.running 0 task.run, ?_, .starting, Nat.le_refl _⟩
    simp [contention, start, hi]
  orderly _ := orderly_coming
  grants _ := rfl
  releases _ := rfl

/-- **Every prompt step is a move of one task, or of none.** -/
theorem Contending.prompts (h : Contending tasks standing s) (hstep : Prompts server s s') :
    ∃ standing', Contending tasks standing' s' := by
  obtain @⟨n, strand, instant, turn, hn, hready, hfirst, hturn⟩ := hstep
  have hclock : turn.world.clock = instant := Strand.clock_of_act? hturn
  have hle : s.world.clock ≤ instant := Strand.clock_le_of_readyAt? hready
  have hlt : n < s.strands.length := (List.getElem?_eq_some_iff.1 hn).1
  -- time passes, and then the strand acts
  have horderly : ∀ d, Orderly tasks d instant (s.world.locks d) standing := by
    refine fun d => (h.orderly d).tick hle fun i task hi => ?_
    obtain ⟨other, hother, hat, hdue⟩ := h.strand hi.1
    rw [← hi.2]
    exact hat.idle hdue hle fun _ hr => hfirst hother hr
  obtain ⟨task, htask⟩ : ∃ task, tasks[n]? = some task :=
    ⟨_, List.getElem?_eq_getElem (h.length ▸ hlt)⟩
  obtain ⟨strand', hn', hat, hdue⟩ := h.strand htask
  rw [hn] at hn'
  cases hn'
  obtain ⟨st, hdoes⟩ := hat.act hdue hready hturn
  refine ⟨Function.update standing n st, by simpa using h.length, fun {i task'} hi => ?_,
    fun d => ?_, fun {i task'} hi => ?_, fun {i task'} hi => ?_⟩
  · by_cases hin : i = n
    · subst hin
      rw [htask] at hi
      cases hi
      refine ⟨turn.strand, by simp [hlt], ?_, hclock ▸ hdoes.due⟩
      rw [Function.update_self]
      exact hdoes.strand
    · obtain ⟨other, hother, hat', hdue'⟩ := h.strand hi
      refine ⟨other, by simpa [Ne.symm hin] using hother, ?_, ?_⟩
      · rwa [Function.update_of_ne hin]
      · rw [hclock]
        exact hdue'.wait fun _ hr => hfirst hother hr
  · rw [hclock]
    by_cases hd : d = task.domain
    · subst hd
      obtain ⟨rfl, hlock⟩ | hmove := hdoes.lock
      · rw [Function.update_eq_self, hlock]
        exact horderly _
      · exact (horderly _).move ⟨htask, rfl⟩ hmove
    · -- the task has nothing to do with this lock
      rw [hdoes.others hd]
      refine (horderly d).congr fun i task' hi => Function.update_of_ne ?_ _ _
      rintro rfl
      obtain rfl : task = task' := Option.some.inj (htask.symm.trans hi.1)
      exact hd hi.2.symm
  · by_cases hin : i = n
    · subst hin
      rw [Function.update_self, hdoes.grants, ← h.grants hi]
      exact instantsOf_act_self
    · rw [Function.update_of_ne hin, ← h.grants hi]
      exact instantsOf_act_other (Ne.symm hin)
  · by_cases hin : i = n
    · subst hin
      rw [htask] at hi
      cases hi
      rw [Function.update_self, hdoes.releases, ← h.releases htask]
      exact instantsOf_act_self
    · rw [Function.update_of_ne hin, ← h.releases hi]
      exact instantsOf_act_other (Ne.symm hin)

/-- **Whatever unfolds from the start of the tasks**, every one of them stands
somewhere. -/
theorem Unfolds.contending (h : Unfolds server (contention x tasks) s) :
    ∃ standing, Contending tasks standing s := by
  induction h with
  | start => exact ⟨_, contending_contention⟩
  | step before hstep ih =>
    obtain ⟨standing, hs⟩ := ih
    exact hs.prompts hstep

end Schedule

end CloudOrchestration
