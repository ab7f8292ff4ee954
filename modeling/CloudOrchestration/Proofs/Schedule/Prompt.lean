import CloudOrchestration.Proofs.Schedule.Interleaving
import CloudOrchestration.Proofs.Workflow.Timing
/-!
# Prompt schedules

Time passes only while nobody can act: it is always a strand whose instant
comes first that acts next, any of those whose instants are equal
(`Schedule.Prompts`). What `Schedule.run` does is one such order.

Whatever the order, and whatever the other strands do, a strand whose workflow
keeps to a deadline ends, and beyond the deadline all of its time is spent
waiting for answers to its own requests (`inevitably_onTime`).
-/

namespace CloudOrchestration

open Workflow

variable {σ Q R α : Type} {server : Server σ Q R}

/-! ## Strands and the clock -/

namespace Strand

variable {w : World σ} {n : Nat} {strand : Strand Q R α} {turn : Turn σ Q R α}
variable {instant : Instant}

/-- The clock stands still while a strand acts. -/
theorem clock_of_act? (hact : strand.act? server w n = some turn) :
    turn.world.clock = w.clock := by
  cases strand with
  | ended t o => cases hact
  | waiting d expiry next => cases hact; rfl
  | running t rest =>
    cases rest with
    | done a | fail fault => cases hact; rfl
    | perform e next =>
      cases e with
      | acquire d budget => cases enters_of_act? hact <;> rfl
      | now | sleepUntil | ask | release | isLocked | track | untrack | tracked | draw =>
        cases hact
        rfl

/-- No strand acts before the present. -/
theorem clock_le_of_readyAt? (hready : strand.readyAt? w n = some instant) :
    w.clock ≤ instant := by
  cases strand with
  | running t rest =>
    cases hready
    exact Nat.le_max_left _ _
  | waiting domain expiry next =>
    cases hready
    split
    · exact Nat.le_refl _
    · exact Nat.le_max_left _ _
  | ended t outcome => cases hready

/-- A strand that has an instant to act at acts. -/
theorem exists_act? (server : Server σ Q R) (hready : strand.readyAt? w n = some instant) :
    ∃ turn, strand.act? server { w with clock := instant } n = some turn := by
  cases strand with
  | ended t outcome => cases hready
  | waiting domain expiry next => exact ⟨_, rfl⟩
  | running t rest =>
    cases rest with
    | done a => exact ⟨_, rfl⟩
    | fail fault => exact ⟨_, rfl⟩
    | perform e next =>
      cases e with
      | acquire domain budget =>
        simp only [act?]
        split
        · split <;> exact ⟨_, rfl⟩
        · exact ⟨_, rfl⟩
      | now | sleepUntil | ask | release | isLocked | track | untrack | tracked | draw =>
        exact ⟨_, rfl⟩

/-- Only a strand that has ended has no instant to act at. -/
theorem readyAt?_eq_none_iff : strand.readyAt? w n = none ↔ ∃ t o, strand = .ended t o := by
  cases strand <;> simp [readyAt?]

end Strand

/-! ## The order of steps -/

namespace Schedule

variable {s s' : Schedule σ Q R α}

/-- **A step of a strand whose instant comes first.** -/
inductive Prompts (server : Server σ Q R) (s : Schedule σ Q R α) : Schedule σ Q R α → Prop where
  | act {n : Nat} {strand : Strand Q R α} {instant : Instant} {turn : Strand.Turn σ Q R α}
      (hn : s.strands[n]? = some strand) (hready : strand.readyAt? s.world n = some instant)
      (hfirst : ∀ {m : Nat} {other : Strand Q R α} {later : Instant},
        s.strands[m]? = some other → other.readyAt? s.world m = some later → instant ≤ later)
      (hturn : strand.act? server { s.world with clock := instant } n = some turn) :
      Prompts server s {
        world := turn.world
        strands := s.strands.set n turn.strand
        log := s.log ++ (turn.happening.map (⟨instant, n, ·⟩)).toList }

theorem Prompts.oneFollows (h : Prompts server s s') : OneFollows s'.strands s.strands := by
  obtain ⟨hn, -, -, hturn⟩ := h
  exact oneFollows_set (Strand.follows_of_act? hturn) hn

/-- None is chosen only if all strands have ended. -/
theorem readyAt?_of_next?_eq_none {w : World σ} {strands : List (Strand Q R α)} {k m : Nat}
    {strand : Strand Q R α} (hnext : next? w k strands = none) (hm : strands[m]? = some strand) :
    strand.readyAt? w (k + m) = none := by
  induction strands generalizing k m with
  | nil => simp at hm
  | cons first rest ih =>
    rw [next?] at hnext
    split at hnext
    next hready =>
      cases m with
      | zero =>
        cases hm
        exact hready
      | succ m =>
        have hlater := ih hnext (m := m) (by simpa using hm)
        rwa [Nat.add_right_comm] at hlater
    next => cases hnext
    next => split at hnext <;> cases hnext

/-- The strand that is chosen comes first. -/
theorem le_of_next?_eq_some {w : World σ} {strands : List (Strand Q R α)} {k m n t later : Nat}
    {strand : Strand Q R α} (hnext : next? w k strands = some (n, t))
    (hm : strands[m]? = some strand) (hready : strand.readyAt? w (k + m) = some later) :
    t ≤ later := by
  induction strands generalizing k m n t with
  | nil => simp at hm
  | cons first rest ih =>
    rw [next?] at hnext
    cases m with
    | zero =>
      cases hm
      rw [Nat.add_zero] at hready
      rw [hready] at hnext
      split at hnext
      next hnone => cases hnone
      next hfirst _ =>
        cases hfirst
        cases hnext
        exact Nat.le_refl _
      next hfirst _ =>
        cases hfirst
        split at hnext
        · cases hnext
          exact Nat.le_refl _
        next hlt =>
          cases hnext
          exact Nat.le_of_not_le hlt
    | succ m =>
      -- the strand is compared with the first of the rest
      have hm' : rest[m]? = some strand := by simpa using hm
      have hready' : strand.readyAt? w (k + 1 + m) = some later := by
        rw [Nat.add_right_comm]
        exact hready
      split at hnext
      · exact ih hnext hm' hready'
      next hnone =>
        rw [readyAt?_of_next?_eq_none hnone hm'] at hready'
        cases hready'
      next hrest =>
        have hle := ih hrest hm' hready'
        split at hnext
        next hfirst =>
          cases hnext
          exact Nat.le_trans hfirst hle
        · cases hnext
          exact hle

/-- The step that the schedule takes by itself is one of them. -/
theorem prompts_of_step? (h : s.step? server = some s') : Prompts server s s' := by
  obtain ⟨n, strand, instant, turn, hnext, hn, hready, hturn, rfl⟩ := step?_eq_some h
  refine .act hn hready (fun hm hlater => ?_) hturn
  exact le_of_next?_eq_some hnext hm (by rwa [Nat.zero_add])

/-- **While a strand has not ended there is a step.** -/
theorem exists_prompts {i : Nat} {strand : Strand Q R α} (hi : s.strands[i]? = some strand)
    (hstrand : ¬ ∃ t o, strand = .ended t o) : ∃ s', Prompts server s s' := by
  cases hnext : next? s.world 0 s.strands with
  | none =>
    have hready := readyAt?_of_next?_eq_none hnext hi
    exact absurd (Strand.readyAt?_eq_none_iff.1 hready) hstrand
  | some x =>
    obtain ⟨n, instant⟩ := x
    obtain ⟨j, first, rfl, hj, hready⟩ := next?_eq_some hnext
    rw [Nat.zero_add] at hnext hready
    obtain ⟨turn, hturn⟩ := Strand.exists_act? server hready
    refine ⟨_, .act hj hready (fun hm hlater => ?_) hturn⟩
    exact le_of_next?_eq_some hnext hm (by rwa [Nat.zero_add])

/-- Where some strand can act the schedule takes a step by itself. -/
theorem exists_step? (h : Prompts server s s') : ∃ s'', s.step? server = some s'' := by
  obtain ⟨hn, hready, -, -⟩ := h
  cases hnext : next? s.world 0 s.strands with
  | none =>
    have hnone := readyAt?_of_next?_eq_none hnext hn
    rw [Nat.zero_add, hready] at hnone
    cases hnone
  | some x =>
    obtain ⟨n, instant⟩ := x
    obtain ⟨j, first, rfl, hj, hfirst⟩ := next?_eq_some hnext
    obtain ⟨turn, hturn⟩ := Strand.exists_act? server hfirst
    rw [Nat.zero_add] at hnext hturn
    simp [step?, hnext, hj, hturn]

/-! ## What is bound to happen -/

/-- **Whatever the order of steps, it comes to pass.** -/
inductive Inevitably (server : Server σ Q R) (P : Schedule σ Q R α → Prop) :
    Schedule σ Q R α → Prop where
  | now {s : Schedule σ Q R α} (h : P s) : Inevitably server P s
  | later {s : Schedule σ Q R α} (hstep : ∃ s', Prompts server s s')
      (hall : ∀ s', Prompts server s s' → Inevitably server P s') : Inevitably server P s

/-- **What a strand ends with is inevitable**, if the steps before preserve it:
no order of steps goes on for ever, and none stops before the strand has
ended. -/
theorem inevitably_of_preserved {Inv : Schedule σ Q R α → Prop} {i : Nat}
    (hthere : ∀ s, Inv s → ∃ strand, s.strands[i]? = some strand)
    (hstep : ∀ s s', Inv s → Prompts server s s' → Inv s') (hs : Inv s) :
    Inevitably server (fun s' => Inv s' ∧ ∃ t o, s'.strands[i]? = some (.ended t o)) s := by
  have hwf : WellFounded fun s' s : Schedule σ Q R α => OneFollows s'.strands s.strands :=
    InvImage.wf Schedule.strands wellFounded_oneFollows
  induction s using hwf.induction with
  | _ s ih =>
    obtain ⟨strand, hi⟩ := hthere s hs
    by_cases hended : ∃ t o, strand = .ended t o
    · obtain ⟨t, o, rfl⟩ := hended
      exact .now ⟨hs, t, o, hi⟩
    · exact .later (exists_prompts hi hended) fun s' hs' =>
        ih s' hs'.oneFollows (hstep s s' hs hs')

/-- It comes to pass in the order that the schedule takes by itself. -/
theorem Inevitably.exists_advance {P : Schedule σ Q R α → Prop} (h : Inevitably server P s) :
    ∃ n, P (s.advance server n) := by
  induction h with
  | now hp => exact ⟨0, hp⟩
  | later hstep hall ih =>
    obtain ⟨_, hprompts⟩ := hstep
    obtain ⟨s', hs'⟩ := exists_step? hprompts
    obtain ⟨n, hn⟩ := ih s' (prompts_of_step? hs')
    refine ⟨n + 1, ?_⟩
    rw [advance, hs']
    exact hn

theorem Inevitably.mono {P P' : Schedule σ Q R α → Prop} (h : Inevitably server P s)
    (himp : ∀ s', P s' → P' s') : Inevitably server P' s := by
  induction h with
  | now hp => exact .now (himp _ hp)
  | later hstep _ ih => exact .later hstep ih

end Schedule

/-! ## Strands that keep to a deadline -/

/-- A happening keeps to a deadline: no sleep goes beyond it, and no wait for a
lock may. -/
def Event.KeepsTo (deadline : Deadline) (e : Event Q R) : Prop :=
  match e.happening with
  | .slept t => t ≤ deadline.instant
  | .queued _ budget => e.instant + budget ≤ deadline.instant
  | .asked _ _ _ | .acquired _ | .refused _ | .released _ => True

namespace Strand

variable {w : World σ} {n : Nat} {strand : Strand Q R α} {turn : Turn σ Q R α}
variable {deadline : Deadline} {clock instant : Instant}

/-- **A strand keeps to a deadline** at a present instant. -/
def KeepsTime (deadline : Deadline) (clock : Instant) : Strand Q R α → Prop
  | running t rest => rest.KeepsTime deadline (max clock t)
  | waiting _ expiry next => clock ≤ expiry ∧ expiry ≤ deadline.instant ∧
    ∀ granted t, clock ≤ t → t ≤ expiry → (next granted).KeepsTime deadline t
  | ended _ _ => True

/-- The instant up to which the time of a strand is spent. -/
def spentUpTo (clock : Instant) : Strand Q R α → Instant
  | running t _ => max clock t
  | waiting _ expiry _ => expiry
  | ended t _ => t

/-- A strand that waits for a lock acts by the end of its wait. -/
theorem le_expiry_of_readyAt? {domain : Domain} {expiry : Instant}
    {next : Bool → Workflow Q R α} (hexpiry : w.clock ≤ expiry)
    (hready : (waiting domain expiry next).readyAt? w n = some instant) : instant ≤ expiry := by
  cases hready
  split
  · exact hexpiry
  · exact Nat.max_le.2 ⟨hexpiry, Nat.le_refl _⟩

/-- Time that passes before a strand acts does not change when it acts. -/
theorem max_eq_of_le_readyAt? {t : Instant} {rest : Workflow Q R α} (hle : w.clock ≤ instant)
    (hfirst : ∀ ready, (running t rest).readyAt? w n = some ready → instant ≤ ready) :
    max instant t = max w.clock t := by
  have hready : instant ≤ max w.clock t := hfirst _ rfl
  refine Nat.le_antisymm (Nat.max_le.2 ⟨hready, Nat.le_max_right _ _⟩) ?_
  exact Nat.max_le.2 ⟨Nat.le_trans hle (Nat.le_max_left _ _), Nat.le_max_right _ _⟩

/-- Nor does it exceed a wait for a lock. -/
theorem le_expiry_of_le_readyAt? {domain : Domain} {expiry : Instant}
    {next : Bool → Workflow Q R α} (hexpiry : w.clock ≤ expiry)
    (hfirst : ∀ ready, (waiting domain expiry next).readyAt? w n = some ready →
      instant ≤ ready) : instant ≤ expiry := by
  obtain ⟨ready, hready⟩ : ∃ ready,
      (waiting domain expiry next).readyAt? w n = some ready := ⟨_, rfl⟩
  exact Nat.le_trans (hfirst ready hready) (le_expiry_of_readyAt? hexpiry hready)

/-- **The steps of others** do not delay a strand. -/
theorem KeepsTime.wait (hk : strand.KeepsTime deadline w.clock) (hle : w.clock ≤ instant)
    (hfirst : ∀ ready, strand.readyAt? w n = some ready → instant ≤ ready) :
    strand.KeepsTime deadline instant ∧ strand.spentUpTo instant = strand.spentUpTo w.clock := by
  cases strand with
  | ended t o => exact ⟨trivial, rfl⟩
  | running t rest =>
    have hmax : max instant t = max w.clock t := max_eq_of_le_readyAt? hle hfirst
    refine ⟨?_, hmax⟩
    show rest.KeepsTime deadline (max instant t)
    rw [hmax]
    exact hk
  | waiting domain expiry next =>
    obtain ⟨hexpiry, hdeadline, hnext⟩ := hk
    have hinstant : instant ≤ expiry := le_expiry_of_le_readyAt? hexpiry hfirst
    refine ⟨⟨hinstant, hdeadline, fun granted t ht => ?_⟩, rfl⟩
    exact hnext granted t (Nat.le_trans hle ht)

/-- What is left to a strand to act at has been accounted for. -/
theorem KeepsTime.le_spentUpTo (hk : strand.KeepsTime deadline w.clock)
    (hready : strand.readyAt? w n = some instant) : instant ≤ strand.spentUpTo w.clock := by
  cases strand with
  | ended t o => cases hready
  | running t rest =>
    cases hready
    exact Nat.le_refl _
  | waiting domain expiry next => exact le_expiry_of_readyAt? hk.1 hready

/-- **A turn that keeps to a deadline**: what happens in it does, what is left
does, and beyond the deadline it takes no time but for an answer. -/
structure Turn.KeepsTime (deadline : Deadline) (instant : Instant) (n : Nat)
    (turn : Turn σ Q R α) : Prop where
  strand : turn.strand.KeepsTime deadline instant
  happening : ∀ happening, turn.happening = some happening →
    (⟨instant, n, happening⟩ : Event Q R).KeepsTo deadline
  spent : turn.strand.spentUpTo instant ≤ max instant deadline.instant ∨
    ∃ q delay r, turn.happening = some (.asked q delay r) ∧
      turn.strand.spentUpTo instant = instant + delay

/-- A turn that takes no time. -/
theorem Turn.keepsTime_of_running {world : World σ} {rest : Workflow Q R α}
    {happening : Option (Happening Q R)} (hrest : rest.KeepsTime deadline instant)
    (hhappening : ∀ h, happening = some h → (⟨instant, n, h⟩ : Event Q R).KeepsTo deadline) :
    Turn.KeepsTime (σ := σ) deadline instant n ⟨world, running instant rest, happening⟩ where
  strand := by
    show rest.KeepsTime deadline (max instant instant)
    rw [Nat.max_self]
    exact hrest
  happening := hhappening
  spent := by
    refine .inl (Nat.le_trans (Nat.le_of_eq ?_) (Nat.le_max_left _ _))
    exact Nat.max_self instant

/-- **A strand that keeps to a deadline takes turns that do.** -/
theorem KeepsTime.act (hk : strand.KeepsTime deadline w.clock)
    (hready : strand.readyAt? w n = some instant)
    (hact : strand.act? server { w with clock := instant } n = some turn) :
    turn.KeepsTime deadline instant n := by
  cases strand with
  | ended t o => cases hready
  | waiting domain expiry next =>
    obtain ⟨hexpiry, hdeadline, hnext⟩ := hk
    have hle : w.clock ≤ instant := clock_le_of_readyAt? hready
    have hinstant : instant ≤ expiry := le_expiry_of_readyAt? hexpiry hready
    cases hact
    refine Turn.keepsTime_of_running (hnext _ instant hle hinstant) ?_
    rintro h hh
    cases hh
    split <;> trivial
  | running t rest =>
    cases hready
    cases rest with
    | done a =>
      cases hact
      exact ⟨trivial, by simp, .inl (Nat.le_max_left _ _)⟩
    | fail fault =>
      cases hact
      exact ⟨trivial, by simp, .inl (Nat.le_max_left _ _)⟩
    | perform e next =>
      obtain ⟨hkeeps, hnext⟩ := hk
      cases e with
      | sleepUntil wake =>
        cases hact
        have hend : max (max w.clock t) wake ≤ max (max w.clock t) deadline.instant :=
          Nat.max_le.2 ⟨Nat.le_max_left _ _, Nat.le_trans hkeeps (Nat.le_max_right _ _)⟩
        refine ⟨hnext () _ rfl, ?_, .inl hend⟩
        rintro h hh
        cases hh
        exact hkeeps
      | ask q =>
        cases hact
        refine ⟨hnext _ _ (Nat.le_max_left _ _), ?_, .inr ⟨q, _, _, rfl, ?_⟩⟩
        · rintro h hh
          cases hh
          trivial
        · exact Nat.max_eq_right (Nat.le_add_right _ _)
      | acquire domain budget =>
        have hpresent : ∀ granted, (next granted).KeepsTime deadline (max w.clock t) :=
          fun granted => hnext granted _ ⟨Nat.le_refl _, Nat.le_add_right _ _⟩
        cases enters_of_act? hact with
        | acquired =>
          refine Turn.keepsTime_of_running (hpresent true) ?_
          rintro h hh
          cases hh
          trivial
        | refused =>
          refine Turn.keepsTime_of_running (hpresent false) ?_
          rintro h hh
          cases hh
          trivial
        | queued _ hbudget =>
          -- it stands in line, at most until the deadline
          have hexpiry : max w.clock t + budget ≤ deadline.instant :=
            hkeeps (Nat.pos_of_ne_zero hbudget)
          refine ⟨⟨Nat.le_add_right _ _, hexpiry, ?_⟩, ?_, .inl ?_⟩
          · exact fun granted t' hle ht' => hnext granted t' ⟨hle, ht'⟩
          · rintro h hh
            cases hh
            exact hexpiry
          · exact Nat.le_trans hexpiry (Nat.le_max_right _ _)
      | now =>
        cases hact
        exact Turn.keepsTime_of_running (hnext _ _ ⟨rfl, rfl⟩) (by simp)
      | release domain =>
        cases hact
        refine Turn.keepsTime_of_running (hnext _ _ rfl) ?_
        rintro h hh
        cases hh
        trivial
      | isLocked | track | untrack | tracked | draw =>
        cases hact
        exact Turn.keepsTime_of_running (hnext _ _ rfl) (by simp)

end Strand

/-! ## Schedules with a strand that keeps to a deadline -/

namespace Schedule

variable {s s' : Schedule σ Q R α} {deadline : Deadline} {i : Nat} {start finish t : Instant}

/-- At an instant the strand of a number waits for the answer to a request of
its own. -/
def Asking (i : Nat) (t : Instant) (s : Schedule σ Q R α) : Prop :=
  ∃ instant q delay r, (⟨instant, i, .asked q delay r⟩ : Event Q R) ∈ s.log ∧
    instant ≤ t ∧ t < instant + delay

/-- **The strand of a number is on time**: from its start to its finish, beyond
the deadline, it has waited for nothing but answers to its own requests. -/
structure OnTime (deadline : Deadline) (i : Nat) (start finish : Instant)
    (s : Schedule σ Q R α) : Prop where
  /-- The time it has spent beyond the deadline. -/
  asking : ∀ t, start ≤ t → deadline.instant ≤ t → t < finish → s.Asking i t
  /-- It has slept to no instant after the deadline, and waited for no lock with
  a budget that reaches beyond it. -/
  keeps : ∀ e ∈ s.log, e.strand = i → e.KeepsTo deadline

/-- If its requests have taken no time, one that started by the deadline has
finished by then. -/
theorem OnTime.finish_le (h : s.OnTime deadline i start finish)
    (hinstant : ∀ instant q delay r,
      (⟨instant, i, .asked q delay r⟩ : Event Q R) ∈ s.log → delay = 0)
    (hstart : start ≤ deadline.instant) : finish ≤ deadline.instant := by
  refine Nat.le_of_not_lt fun hlt => ?_
  obtain ⟨instant, q, delay, r, hmem, hle, hend⟩ :=
    h.asking deadline.instant hstart (Nat.le_refl _) hlt
  rw [hinstant instant q delay r hmem, Nat.add_zero] at hend
  exact Nat.lt_irrefl _ (Nat.lt_of_le_of_lt hle hend)

/-- The strand of a number keeps to a deadline, and has done so since its
start. -/
def Keeping (deadline : Deadline) (i : Nat) (start : Instant) (s : Schedule σ Q R α) : Prop :=
  ∃ strand, s.strands[i]? = some strand ∧ strand.KeepsTime deadline s.world.clock ∧
    s.OnTime deadline i start (strand.spentUpTo s.world.clock)

/-- What is in the log after a turn was there before, or happened in it. -/
theorem mem_log_act {turn : Strand.Turn σ Q R α} {instant : Instant} {n : Nat} {e : Event Q R} :
    e ∈ s.log ++ (turn.happening.map (⟨instant, n, ·⟩)).toList ↔
      e ∈ s.log ∨ ∃ happening, turn.happening = some happening ∧ e = ⟨instant, n, happening⟩ := by
  rw [List.mem_append]
  cases turn.happening with
  | none => simp
  | some happening => simp

/-- **Every prompt step preserves that a strand is on time**, whoever takes
it. -/
theorem Keeping.prompts (hk : s.Keeping deadline i start) (h : Prompts server s s') :
    s'.Keeping deadline i start := by
  obtain ⟨strand, hi, hkeeps, htime⟩ := hk
  obtain @⟨n, first, instant, turn, hn, hready, hfirst, hturn⟩ := h
  have hclock : turn.world.clock = instant := Strand.clock_of_act? hturn
  have hlt := (List.getElem?_eq_some_iff.1 hn).1
  -- what has been accounted for stays so
  have hbefore : ∀ t, start ≤ t → deadline.instant ≤ t → t < strand.spentUpTo s.world.clock →
      ∃ instant' q delay r, (⟨instant', i, .asked q delay r⟩ : Event Q R) ∈
        s.log ++ (turn.happening.map (⟨instant, n, ·⟩)).toList ∧
        instant' ≤ t ∧ t < instant' + delay := by
    intro t hstart hdeadline hend
    obtain ⟨instant', q, delay, r, he, hle, hlt⟩ := htime.asking t hstart hdeadline hend
    exact ⟨instant', q, delay, r, mem_log_act.2 (.inl he), hle, hlt⟩
  by_cases hni : n = i
  · subst hni
    rw [hn] at hi
    cases hi
    have hturn' : turn.KeepsTime deadline instant n := hkeeps.act hready hturn
    refine ⟨turn.strand, by simp [hlt], by rw [hclock]; exact hturn'.strand, ?_, ?_⟩
    · intro t hstart hdeadline hend
      rw [hclock] at hend
      rcases Nat.lt_or_ge t instant with hlt | hle
      · exact hbefore t hstart hdeadline (Nat.lt_of_lt_of_le hlt (hkeeps.le_spentUpTo hready))
      · obtain hspent | ⟨q, delay, r, hasked, hspent⟩ := hturn'.spent
        · have hlt : t < t := Nat.lt_of_lt_of_le hend
            (Nat.le_trans hspent (Nat.max_le.2 ⟨hle, hdeadline⟩))
          exact absurd hlt (Nat.lt_irrefl t)
        · rw [hspent] at hend
          exact ⟨instant, q, delay, r, mem_log_act.2 (.inr ⟨_, hasked, rfl⟩), hle, hend⟩
    · intro e he hei
      obtain he | ⟨happening, hhappening, rfl⟩ := mem_log_act.1 he
      · exact htime.keeps e he hei
      · exact hturn'.happening happening hhappening
  · have hle : s.world.clock ≤ instant := Strand.clock_le_of_readyAt? hready
    obtain ⟨hkeeps', hspent⟩ := hkeeps.wait (n := i) hle fun ready hr => hfirst hi hr
    refine ⟨strand, by simpa [hni] using hi, by rw [hclock]; exact hkeeps', ?_, ?_⟩
    · intro t hstart hdeadline hend
      rw [hclock, hspent] at hend
      exact hbefore t hstart hdeadline hend
    · intro e he hei
      obtain he | ⟨happening, -, rfl⟩ := mem_log_act.1 he
      · exact htime.keeps e he hei
      · exact absurd hei hni

/-- **A punctual workflow ends, and is on time**, whatever the order of steps
and whatever the other strands do. -/
theorem inevitably_onTime {w : Workflow Q R α} (hw : w.Punctual deadline)
    (hi : s.strands[i]? = some (.running t w)) (hlog : ∀ e ∈ s.log, e.strand ≠ i) :
    Inevitably server (fun s' => ∃ finish o, s'.strands[i]? = some (.ended finish o) ∧
      s'.OnTime deadline i (max s.world.clock t) finish) s := by
  have hkeeping : s.Keeping deadline i (max s.world.clock t) := by
    refine ⟨_, hi, hw _, fun t' hstart _ hend => ?_, fun e he hei => absurd hei (hlog e he)⟩
    exact absurd (Nat.lt_of_le_of_lt hstart hend) (Nat.lt_irrefl _)
  refine (inevitably_of_preserved (fun s' hk => ⟨_, hk.choose_spec.1⟩)
    (fun _ _ hk h => hk.prompts h) hkeeping).mono ?_
  rintro s' ⟨⟨strand, hi', hkeeps, htime⟩, finish, o, hended⟩
  rw [hended] at hi'
  cases hi'
  exact ⟨finish, o, hended, htime⟩

end Schedule

end CloudOrchestration
