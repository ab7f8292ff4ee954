import CloudOrchestration.Proofs.Schedule.Clocked
/-!
# What is left of a deadline

Time goes by in two ways: a span of it passes, or the workflow sleeps under its
deadline, which cuts the sleep short (`Pastime`). In whatever order that happens,
what is left of the deadline only shrinks, and so does what may be spent beside a
headroom. Both follow from what holds at one instant (`Deadline.Allows`) and from
one instant to a later one (`Deadline.Wanes`).

The instants themselves are those that a workflow reads off the clock (`diary`),
in any schedule and beside any other strands. A sleep is cut short only if the
clock can show the end of the whole interval, and panics otherwise: before the
deadline, and also after it. So pastimes end when they are to just if no interval
reaches beyond the clock (`Pastime.InRange`).
-/

namespace CloudOrchestration

open Workflow

variable {σ Q R α γ : Type}

namespace Deadline

variable {deadline : Deadline} {t t' : Instant} {headroom headroom' budget budget' interval : Nat}

/-! ## At one instant -/

/-- From the deadline on a sleep takes no time. -/
theorem max_wake_of_le (hle : deadline.instant ≤ t) : max t (deadline.wake t interval) = t :=
  Nat.max_eq_left (Nat.le_trans (Nat.min_le_right ..) hle)

/-- **A wait for the budget leaves the headroom**, and so does a shorter one. -/
theorem headroom_le_remaining (hbudget : deadline.budgetAfter t headroom = some budget)
    (hle : t' ≤ t + budget) : headroom ≤ deadline.remaining t' := by
  obtain ⟨hexpired, -, hsum⟩ := budgetAfter_eq_some_iff.1 hbudget
  have hlt : t < deadline.instant := isExpired_eq_false_iff.1 hexpired
  unfold remaining Instant at *
  omega

/-- **What a deadline allows at an instant.** -/
structure Allows (deadline : Deadline) (t : Instant) : Prop where
  expired : deadline.remaining t = 0 ↔ deadline.isExpired t = true
  budget_iff (headroom budget : Nat) : deadline.budgetAfter t headroom = some budget ↔
    deadline.isExpired t = false ∧ headroom ≤ deadline.remaining t ∧
      budget + headroom = deadline.remaining t
  budget_le (headroom budget : Nat) (hbudget : deadline.budgetAfter t headroom = some budget) :
    budget ≤ deadline.remaining t
  /-- The more is kept back, the less may be spent. -/
  antitone (headroom headroom' budget budget' : Nat) (hle : headroom ≤ headroom')
    (hbudget : deadline.budgetAfter t headroom = some budget)
    (hbudget' : deadline.budgetAfter t headroom' = some budget') : budget' ≤ budget
  /-- A sleep for the budget is not cut short, and leaves the headroom. It does not
  panic under a deadline that the clock can show. -/
  leaves (headroom budget : Nat) (hbudget : deadline.budgetAfter t headroom = some budget) :
    deadline.wake t budget = t + budget ∧ headroom ≤ deadline.remaining (t + budget) ∧
      (deadline.instant ≤ Instant.last → deadline.wake? t budget = some (t + budget))

theorem allows (deadline : Deadline) (t : Instant) : deadline.Allows t where
  expired := remaining_eq_zero_iff
  budget_iff _ _ := budgetAfter_eq_some_iff
  budget_le headroom budget hbudget := by
    obtain ⟨-, -, hsum⟩ := budgetAfter_eq_some_iff.1 hbudget
    omega
  antitone headroom headroom' budget budget' hle hbudget hbudget' := by
    obtain ⟨-, -, hsum⟩ := budgetAfter_eq_some_iff.1 hbudget
    obtain ⟨-, -, hsum'⟩ := budgetAfter_eq_some_iff.1 hbudget'
    omega
  leaves headroom budget hbudget := by
    have hleft := headroom_le_remaining hbudget (Nat.le_refl (t + budget))
    obtain ⟨hexpired, -, hsum⟩ := budgetAfter_eq_some_iff.1 hbudget
    have hlt : t < deadline.instant := isExpired_eq_false_iff.1 hexpired
    have hend : t + budget ≤ deadline.instant := by
      unfold remaining Instant at *
      omega
    have hwake : deadline.wake t budget = t + budget := Nat.min_eq_left hend
    refine ⟨hwake, hleft, fun hlast => ?_⟩
    rw [wake?, if_pos (Nat.le_trans hend hlast), hwake]

/-! ## From one instant to a later one -/

/-- **What a deadline allows shrinks** from one instant to the other. -/
structure Wanes (deadline : Deadline) (t t' : Instant) : Prop where
  remaining_le : deadline.remaining t' ≤ deadline.remaining t
  expired : deadline.isExpired t = true → deadline.isExpired t' = true
  /-- Whoever may spend something later might have spent as much before. -/
  budget (headroom budget' : Nat) (hbudget' : deadline.budgetAfter t' headroom = some budget') :
    ∃ budget, deadline.budgetAfter t headroom = some budget ∧ budget' ≤ budget

theorem wanes (hle : t ≤ t') : deadline.Wanes t t' where
  remaining_le := Nat.sub_le_sub_left hle deadline.instant
  expired hexpired := isExpired_iff.2 (Nat.le_trans (isExpired_iff.1 hexpired) hle)
  budget headroom budget' hbudget' := by
    obtain ⟨hexpired, hfits, hsum⟩ := budgetAfter_eq_some_iff.1 hbudget'
    have hlt : t' < deadline.instant := isExpired_eq_false_iff.1 hexpired
    have hremaining : deadline.remaining t' ≤ deadline.remaining t :=
      Nat.sub_le_sub_left hle deadline.instant
    refine ⟨deadline.remaining t - headroom, budgetAfter_eq_some_iff.2 ⟨?_, ?_, ?_⟩, ?_⟩
    · exact isExpired_eq_false_iff.2 (Nat.lt_of_le_of_lt hle hlt)
    · omega
    · omega
    · omega

end Deadline

/-! ## Spending time -/

/-- A way to spend time. -/
inductive Pastime where
  /-- Let a span of time pass. -/
  | advance (span : Nat)
  /-- Sleep under the deadline. -/
  | sleep (interval : Nat)
  deriving DecidableEq, Repr

namespace Pastime

variable {deadline : Deadline} {t t' : Instant}

/-- Spend time so; for `none` the call panics. -/
def spend (deadline : Deadline) : Pastime → Workflow Q R (Option Unit)
  | advance span => some <$> pause span
  | sleep interval => sleep? deadline interval

/-- The clock can show the end of an interval that began at the instant. -/
def Fits (t : Instant) : Pastime → Prop
  | advance _ => True
  | sleep interval => t + interval ≤ Instant.last

/-- **When a pastime ends** that began at the first instant. -/
def Ends (deadline : Deadline) (t : Instant) : Pastime → Instant → Prop
  | advance span, t' => t' = t + span
  | sleep interval, t' =>
    (t < deadline.instant → t' = min (t + interval) deadline.instant) ∧
      (deadline.instant ≤ t → t' = t)

theorem Ends.le {p : Pastime} (h : p.Ends deadline t t') : t ≤ t' := by
  cases p with
  | advance span =>
    have hend : t' = t + span := h
    exact hend ▸ Nat.le_add_right t span
  | sleep interval =>
    obtain ⟨hbefore, hafter⟩ := h
    rcases Nat.lt_or_ge t deadline.instant with hlt | hge
    · rw [hbefore hlt]
      exact Nat.le_min.2 ⟨Nat.le_add_right t interval, Nat.le_of_lt hlt⟩
    · exact Nat.le_of_eq (hafter hge).symm

theorem Ends.unique {p : Pastime} {t'' : Instant} (h : p.Ends deadline t t')
    (h' : p.Ends deadline t t'') : t' = t'' := by
  cases p with
  | advance span => exact Eq.trans h (Eq.symm h')
  | sleep interval =>
    rcases Nat.lt_or_ge t deadline.instant with hlt | hge
    · exact (h.1 hlt).trans (h'.1 hlt).symm
    · exact (h.2 hge).trans (h'.2 hge).symm

/-- **Pastimes one after the other**, each begun when the one before ended. -/
inductive EndAt (deadline : Deadline) : Instant → List Pastime → List Instant → Prop where
  | nil (t : Instant) : EndAt deadline t [] []
  | cons {t t' : Instant} {p : Pastime} {rest : List Pastime} {later : List Instant}
      (hends : p.Ends deadline t t') (hrest : EndAt deadline t' rest later) :
      EndAt deadline t (p :: rest) (t' :: later)

/-- No pastime begins before one that came earlier in the row. -/
theorem EndAt.le {steps : List Pastime} {instants : List Instant}
    (h : EndAt deadline t steps instants) : ∀ t' ∈ instants, t ≤ t' := by
  induction h with
  | nil => exact fun _ hmem => nomatch hmem
  | cons hends _ ih =>
    intro t'' hmem
    rcases List.mem_cons.1 hmem with rfl | hmem
    · exact hends.le
    · exact Nat.le_trans hends.le (ih t'' hmem)

/-- **Between any two instants of a row** what the deadline allows shrinks. -/
theorem EndAt.pairwise_wanes {steps : List Pastime} {instants : List Instant}
    (h : EndAt deadline t steps instants) : (t :: instants).Pairwise deadline.Wanes := by
  induction h with
  | nil t => exact List.pairwise_singleton ..
  | cons hends hrest ih =>
    refine List.pairwise_cons.2 ⟨fun t'' hmem => Deadline.wanes ?_, ih⟩
    exact (EndAt.cons hends hrest).le t'' hmem

/-- **No interval of a row reaches beyond the clock** from when the pastime before it
ended. -/
inductive InRange (deadline : Deadline) : Instant → List Pastime → Prop where
  | nil (t : Instant) : InRange deadline t []
  | cons {t t' : Instant} {p : Pastime} {rest : List Pastime} (hfits : p.Fits t)
      (hends : p.Ends deadline t t') (hrest : InRange deadline t' rest) :
      InRange deadline t (p :: rest)

end Pastime

/-- What is noted while time is spent: when pastimes ended, and whether the call
panicked in the next one. -/
structure Diary where
  instants : List Instant := []
  panicked : Bool := false
  deriving DecidableEq, Repr

namespace Diary

variable {deadline : Deadline} {t : Instant} {steps : List Pastime} {d : Diary}

/-- **What a diary says of a row of pastimes**, begun at the instant. -/
inductive Tells (deadline : Deadline) : Instant → List Pastime → Diary → Prop where
  | ended (t : Instant) : Tells deadline t [] {}
  | spent {t t' : Instant} {p : Pastime} {rest : List Pastime} {later : Diary}
      (hfits : p.Fits t) (hends : p.Ends deadline t t') (hrest : Tells deadline t' rest later) :
      Tells deadline t (p :: rest) { later with instants := t' :: later.instants }
  | panicked {t : Instant} {interval : Nat} {rest : List Pastime}
      (hover : Instant.last < t + interval) :
      Tells deadline t (.sleep interval :: rest) { panicked := true }

namespace Tells

/-- What is noted ended when it was to. -/
theorem endAt (h : d.Tells deadline t steps) :
    Pastime.EndAt deadline t (steps.take d.instants.length) d.instants := by
  induction h with
  | ended t => exact .nil t
  | spent _ hends _ ih => exact .cons hends ih
  | panicked => exact .nil _

/-- **A call panics in a sleep** whose interval reaches beyond the clock. -/
theorem exists_sleep_of_panicked (h : d.Tells deadline t steps) (hpanicked : d.panicked = true) :
    ∃ interval rest, steps.drop d.instants.length = .sleep interval :: rest ∧
      Instant.last < d.instants.getLastD t + interval := by
  induction h with
  | ended => cases hpanicked
  | @spent _ _ _ _ later _ _ _ ih =>
    obtain ⟨interval, rest, hdrop, hover⟩ := ih hpanicked
    refine ⟨interval, rest, hdrop, ?_⟩
    rwa [List.getLastD_cons]
  | panicked hover => exact ⟨_, _, rfl, hover⟩

/-- **A call does not panic** just if no interval reaches beyond the clock. -/
theorem panicked_eq_false_iff (h : d.Tells deadline t steps) :
    d.panicked = false ↔ Pastime.InRange deadline t steps := by
  induction h with
  | ended t => exact iff_of_true rfl (.nil t)
  | spent hfits hends _ ih =>
    refine ih.trans ⟨.cons hfits hends, fun hrange => ?_⟩
    cases hrange with
    | cons _ hends' hrest => rwa [hends.unique hends']
  | panicked hover =>
    refine iff_of_false nofun fun hrange => ?_
    cases hrange with
    | cons hfits => exact Nat.not_le_of_lt hover hfits

/-- **All pastimes end when they are to** just if the call does not panic. -/
theorem endAt_iff (h : d.Tells deadline t steps) :
    Pastime.EndAt deadline t steps d.instants ↔ d.panicked = false := by
  induction h with
  | ended t => exact iff_of_true (.nil t) rfl
  | spent _ hends _ ih =>
    refine ⟨fun hall => ?_, fun hnot => .cons hends (ih.2 hnot)⟩
    cases hall with
    | cons _ hrest => exact ih.1 hrest
  | panicked => exact iff_of_false nofun nofun

end Tells

end Diary

namespace Workflow

variable {deadline : Deadline} {t t' : Instant} {l : List (Dealing Q R)}

/-- **Spend time in these ways**, one after the other, and note when each of them
ended. -/
def diary (deadline : Deadline) : List Pastime → Workflow Q R Diary
  | [] => pure {}
  | p :: rest => do
    match ← p.spend deadline with
    | none => pure { panicked := true }
    | some () =>
      let ended ← now
      let later ← diary deadline rest
      return { later with instants := ended :: later.instants }

/-- A pastime asks for nothing, and ends when it is to, unless its interval
reaches beyond the clock. -/
theorem runsFrom_spend_bind {p : Pastime} {f : Option Unit → Workflow Q R α} {o : Except Fault α}
    (hr : RunsFrom ((p.spend deadline).bind f) t l t' o) :
    (∃ t₁, p.Fits t ∧ p.Ends deadline t t₁ ∧ RunsFrom (f (some ())) t₁ l t' o) ∨
      ∃ interval, p = .sleep interval ∧ Instant.last < t + interval ∧
        RunsFrom (f none) t l t' o := by
  cases p with
  | advance span =>
    have hafter := runsFrom_sleepUntil_bind.1 (runsFrom_now_bind.1 hr)
    have hmax : max t (t + span) = t + span := Nat.max_eq_right (Nat.le_add_right t span)
    rw [hmax] at hafter
    exact .inl ⟨t + span, trivial, rfl, hafter⟩
  | sleep interval =>
    rcases Nat.lt_or_ge Instant.last (t + interval) with hover | hfits
    · exact .inr ⟨interval, rfl, hover, (runsFrom_sleep?_bind_of_lt hover).1 hr⟩
    · have hafter := runsFrom_sleep_bind.1 ((sameInTime_sleep?_bind hfits).runsFrom_iff.1 hr)
      exact .inl ⟨_, hfits, ⟨Deadline.max_wake, Deadline.max_wake_of_le⟩, hafter⟩

/-- **A diary ends** with what it has to say, when its last step ended. -/
theorem tells_of_runsFrom_diary {steps : List Pastime} {o : Except Fault Diary}
    (hr : RunsFrom (diary deadline steps) t l t' o) :
    ∃ d, o = .ok d ∧ d.Tells deadline t steps ∧ t' = d.instants.getLastD t := by
  induction steps generalizing t l o with
  | nil =>
    obtain ⟨-, rfl, rfl⟩ := runsFrom_done.1 hr
    exact ⟨{}, rfl, .ended _, rfl⟩
  | cons p rest ih =>
    rw [diary, bind_eq] at hr
    obtain ⟨t₁, hfits, hends, hr⟩ | ⟨interval, rfl, hover, hr⟩ := runsFrom_spend_bind hr
    · -- the instant that is noted is the one at which the first pastime ends
      have hlater := runsFrom_now_bind.1 hr
      obtain ⟨o', hrest, rfl⟩ :=
        runsFrom_map (f := fun later : Diary => { later with instants := t₁ :: later.instants }) hlater
      obtain ⟨later, rfl, htells, rfl⟩ := ih hrest
      refine ⟨_, rfl, .spent hfits hends htells, ?_⟩
      rw [List.getLastD_cons]
    · obtain ⟨-, rfl, rfl⟩ := runsFrom_done.1 hr
      exact ⟨_, rfl, .panicked hover, rfl⟩

end Workflow

namespace Schedule

variable {server : Server σ Q R} {s : Schedule σ Q R γ} {deadline : Deadline}

/-- **How a strand has spent its time** under a deadline, with what it has noted. -/
structure SpentTime (deadline : Deadline) (start : Instant) (steps : List Pastime)
    (d : Diary) : Prop where
  /-- What it has done ended when it was to. -/
  endAt : Pastime.EndAt deadline start (steps.take d.instants.length) d.instants
  /-- That is all that it was to do, just if no interval reaches beyond the clock. -/
  endAt_iff : Pastime.EndAt deadline start steps d.instants ↔ Pastime.InRange deadline start steps
  panicked_iff : d.panicked = true ↔ ¬ Pastime.InRange deadline start steps
  /-- If it panicked, it was in a sleep whose interval does. -/
  panicked (hpanicked : d.panicked = true) :
    ∃ interval rest, steps.drop d.instants.length = .sleep interval :: rest ∧
      Instant.last < d.instants.getLastD start + interval
  allows : ∀ t ∈ start :: d.instants, deadline.Allows t
  wanes : (start :: d.instants).Pairwise deadline.Wanes

/-- **What is left of a deadline only shrinks**, and so does what may be spent beside
a headroom, however time goes by: a strand that is about to keep a diary, beside any
other strands and at any point of what they do, ends, and has then spent its time
so. It has ended all that it was to do, and when it was to, just if no interval
reaches beyond the clock. -/
theorem budgets_shrink {f : Diary → γ} {steps : List Pastime} {i : Nat} {t : Instant}
    (hi : s.strands[i]? = some (.running t (f <$> diary deadline steps)))
    (hlog : ∀ e ∈ s.log, e.strand ≠ i) :
    Inevitably server (fun s' => ∃ d : Diary,
      s'.strands[i]? = some (.ended (d.instants.getLastD (max s.world.clock t)) (.ok (f d))) ∧
      SpentTime deadline (max s.world.clock t) steps d) s := by
  refine (inevitably_runsFrom hi hlog).mono ?_
  rintro s' ⟨finish, _, hended, hmapped⟩
  obtain ⟨o, hruns, rfl⟩ := runsFrom_map hmapped
  obtain ⟨d, rfl, htells, rfl⟩ := tells_of_runsFrom_diary hruns
  refine ⟨d, hended, ?_⟩
  exact {
    endAt := htells.endAt
    endAt_iff := htells.endAt_iff.trans htells.panicked_eq_false_iff
    panicked_iff := by rw [← htells.panicked_eq_false_iff, Bool.not_eq_false]
    panicked := htells.exists_sleep_of_panicked
    allows := fun t' _ => deadline.allows t'
    wanes := htells.endAt.pairwise_wanes }

/-- An interval that the clock can show the end of, but not for long. -/
def endless : Nat := Instant.last - 2000

/-- Time that is spent up to a deadline and beyond it, with sleeps that last too
long from some time on. -/
def lingering : List Pastime :=
  [.sleep 700, .advance 300, .sleep endless, .sleep 50, .advance 7, .sleep 0, .sleep endless,
    .advance 1]

/-- A diary of it beside a strand that asks for something slow. -/
def dawdling : Schedule Unit Unit Unit Diary :=
  start { server := (), clock := 100 } [id <$> diary ⟨2000⟩ lingering, (fun _ => {}) <$> ask ()]

/-- A server that answers late. -/
def lateServer : Server Unit Unit Unit := fun _ _ => { server := (), delay := 900, answer := () }

/-- The sleep that would last longest ends at the deadline, and those after it at
once; but it cannot be begun again. -/
theorem budgets_shrink_dawdling :
    (∃ n, ∃ d : Diary, (dawdling.advance lateServer n).strands[0]? =
        some (.ended (d.instants.getLastD 100) (.ok d)) ∧ SpentTime ⟨2000⟩ 100 lingering d) ∧
    (dawdling.advance lateServer 30).outcomes =
      [(2007, .ok { instants := [800, 1100, 2000, 2000, 2007, 2007], panicked := true }),
        (1000, .ok {})] := by
  refine ⟨?_, by decide +kernel⟩
  have hlog : ∀ e ∈ dawdling.log, e.strand ≠ 0 := fun _ he => nomatch he
  have hi : dawdling.strands[0]? = some (.running 100 (id <$> diary ⟨2000⟩ lingering)) := rfl
  exact (budgets_shrink hi hlog).exists_advance

/-- The longest interval there is. -/
def longest : Nat := UInt64.size * 1000 - 1

/-- The longest interval of 64 bits. -/
def longestSet : Nat := UInt64.size - 1

/-- A while after which it reaches beyond the clock. -/
def ages : Nat := 499 * longestSet + 1000

/-- A diary under a deadline of two seconds. -/
def hurried (steps : List Pastime) : Schedule Unit Unit Unit Diary :=
  start { server := () } [diary ⟨2000⟩ steps]

/-- **A sleep that the deadline would end panics**, and so does one that would end at
once. -/
theorem sleep_longest_panics :
    Pastime.EndAt ⟨2000⟩ 0 [.sleep longest] [2000] ∧
      ((hurried [.sleep longest]).advance lateServer 10).outcomes =
        [(0, .ok { panicked := true })] ∧
    Pastime.EndAt ⟨2000⟩ 0 [.advance ages, .sleep longestSet] [ages, ages] ∧
      ((hurried [.advance ages, .sleep longestSet]).advance lateServer 10).outcomes =
        [(ages, .ok { instants := [ages], panicked := true })] := by
  have hlate : 2000 ≤ ages := by decide
  have hends : Pastime.Ends ⟨2000⟩ ages (.sleep longestSet) ages :=
    ⟨fun hlt => absurd hlate (Nat.not_le_of_lt hlt), fun _ => rfl⟩
  refine ⟨.cons ⟨fun _ => by decide, nofun⟩ (.nil _), by decide +kernel, ?_, by decide +kernel⟩
  exact .cons (Nat.zero_add ages).symm (.cons hends (.nil _))

end Schedule

end CloudOrchestration
