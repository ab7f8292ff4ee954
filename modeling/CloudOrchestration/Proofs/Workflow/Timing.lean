import CloudOrchestration.Workflow.Polling
/-!
# Workflows in time

How long an effect takes is bounded by its kind: reading the clock takes no
time, a sleep lasts until its instant, a wait for a lock at most the budget, a
request as long as it likes (`Effect.Takes`). A workflow is punctual if, however
long its requests take and whatever they are answered, it sleeps to no instant
after the deadline and waits for no lock beyond it (`Punctual`).

Waits recurse on a number of tries, which is computed at the start. That number
is never what ends them: in time, a wait that is allowed more tries does the
same (`sameInTime_poll`).
-/

namespace CloudOrchestration

variable {Q R α β : Type}

namespace Deadline

variable {deadline : Deadline} {t t' interval n : Nat}

/-! ## What is left of a deadline -/

theorem isExpired_iff : deadline.isExpired t = true ↔ deadline.instant ≤ t := decide_eq_true_iff

theorem isExpired_eq_false_iff : deadline.isExpired t = false ↔ t < deadline.instant := by
  rw [← Bool.not_eq_true, isExpired_iff, Nat.not_le]

/-- No time is left just if the deadline has passed. -/
theorem remaining_eq_zero_iff : deadline.remaining t = 0 ↔ deadline.isExpired t = true := by
  rw [isExpired_iff]
  exact Nat.sub_eq_zero_iff_le

/-- **A budget and its headroom make up what is left**, and there is one just if
the headroom fits before the deadline. -/
theorem budgetAfter_eq_some_iff {headroom budget : Nat} :
    deadline.budgetAfter t headroom = some budget ↔
      deadline.isExpired t = false ∧ headroom ≤ deadline.remaining t ∧
        budget + headroom = deadline.remaining t := by
  unfold budgetAfter
  cases deadline.isExpired t with
  | true => simp
  | false =>
    by_cases hfits : headroom ≤ deadline.remaining t
    · have hsum : deadline.remaining t - headroom = budget ↔
          budget + headroom = deadline.remaining t := by omega
      simp [hfits, hsum]
    · simp [hfits]

/-! ## How many waits are left -/

/-- So many waits reach the deadline. -/
theorem waitsLeft_le_iff :
    deadline.waitsLeft t interval ≤ n ↔ deadline.remaining t ≤ n * max 1 interval := by
  have hpos : 0 < max 1 interval := Nat.le_max_left 1 interval
  have hdiv : deadline.waitsLeft t interval < n + 1 ↔
      deadline.remaining t + (max 1 interval - 1) < (n + 1) * max 1 interval :=
    Nat.div_lt_iff_lt_mul hpos
  have hmul : (n + 1) * max 1 interval = n * max 1 interval + max 1 interval := Nat.succ_mul n _
  omega

/-- No wait is left exactly from the deadline on. -/
theorem waitsLeft_eq_zero_iff :
    deadline.waitsLeft t interval = 0 ↔ deadline.instant ≤ t := by
  rw [← Nat.le_zero, waitsLeft_le_iff, Nat.zero_mul]
  unfold remaining Instant
  omega

/-- After a wait one less is left, if it lasts or something before it did. -/
theorem waitsLeft_wake_le (hpace : 0 < interval ∨ t < t') (hle : t ≤ t')
    (hn : deadline.waitsLeft t interval ≤ n + 1) :
    deadline.waitsLeft (max t' (deadline.wake t' interval)) interval ≤ n := by
  rw [waitsLeft_le_iff] at hn ⊢
  have hmul : (n + 1) * max 1 interval = n * max 1 interval + max 1 interval := Nat.succ_mul n _
  simp only [remaining, wake] at hn ⊢
  omega

/-- Before the deadline a sleep is cut short there. -/
theorem max_wake (hlt : t < deadline.instant) :
    max t (deadline.wake t interval) = min (t + interval) deadline.instant := by
  unfold wake
  omega

/-- **Before the deadline a wait uses up exactly one** of those that are left,
also the one that is cut short. -/
theorem waitsLeft_eq_succ (hinterval : 0 < interval) (hlt : t < deadline.instant) :
    deadline.waitsLeft t interval =
      deadline.waitsLeft (min (t + interval) deadline.instant) interval + 1 := by
  have hstep : ∀ n, deadline.waitsLeft t interval ≤ n + 1 ↔
      deadline.waitsLeft (min (t + interval) deadline.instant) interval ≤ n := by
    intro n
    rw [waitsLeft_le_iff, waitsLeft_le_iff, Nat.max_eq_right hinterval]
    have hmul : (n + 1) * interval = n * interval + interval := Nat.succ_mul n interval
    unfold remaining Instant
    omega
  have hpos : deadline.waitsLeft t interval ≠ 0 := by
    rw [Ne, waitsLeft_eq_zero_iff]
    exact Nat.not_le_of_lt hlt
  have hle := (hstep _).2 (Nat.le_refl _)
  have hge := (hstep (deadline.waitsLeft t interval - 1)).1 (by omega)
  omega

end Deadline

/-! ## Effects -/

namespace Effect

/-- **The time of an effect**: whether it can begin at the first instant and be
answered so at the second. -/
def Takes : (e : Effect Q R) → e.Answer → Instant → Instant → Prop
  | now, answer, t, t' => answer = t ∧ t' = t
  | sleepUntil instant, _, t, t' => t' = max t instant
  | ask _, _, t, t' => t ≤ t'
  | acquire _ budget, _, t, t' => t ≤ t' ∧ t' ≤ t + budget
  | release _, _, t, t' | isLocked _, _, t, t' | track _, _, t, t' | untrack _, _, t, t'
  | tracked, _, t, t' | draw, _, t, t' => t' = t

/-- **An effect keeps to a deadline** if it is a request, or is over by then. -/
def KeepsTo (deadline : Deadline) (t : Instant) : Effect Q R → Prop
  | sleepUntil instant => instant ≤ deadline.instant
  | acquire _ budget => 0 < budget → t + budget ≤ deadline.instant
  | now | ask _ | release _ | isLocked _ | track _ | untrack _ | tracked | draw => True

/-- No effect goes back in time. -/
theorem Takes.le {e : Effect Q R} {answer : e.Answer} {t t' : Instant}
    (h : e.Takes answer t t') : t ≤ t' := by
  cases e with
  | now => exact Nat.le_of_eq h.2.symm
  | sleepUntil instant => exact Nat.le_trans (Nat.le_max_left t instant) (Nat.le_of_eq (Eq.symm h))
  | ask q => exact h
  | acquire domain budget => exact h.1
  | release | isLocked | track | untrack | tracked | draw => exact Nat.le_of_eq (Eq.symm h)

end Effect

namespace Workflow

variable {deadline : Deadline} {t : Instant} {interval : Nat} {what : String}

/-! ## Keeping to a deadline -/

/-- **A workflow keeps to a deadline** from an instant on: each of its effects
does, whatever they are answered and however long they take. -/
def KeepsTime (deadline : Deadline) : Workflow Q R α → Instant → Prop
  | done _, _ | fail _, _ => True
  | perform e next, t =>
    e.KeepsTo deadline t ∧ ∀ answer t', e.Takes answer t t' → (next answer).KeepsTime deadline t'

/-- **A punctual workflow** keeps to the deadline whenever it begins. -/
def Punctual (deadline : Deadline) (w : Workflow Q R α) : Prop := ∀ t, w.KeepsTime deadline t

/-! ## Keeping to a rule -/

/-- **A rule for calls with a deadline**: which effects may begin at an instant. The
least that it allows is what such a call does on its way: ordinary effects, sleeps
that are cut short at the deadline, and waits for a lock that the deadline allows. -/
structure Rule (deadline : Deadline) (Q R : Type) where
  Allows : Instant → Effect Q R → Prop
  now : ∀ t, Allows t .now
  ask : ∀ t q, Allows t (.ask q)
  release : ∀ t domain, Allows t (.release domain)
  draw : ∀ t, Allows t .draw
  sleepUntil : ∀ t interval, Allows t (.sleepUntil (deadline.wake t interval))
  acquire : ∀ {t domain budget}, budget ≤ deadline.remaining t → Allows t (.acquire domain budget)

/-- The rule that every effect keeps to the deadline. -/
def Rule.punctual (deadline : Deadline) : Rule deadline Q R where
  Allows t e := e.KeepsTo deadline t
  now _ := trivial
  ask _ _ := trivial
  release _ _ := trivial
  draw _ := trivial
  sleepUntil t interval := Nat.min_le_right (t + interval) deadline.instant
  acquire := by
    intro t domain budget hbudget hpos
    have hlt : t < deadline.instant := Nat.lt_of_sub_pos (Nat.lt_of_lt_of_le hpos hbudget)
    exact Nat.add_le_of_le_sub' (Nat.le_of_lt hlt) hbudget

variable {rule : Rule deadline Q R}

/-- **A workflow heeds a rule** from an instant on: each of its effects is allowed
when it begins, whatever they are answered and however long they take. -/
def HeedsFrom (rule : Rule deadline Q R) : Workflow Q R α → Instant → Prop
  | done _, _ | fail _, _ => True
  | perform e next, t =>
    rule.Allows t e ∧ ∀ answer t', e.Takes answer t t' → (next answer).HeedsFrom rule t'

/-- It heeds the rule whenever it begins. -/
def Heeds (rule : Rule deadline Q R) (w : Workflow Q R α) : Prop := ∀ t, w.HeedsFrom rule t

/-- To keep to a deadline is to heed a rule. -/
theorem keepsTime_iff {w : Workflow Q R α} :
    w.KeepsTime deadline t ↔ w.HeedsFrom (.punctual deadline) t := by
  induction w generalizing t with
  | done a => rfl
  | fail fault => rfl
  | perform e next ih => simp only [KeepsTime, HeedsFrom, ih, Rule.punctual]

theorem punctual_iff {w : Workflow Q R α} :
    w.Punctual deadline ↔ w.Heeds (.punctual deadline) := forall_congr' fun _ => keepsTime_iff

theorem heedsFrom_bind {w : Workflow Q R α} {f : α → Workflow Q R β}
    (hw : w.HeedsFrom rule t) (hf : ∀ a t', t ≤ t' → (f a).HeedsFrom rule t') :
    (w.bind f).HeedsFrom rule t := by
  induction w generalizing t with
  | done a => exact hf a t (Nat.le_refl t)
  | fail fault => trivial
  | perform e next ih =>
    obtain ⟨hallows, hnext⟩ := hw
    refine ⟨hallows, fun answer t' htakes => ih answer (hnext answer t' htakes) ?_⟩
    exact fun a t'' hle => hf a t'' (Nat.le_trans htakes.le hle)

theorem heedsFrom_attempt {w : Workflow Q R α} (hw : w.HeedsFrom rule t) :
    w.attempt.HeedsFrom rule t := by
  induction w generalizing t with
  | done a => trivial
  | fail fault => trivial
  | perform e next ih =>
    obtain ⟨hallows, hnext⟩ := hw
    exact ⟨hallows, fun answer t' htakes => ih answer (hnext answer t' htakes)⟩

/-- **The clock tells the instant** at which it is read. -/
theorem heedsFrom_now_bind {f : Instant → Workflow Q R α} (hf : (f t).HeedsFrom rule t) :
    (now.bind f).HeedsFrom rule t := by
  refine ⟨rule.now t, ?_⟩
  rintro _ _ ⟨rfl, rfl⟩
  exact hf

/-- **A lock may be waited for** as long as the deadline allows. -/
theorem heedsFrom_holding {domain : Domain} {budget : Nat} {body : Workflow Q R α}
    (hbudget : budget ≤ deadline.remaining t) (hbody : body.Heeds rule) :
    (holding domain budget body).HeedsFrom rule t := by
  refine ⟨rule.acquire hbudget, fun answer t' _ => ?_⟩
  cases answer with
  | false => trivial
  | true =>
    show HeedsFrom rule (body.attempt.bind fun outcome =>
      (release domain).bind fun _ => ofExcept outcome) t'
    refine heedsFrom_bind (heedsFrom_attempt (hbody t')) fun outcome t'' _ => ?_
    refine ⟨rule.release t'' domain, fun _ _ _ => ?_⟩
    cases outcome <;> trivial

/-! ## The ways of workflows -/

theorem heeds_done (a : α) : (done a : Workflow Q R α).Heeds rule := fun _ => trivial

theorem heeds_fail (fault : Fault) : (fail fault : Workflow Q R α).Heeds rule :=
  fun _ => trivial

theorem heeds_ofExcept (r : Except Fault α) :
    (ofExcept r : Workflow Q R α).Heeds rule := by
  cases r with
  | ok a => exact heeds_done a
  | error fault => exact heeds_fail fault

/-- **Sequencing heeds the rule.** -/
theorem heeds_bind {w : Workflow Q R α} {f : α → Workflow Q R β} (hw : w.Heeds rule)
    (hf : ∀ a, (f a).Heeds rule) : (w.bind f).Heeds rule :=
  fun t => heedsFrom_bind (hw t) fun a t' _ => hf a t'

theorem heeds_attempt {w : Workflow Q R α} (hw : w.Heeds rule) :
    w.attempt.Heeds rule := fun t => heedsFrom_attempt (hw t)

theorem heeds_regardless {w : Workflow Q R α} (hw : w.Heeds rule) :
    (regardless w).Heeds rule :=
  heeds_bind (heeds_attempt hw) fun _ => heeds_done _

theorem heeds_forM {l : List β} {f : β → Workflow Q R Unit}
    (hf : ∀ b, (f b).Heeds rule) : Heeds rule (l.forM f) := by
  induction l with
  | nil => exact heeds_done _
  | cons b l ih => exact heeds_bind (hf b) fun _ => ih

/-- An effect that is allowed. -/
theorem heeds_effect {e : Effect Q R} (he : ∀ t, rule.Allows t e) :
    (effect e).Heeds rule := fun t => ⟨he t, fun _ _ _ => trivial⟩

theorem heeds_now : (now : Workflow Q R Instant).Heeds rule := heeds_effect rule.now

theorem heeds_ask {q : Q} : (ask q : Workflow Q R R).Heeds rule := heeds_effect fun t => rule.ask t q

/-- **A sleep is cut short at the deadline.** -/
theorem heeds_sleep : (sleep deadline interval : Workflow Q R Unit).Heeds rule := by
  intro t
  refine heedsFrom_now_bind ?_
  exact ⟨rule.sleepUntil t interval, fun _ _ _ => trivial⟩

theorem heeds_lookOnce {look : Workflow Q R α} {judge : α → Readiness β}
    {again : String → Workflow Q R β} (hlook : look.Heeds rule)
    (hagain : ∀ state, (again state).Heeds rule) :
    (lookOnce deadline what look judge again).Heeds rule := by
  refine heeds_bind hlook fun a => ?_
  cases judge a with
  | ready b => exact heeds_done b
  | stuck reason => exact heeds_fail _
  | pending state =>
    refine heeds_bind heeds_now fun t => ?_
    split
    · exact heeds_fail _
    · exact hagain state

theorem heeds_poll {look : Workflow Q R α} {judge : α → Readiness β}
    (hlook : look.Heeds rule) (sleeps : Nat) :
    (poll deadline interval what look judge sleeps).Heeds rule := by
  induction sleeps with
  | zero => exact heeds_lookOnce hlook fun _ => heeds_fail _
  | succ sleeps ih =>
    exact heeds_lookOnce hlook fun _ => heeds_bind heeds_sleep fun _ => ih

/-- A wait heeds the rule if its looks do. -/
theorem heeds_awaitState {look : Workflow Q R α} {judge : α → Readiness β}
    (hlook : look.Heeds rule) :
    (awaitState deadline interval what look judge).Heeds rule :=
  heeds_bind heeds_now fun _ => heeds_poll hlook _

theorem punctual_done (a : α) : (done a : Workflow Q R α).Punctual deadline := fun _ => trivial

/-- **Sequencing keeps to the deadline.** -/
theorem punctual_bind {w : Workflow Q R α} {f : α → Workflow Q R β} (hw : w.Punctual deadline)
    (hf : ∀ a, (f a).Punctual deadline) : (w.bind f).Punctual deadline :=
  punctual_iff.2 (heeds_bind (punctual_iff.1 hw) fun a => punctual_iff.1 (hf a))

/-! ## The same in time -/

/-- **Two workflows do the same in time**, from an instant on: they perform the
same effects and end in the same way, for all answers at all the times at which
these can arrive. -/
inductive SameInTime : Instant → Workflow Q R α → Workflow Q R α → Prop where
  | done {t : Instant} (a : α) : SameInTime t (done a) (done a)
  | fail {t : Instant} (fault : Fault) : SameInTime t (fail fault) (fail fault)
  | perform {t : Instant} {e : Effect Q R} {next next' : e.Answer → Workflow Q R α}
      (h : ∀ answer t', e.Takes answer t t' → SameInTime t' (next answer) (next' answer)) :
      SameInTime t (perform e next) (perform e next')

theorem sameInTime_refl (w : Workflow Q R α) (t : Instant) : SameInTime t w w := by
  induction w generalizing t with
  | done a => exact .done a
  | fail fault => exact .fail fault
  | perform e next ih => exact .perform fun answer t' _ => ih answer t'

theorem sameInTime_bind {w : Workflow Q R α} {f g : α → Workflow Q R β}
    (h : ∀ a t', t ≤ t' → SameInTime t' (f a) (g a)) :
    SameInTime t (w.bind f) (w.bind g) := by
  induction w generalizing t with
  | done a => exact h a t (Nat.le_refl t)
  | fail fault => exact .fail fault
  | perform e next ih =>
    refine .perform fun answer t' htakes => ih answer fun a t'' hle => ?_
    exact h a t'' (Nat.le_trans htakes.le hle)

theorem sameInTime_now_bind {f g : Instant → Workflow Q R α} (h : SameInTime t (f t) (g t)) :
    SameInTime t (now.bind f) (now.bind g) := by
  refine .perform ?_
  rintro _ _ ⟨rfl, rfl⟩
  exact h

theorem sameInTime_sleep_bind {f g : Unit → Workflow Q R α}
    (h : SameInTime (max t (deadline.wake t interval)) (f ()) (g ())) :
    SameInTime t ((sleep deadline interval).bind f) ((sleep deadline interval).bind g) := by
  simp only [sleep, bind_eq, bind_assoc]
  refine sameInTime_now_bind (.perform ?_)
  rintro ⟨⟩ _ rfl
  exact h

/-- A sleep does not panic if the clock can show the end of its interval. -/
theorem sameInTime_sleep?_bind {f : Option Unit → Workflow Q R α}
    (hle : t + interval ≤ Instant.last) :
    SameInTime t ((sleep? deadline interval).bind f)
      ((sleep deadline interval).bind fun _ => f (some ())) := by
  have hwake : deadline.wake? t interval = some (deadline.wake t interval) := if_pos hle
  simp only [sleep?, sleep, bind_eq, bind_assoc]
  refine sameInTime_now_bind ?_
  rw [hwake]
  exact sameInTime_refl _ t

/-- Going on matters only before the deadline. -/
theorem sameInTime_unlessExpired {w w₁ w₂ : Workflow Q R α}
    (h : t < deadline.instant → SameInTime t w₁ w₂) :
    SameInTime t (now.bind fun t => if deadline.isExpired t then w else w₁)
      (now.bind fun t => if deadline.isExpired t then w else w₂) := by
  refine sameInTime_now_bind ?_
  by_cases hexpired : deadline.isExpired t
  · simp only [hexpired, if_true]
    exact sameInTime_refl w t
  · simp only [hexpired, if_false, Bool.false_eq_true]
    simp only [Deadline.isExpired, decide_eq_true_eq] at hexpired
    exact h (Nat.lt_of_not_le hexpired)

theorem sameInTime_lookOnce {look : Workflow Q R α} {judge : α → Readiness β}
    {again again' : String → Workflow Q R β}
    (h : ∀ state t', t ≤ t' → t' < deadline.instant →
      SameInTime t' (again state) (again' state)) :
    SameInTime t (lookOnce deadline what look judge again)
      (lookOnce deadline what look judge again') := by
  refine sameInTime_bind fun a t' hle => ?_
  cases judge a with
  | ready b => exact sameInTime_refl _ t'
  | stuck reason => exact sameInTime_refl _ t'
  | pending state => exact sameInTime_unlessExpired (h state t' hle)

/-- **Its number of tries is not what ends a wait**: with more of them it does
the same in time. -/
theorem sameInTime_poll (hinterval : 0 < interval) {look : Workflow Q R α}
    {judge : α → Readiness β} {sleeps : Nat} (more : Nat)
    (hsleeps : deadline.waitsLeft t interval ≤ sleeps) :
    SameInTime t (poll deadline interval what look judge sleeps)
      (poll deadline interval what look judge (sleeps + more)) := by
  induction sleeps generalizing t with
  | zero =>
    -- no wait is left, so the look is at the deadline or after
    have hexpired : deadline.instant ≤ t :=
      Deadline.waitsLeft_eq_zero_iff.1 (Nat.le_zero.1 hsleeps)
    rw [Nat.zero_add]
    cases more with
    | zero => exact sameInTime_refl _ t
    | succ more =>
      refine sameInTime_lookOnce fun state t' hle hlt => ?_
      exact absurd hlt (Nat.not_lt_of_le (Nat.le_trans hexpired hle))
  | succ sleeps ih =>
    rw [Nat.add_right_comm]
    refine sameInTime_lookOnce fun state t' hle _ => ?_
    exact sameInTime_sleep_bind (ih (Deadline.waitsLeft_wake_le (.inl hinterval) hle hsleeps))

end Workflow

end CloudOrchestration
