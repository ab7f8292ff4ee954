import CloudOrchestration.Proofs.Schedule.Clocked
/-!
# Before the first request

A workflow opens early if, whatever it is answered and however long it waits,
its first request is sent at an instant that is early enough, or it ends without
any (`Workflow.Opens`). So does every run against the clock
(`Opens.of_runsFrom`), and with it the strand of such a workflow, in whatever
order strands act and whatever the others do (`inevitably_opened`).
-/

namespace CloudOrchestration

open Workflow

variable {σ Q R α β : Type} {server : Server σ Q R}

/-- The request that an effect sends. -/
def Effect.request? : Effect Q R → Option Q
  | ask q => some q
  | now | sleepUntil _ | acquire _ _ | release _ | isLocked _ | track _ | untrack _ | tracked
  | draw => none

/-! ## Workflows -/

namespace Workflow

variable {early : Instant → Prop} {post : Instant → Except Fault α → Prop} {t : Instant}

/-- **How a workflow opens** from an instant on: its first request is sent
early, and if it ends without any, then with such an end. -/
def Opens (early : Instant → Prop) (post : Instant → Except Fault α → Prop) :
    Workflow Q R α → Instant → Prop
  | done a, t => post t (.ok a)
  | fail fault, t => post t (.error fault)
  | perform e next, t =>
    if e.request?.isSome then early t
    else ∀ answer t', e.Takes answer t t' → (next answer).Opens early post t'

/-- A workflow that begins with a request. -/
def AsksFirst (w : Workflow Q R α) : Prop := ∃ q next, w = perform (.ask q) next

theorem AsksFirst.bind {w : Workflow Q R α} (h : w.AsksFirst) (f : α → Workflow Q R β) :
    (w.bind f).AsksFirst := by
  obtain ⟨q, next, rfl⟩ := h
  exact ⟨q, _, rfl⟩

theorem AsksFirst.attempt {w : Workflow Q R α} (h : w.AsksFirst) : w.attempt.AsksFirst := by
  obtain ⟨q, next, rfl⟩ := h
  exact ⟨q, _, rfl⟩

theorem AsksFirst.opens {w : Workflow Q R α} (h : w.AsksFirst) (hearly : early t) :
    w.Opens early post t := by
  obtain ⟨q, next, rfl⟩ := h
  exact hearly

theorem opens_now_bind {f : Instant → Workflow Q R α} (h : (f t).Opens early post t) :
    (now.bind f).Opens early post t := by
  rintro _ _ ⟨rfl, rfl⟩
  exact h

/-- What a workflow ends with, if it has asked for nothing, the rest goes on
from. -/
theorem opens_bind {w : Workflow Q R α} {f : α → Workflow Q R β}
    {post' : Instant → Except Fault β → Prop} (hw : w.Opens early post t)
    (hf : ∀ t a, post t (.ok a) → (f a).Opens early post' t)
    (hfault : ∀ t fault, post t (.error fault) → post' t (.error fault)) :
    (w.bind f).Opens early post' t := by
  induction w generalizing t with
  | done a => exact hf t a hw
  | fail fault => exact hfault t fault hw
  | perform e next ih =>
    simp only [perform_bind, Opens] at hw ⊢
    split
    next hask => rwa [if_pos hask] at hw
    next hask =>
      rw [if_neg hask] at hw
      exact fun answer t' htakes => ih answer (hw answer t' htakes)

theorem opens_map {w : Workflow Q R α} {post' : Instant → Except Fault β → Prop} {f : α → β}
    (hw : w.Opens early post t) (himp : ∀ t o, post t o → post' t (o.map f)) :
    (f <$> w).Opens early post' t :=
  opens_bind hw (fun t a => himp t (.ok a)) fun t fault => himp t (.error fault)

/-- **While it waits for a lock** a workflow asks for nothing; it has it within
the budget, or goes on without. -/
theorem opens_holding_bind {domain : Domain} {budget : Nat} {body : Workflow Q R β}
    {f : Except Fault β → Workflow Q R α} (hbody : body.AsksFirst)
    (hearly : ∀ t', t ≤ t' → t' ≤ t + budget → early t')
    (hrefused : ∀ t', t ≤ t' → t' ≤ t + budget →
      (f (.error (.lockTimeout (.busy domain budget)))).Opens early post t') :
    ((holding domain budget body).attempt.bind f).Opens early post t := by
  rintro granted t' ⟨hle, hbudget⟩
  cases granted with
  | false => exact hrefused t' hle hbudget
  | true => exact ((hbody.attempt.bind _).attempt.bind f).opens (hearly t' hle hbudget)

/-- **A run of such a workflow** begins with an early request, or has none. -/
theorem Opens.of_runsFrom {w : Workflow Q R α} {t' : Instant} {l : List (Dealing Q R)}
    {o : Except Fault α} (h : w.Opens early post t) (hr : w.RunsFrom t l t' o) :
    (∃ x rest, l = x :: rest ∧ early x.begun) ∨ l = [] ∧ post t' o := by
  induction hr with
  | done a => exact .inr ⟨rfl, h⟩
  | fail fault => exact .inr ⟨rfl, h⟩
  | @perform e next t t₁ t' l o answer htakes hrest ih =>
    cases e with
    | ask q => exact .inl ⟨_, l, rfl, h⟩
    | now | sleepUntil | acquire | release | isLocked | track | untrack | tracked | draw =>
      exact ih (h answer t₁ htakes)

end Workflow

/-! ## Schedules -/

namespace Schedule

variable {s : Schedule σ Q R α} {i : Nat} {t : Instant}
variable {early : Instant → Prop} {post : Instant → Except Fault α → Prop}

/-- The requests of a strand are those of its dealings. -/
theorem requests_eq_map_dealings :
    s.requests i = (s.dealings i).map fun x => (x.begun, x.value.1) := by
  unfold requests dealings
  rw [List.map_filterMap]
  congr 1
  funext e
  by_cases hi : e.strand = i
  · cases hhappening : e.happening <;> simp [hi, hhappening, Event.dealing?]
  · cases hhappening : e.happening <;> simp [hi]

/-- The first request of the strand of a number was sent early. -/
def AskedEarly (early : Instant → Prop) (i : Nat) (s : Schedule σ Q R α) : Prop :=
  ∃ t q rest, s.requests i = (t, q) :: rest ∧ early t

/-- **A workflow that opens early does so in every schedule**: it ends, and then
it has sent its first request early, or none, and ended as it may without. -/
theorem inevitably_opened {w : Workflow Q R α} (hw : w.Opens early post (max s.world.clock t))
    (hi : s.strands[i]? = some (.running t w)) (hlog : ∀ e ∈ s.log, e.strand ≠ i) :
    Inevitably server (fun s' => ∃ finish o, s'.strands[i]? = some (.ended finish o) ∧
      (s'.AskedEarly early i ∨ s'.requests i = [] ∧ post finish o)) s := by
  refine (inevitably_runsFrom hi hlog).mono ?_
  rintro s' ⟨finish, o, hended, hruns⟩
  refine ⟨finish, o, hended, ?_⟩
  rw [AskedEarly, requests_eq_map_dealings]
  obtain ⟨x, rest, hdealings, hearly⟩ | ⟨hnone, hpost⟩ := hw.of_runsFrom hruns
  · rw [hdealings]
    exact .inl ⟨x.begun, x.value.1, _, rfl, hearly⟩
  · rw [hnone]
    exact .inr ⟨rfl, hpost⟩

end Schedule

end CloudOrchestration
