import CloudOrchestration.Proofs.Workflow.Timing
import CloudOrchestration.Schedule.World
/-!
# What workflows make of the tracked accounts

The tracked accounts are changed by two effects and shown by a third
(`Effect.accountsAfter`, `Effect.Shows`); nothing else that a workflow does has to do
with them. So what a workflow leaves of them can be told from its text, whatever its
requests are answered: `Workflow.Leaves` demands something of every end and of the
accounts that are tracked then, and has a rule for each construct. A workflow without
any of the three effects leaves the accounts as they are (`Workflow.Leaves.of_sparing`).
-/

namespace CloudOrchestration

variable {Q R α β : Type}

namespace Effect

/-- Whether an effect is on the tracked accounts. -/
def isOnAccounts : Effect Q R → Bool
  | track _ | untrack _ | tracked => true
  | now | sleepUntil _ | ask _ | acquire _ _ | release _ | isLocked _ | draw => false

/-- The tracked accounts after an effect. -/
def accountsAfter (accounts : List String) : Effect Q R → List String
  | track name => insertName name accounts
  | untrack name => accounts.filter (· != name)
  | tracked | now | sleepUntil _ | ask _ | acquire _ _ | release _ | isLocked _ | draw => accounts

/-- An answer shows the tracked accounts, if it is to a look at them. -/
def Shows (accounts : List String) : (e : Effect Q R) → e.Answer → Prop
  | tracked, shown => shown = accounts
  | track _, _ | untrack _, _ | now, _ | sleepUntil _, _ | ask _, _ | acquire _ _, _ | release _, _
  | isLocked _, _ | draw, _ => True

theorem accountsAfter_of_not_isOnAccounts {e : Effect Q R} {accounts : List String}
    (h : e.isOnAccounts = false) : e.accountsAfter accounts = accounts := by
  cases e with
  | track | untrack => cases h
  | _ => rfl

end Effect

namespace Workflow

variable {deadline : Deadline} {rule : Rule deadline Q R} {t : Instant}
variable {accounts : List String} {name : String}

/-! ## Rules about accounts -/

/-- The rule that no effect is on the tracked accounts. -/
def Rule.sparing (deadline : Deadline) : Rule deadline Q R where
  Allows _ e := e.isOnAccounts = false
  now _ := rfl
  ask _ _ := rfl
  release _ _ := rfl
  draw _ := rfl
  sleepUntil _ _ := rfl
  acquire _ := rfl

/-- A rule that says nothing of the tracked accounts. -/
def Rule.AllowsAccounts (rule : Rule deadline Q R) : Prop :=
  ∀ t e, e.isOnAccounts → rule.Allows t e

theorem Rule.allowsAccounts_punctual :
    (Rule.punctual deadline : Rule deadline Q R).AllowsAccounts := by
  intro t e he
  cases e with
  | track | untrack | tracked => trivial
  | _ => cases he

/-! ## What is left -/

/-- **A workflow leaves what is demanded**, from an instant and the accounts that are
tracked then: of its end, of the instant of that, and of the accounts that are tracked
at the end. -/
def Leaves (P : Except Fault α → Instant → List String → Prop) :
    Workflow Q R α → Instant → List String → Prop
  | done a, t, accounts => P (.ok a) t accounts
  | fail fault, t, accounts => P (.error fault) t accounts
  | perform e next, t, accounts =>
    ∀ answer t', e.Takes answer t t' → e.Shows accounts answer →
      (next answer).Leaves P t' (e.accountsAfter accounts)

variable {P P' : Except Fault α → Instant → List String → Prop}
variable {S : Except Fault β → Instant → List String → Prop}

theorem Leaves.mono {w : Workflow Q R α} (hw : w.Leaves P t accounts)
    (hp : ∀ o t accounts, P o t accounts → P' o t accounts) : w.Leaves P' t accounts := by
  induction w generalizing t accounts with
  | done a => exact hp _ _ _ hw
  | fail fault => exact hp _ _ _ hw
  | perform e next ih =>
    exact fun answer t' htakes hshows => ih answer (hw answer t' htakes hshows)

/-- What the second part of a sequence is to leave is demanded of the first. -/
theorem Leaves.bind {w : Workflow Q R α} {f : α → Workflow Q R β}
    (hw : w.Leaves (fun o t accounts =>
      match o with
      | .ok a => (f a).Leaves S t accounts
      | .error fault => S (.error fault) t accounts) t accounts) :
    (w.bind f).Leaves S t accounts := by
  induction w generalizing t accounts with
  | done a => exact hw
  | fail fault => exact hw
  | perform e next ih =>
    exact fun answer t' htakes hshows => ih answer (hw answer t' htakes hshows)

theorem Leaves.attempt {w : Workflow Q R α} {S : Except Fault (Except Fault α) → Instant →
    List String → Prop} (hw : w.Leaves (fun o => S (.ok o)) t accounts) :
    w.attempt.Leaves S t accounts := by
  induction w generalizing t accounts with
  | done a => exact hw
  | fail fault => exact hw
  | perform e next ih =>
    exact fun answer t' htakes hshows => ih answer (hw answer t' htakes hshows)

/-- **Who has nothing to do with the accounts** leaves them as they are. -/
theorem Leaves.of_sparing {w : Workflow Q R α} (hw : w.HeedsFrom (.sparing deadline) t)
    (hp : ∀ o t', P o t' accounts) : w.Leaves P t accounts := by
  induction w generalizing t with
  | done a => exact hp _ _
  | fail fault => exact hp _ _
  | perform e next ih =>
    obtain ⟨hspares, hnext⟩ := hw
    intro answer t' htakes _
    rw [e.accountsAfter_of_not_isOnAccounts hspares]
    exact ih answer (hnext answer t' htakes)

/-- Before the accounts are touched, a sequence may end with any fault. -/
theorem Leaves.sparing_bind {w : Workflow Q R α} {f : α → Workflow Q R β}
    (hw : w.Heeds (.sparing deadline)) (hfault : ∀ fault t, S (.error fault) t accounts)
    (hf : ∀ a t, (f a).Leaves S t accounts) : (w.bind f).Leaves S t accounts := by
  refine Leaves.bind (Leaves.of_sparing (hw t) fun o t' => ?_)
  cases o with
  | ok a => exact hf a t'
  | error fault => exact hfault fault t'

theorem Leaves.track_bind {f : Unit → Workflow Q R β}
    (hf : ∀ t, (f ()).Leaves S t (insertName name accounts)) :
    ((track name).bind f).Leaves S t accounts := fun _ t' _ _ => hf t'

theorem Leaves.untrack_bind {f : Unit → Workflow Q R β}
    (hf : ∀ t, (f ()).Leaves S t (accounts.filter (· != name))) :
    ((untrack name).bind f).Leaves S t accounts := fun _ t' _ _ => hf t'

/-- **A look shows the tracked accounts.** -/
theorem Leaves.tracked_bind {f : List String → Workflow Q R β}
    (hf : ∀ t, (f accounts).Leaves S t accounts) : (tracked.bind f).Leaves S t accounts := by
  rintro _ t' _ rfl
  exact hf t'

end Workflow

end CloudOrchestration
