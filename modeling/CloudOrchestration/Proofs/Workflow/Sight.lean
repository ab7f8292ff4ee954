import CloudOrchestration.Proofs.Workflow.Run
import CloudOrchestration.Workflow.Polling
/-!
# What is seen of a run

To others a run shows its requests and what it does to the locks; when it
reads the clock, sleeps or looks at the tracked accounts is its own affair.
`sights` keeps what is shown. Most calls show nothing but requests of one
kind: `OnlyAsks`, which sequencing and waiting preserve.
-/

namespace CloudOrchestration

/-- What others see of one effect. -/
inductive Sight (Q R : Type) where
  | asked (q : Q) (r : R)
  | acquired (domain : Domain)
  | refused (domain : Domain)
  | released (domain : Domain)

namespace History

variable {Q R : Type}

/-- What is seen of an exchange. -/
def sight? : Exchange Q R → Option (Sight Q R)
  | ⟨.ask q, r⟩ => some (.asked q r)
  | ⟨.acquire d _, true⟩ => some (.acquired d)
  | ⟨.acquire d _, false⟩ => some (.refused d)
  | ⟨.release d, _⟩ => some (.released d)
  | _ => none

/-- What is seen of a run, in order. -/
def sights (h : History Q R) : List (Sight Q R) := h.filterMap sight?

@[simp] theorem sights_nil : sights ([] : History Q R) = [] := rfl

@[simp] theorem sights_append (h₁ h₂ : History Q R) :
    sights (h₁ ++ h₂) = sights h₁ ++ sights h₂ := List.filterMap_append

@[simp] theorem sights_ask (q : Q) (r : R) (h : History Q R) :
    sights (⟨.ask q, r⟩ :: h) = .asked q r :: sights h := rfl

@[simp] theorem sights_acquire_true (d : Domain) (budget : Nat) (h : History Q R) :
    sights (⟨.acquire d budget, true⟩ :: h) = .acquired d :: sights h := rfl

@[simp] theorem sights_acquire_false (d : Domain) (budget : Nat) (h : History Q R) :
    sights (⟨.acquire d budget, false⟩ :: h) = .refused d :: sights h := rfl

@[simp] theorem sights_release (d : Domain) (u : Unit) (h : History Q R) :
    sights (⟨.release d, u⟩ :: h) = .released d :: sights h := rfl

@[simp] theorem sights_now (t : Instant) (h : History Q R) :
    sights (⟨.now, t⟩ :: h) = sights h := rfl

@[simp] theorem sights_sleepUntil (t : Instant) (u : Unit) (h : History Q R) :
    sights (⟨.sleepUntil t, u⟩ :: h) = sights h := rfl

@[simp] theorem sights_draw (x : Draw) (h : History Q R) :
    sights (⟨.draw, x⟩ :: h) = sights h := rfl

end History

namespace Sight

variable {Q R : Type}

/-- The request of a sight, with its answer. -/
def asked? : Sight Q R → Option (Q × R)
  | asked q r => some (q, r)
  | acquired _ | refused _ | released _ => none

end Sight

/-- The requests are among what is seen. -/
theorem History.asked_eq_sights {Q R : Type} (h : History Q R) :
    h.asked = h.sights.filterMap Sight.asked? := by
  rw [History.asked, History.sights, List.filterMap_filterMap]
  congr 1
  funext x
  obtain ⟨e, a⟩ := x
  cases e <;> try rfl
  cases a <;> rfl

theorem History.mem_asked {Q R : Type} {h : History Q R} {q : Q} {r : R} :
    (q, r) ∈ h.asked ↔ .asked q r ∈ h.sights := by
  rw [asked_eq_sights, List.mem_filterMap]
  constructor
  · rintro ⟨x, hx, heq⟩
    cases x with
    | asked =>
      cases heq
      exact hx
    | acquired | refused | released => cases heq
  · exact fun hx => ⟨_, hx, rfl⟩

namespace Workflow

variable {Q R α β : Type} {p p' : Q → Prop}

/-- **Nothing but requests of a kind** is seen of the workflow, whatever it
is answered. -/
def OnlyAsks (p : Q → Prop) (w : Workflow Q R α) : Prop :=
  ∀ h o, Runs w h o → ∀ s ∈ h.sights, ∃ q r, s = .asked q r ∧ p q

theorem OnlyAsks.mono {w : Workflow Q R α} (hw : OnlyAsks p w) (hp : ∀ q, p q → p' q) :
    OnlyAsks p' w := by
  intro h o hr s hs
  obtain ⟨q, r, rfl, hq⟩ := hw h o hr s hs
  exact ⟨q, r, rfl, hp q hq⟩

/-- Of whatever kind, all that is seen is requests. -/
theorem OnlyAsks.exists_asked {w : Workflow Q R α} (hw : OnlyAsks p w) {h : History Q R}
    {o : Except Fault α} (hr : Runs w h o) : ∀ x ∈ h.sights, ∃ q r, x = .asked q r := by
  intro x hx
  obtain ⟨q, r, rfl, -⟩ := hw h o hr x hx
  exact ⟨q, r, rfl⟩

theorem OnlyAsks.sights_eq {w : Workflow Q R α} (hw : OnlyAsks p w) {h : History Q R}
    {o : Except Fault α} (hr : Runs w h o) : h.sights = h.asked.map fun x => .asked x.1 x.2 := by
  rw [History.asked_eq_sights]
  have hall := hw h o hr
  generalize h.sights = l at hall ⊢
  induction l with
  | nil => rfl
  | cons s l ih =>
    obtain ⟨q, r, rfl, -⟩ := hall s (by simp)
    have := ih fun s hs => hall s (by simp [hs])
    simp only [List.filterMap_cons, Sight.asked?, List.map_cons]
    rw [← this]

/-- The requests of such a workflow are of the kind. -/
theorem OnlyAsks.of_mem_asked {w : Workflow Q R α} (hw : OnlyAsks p w) {h : History Q R}
    {o : Except Fault α} (hr : Runs w h o) {x : Q × R} (hx : x ∈ h.asked) : p x.1 := by
  obtain ⟨q, r, hq, hp⟩ := hw h o hr _ (History.mem_asked.1 hx)
  cases hq
  exact hp

/-! ## Workflows that only ask -/

theorem onlyAsks_done (a : α) : OnlyAsks p (done a : Workflow Q R α) := by
  intro h o hr
  obtain ⟨rfl, -⟩ := runs_done.1 hr
  simp

theorem onlyAsks_fail (fault : Fault) : OnlyAsks p (fail fault : Workflow Q R α) := by
  intro h o hr
  obtain ⟨rfl, -⟩ := runs_fail.1 hr
  simp

theorem onlyAsks_ofExcept (r : Except Fault α) :
    OnlyAsks p (ofExcept r : Workflow Q R α) := by
  cases r
  · exact onlyAsks_fail _
  · exact onlyAsks_done _

theorem onlyAsks_now : OnlyAsks p (now : Workflow Q R Instant) := by
  intro h o hr
  obtain ⟨t, rfl, -⟩ := runs_now.1 hr
  simp

theorem onlyAsks_draw : OnlyAsks p (draw : Workflow Q R Draw) := by
  intro h o hr
  obtain ⟨x, rfl, -⟩ := runs_draw.1 hr
  simp

theorem onlyAsks_sleep (deadline : Deadline) (interval : Nat) :
    OnlyAsks p (sleep deadline interval : Workflow Q R Unit) := by
  intro h o hr
  obtain ⟨t, rfl, -⟩ := runs_sleep.1 hr
  simp

/-- An effect that others see nothing of. -/
theorem onlyAsks_effect {e : Effect Q R} (he : ∀ answer, History.sight? ⟨e, answer⟩ = none) :
    OnlyAsks p (effect e) := by
  intro h o hr
  obtain ⟨answer, rfl, -⟩ := runs_effect.1 hr
  simp [History.sights, he answer]

theorem onlyAsks_ask {q : Q} (hq : p q) : OnlyAsks p (ask q : Workflow Q R R) := by
  intro h o hr
  obtain ⟨r, rfl, -⟩ := runs_ask.1 hr
  simpa using hq

/-- **Sequencing adds nothing to be seen.** -/
theorem onlyAsks_bind {w : Workflow Q R α} {f : α → Workflow Q R β} (hw : OnlyAsks p w)
    (hf : ∀ a, OnlyAsks p (f a)) : OnlyAsks p (w.bind f) := by
  intro h o hr
  obtain ⟨a, h₁, h₂, rfl, hr₁, hr₂⟩ | ⟨fault, rfl, hr₁⟩ := runs_bind.1 hr
  · intro s hs
    rcases List.mem_append.1 (by simpa using hs) with hs | hs
    · exact hw h₁ _ hr₁ s hs
    · exact hf a h₂ _ hr₂ s hs
  · exact hw h _ hr₁

theorem onlyAsks_attempt {w : Workflow Q R α} (hw : OnlyAsks p w) : OnlyAsks p w.attempt := by
  intro h o hr
  obtain ⟨r, rfl, hr'⟩ := runs_attempt.1 hr
  exact hw h r hr'

theorem onlyAsks_regardless {w : Workflow Q R α} (hw : OnlyAsks p w) :
    OnlyAsks p (regardless w) :=
  onlyAsks_bind (onlyAsks_attempt hw) fun _ => onlyAsks_done _

theorem onlyAsks_forM {l : List β} {f : β → Workflow Q R Unit} (hf : ∀ b, OnlyAsks p (f b)) :
    OnlyAsks p (l.forM f) := by
  induction l with
  | nil => exact onlyAsks_done _
  | cons b l ih => exact onlyAsks_bind (hf b) fun _ => ih

theorem onlyAsks_lookOnce {deadline : Deadline} {what : String} {look : Workflow Q R α}
    {judge : α → Readiness β} {again : String → Workflow Q R β} (hlook : OnlyAsks p look)
    (hagain : ∀ state, OnlyAsks p (again state)) :
    OnlyAsks p (lookOnce deadline what look judge again) := by
  refine onlyAsks_bind hlook fun a => ?_
  cases judge a with
  | ready b => exact onlyAsks_done b
  | stuck reason => exact onlyAsks_fail _
  | pending state =>
    refine onlyAsks_bind onlyAsks_now fun t => ?_
    split
    · exact onlyAsks_fail _
    · exact hagain state

theorem onlyAsks_poll {deadline : Deadline} {interval : Nat} {what : String}
    {look : Workflow Q R α} {judge : α → Readiness β} (hlook : OnlyAsks p look) (sleeps : Nat) :
    OnlyAsks p (poll deadline interval what look judge sleeps) := by
  induction sleeps with
  | zero => exact onlyAsks_lookOnce hlook fun state => onlyAsks_fail _
  | succ sleeps ih =>
    exact onlyAsks_lookOnce hlook fun _ => onlyAsks_bind (onlyAsks_sleep _ _) fun _ => ih

/-- A wait shows what its looks show. -/
theorem onlyAsks_awaitState {deadline : Deadline} {interval : Nat} {what : String}
    {look : Workflow Q R α} {judge : α → Readiness β} (hlook : OnlyAsks p look) :
    OnlyAsks p (awaitState deadline interval what look judge) :=
  onlyAsks_bind onlyAsks_now fun _ => onlyAsks_poll hlook _

/-! ## What a workflow asks for, locks aside -/

/-- **All requests of the workflow are of a kind**, whatever it is
answered. -/
def Asks (p : Q → Prop) (w : Workflow Q R α) : Prop :=
  ∀ h o, Runs w h o → ∀ x ∈ h.asked, p x.1

theorem OnlyAsks.asks {w : Workflow Q R α} (hw : OnlyAsks p w) : Asks p w :=
  fun _ _ hr _ hx => hw.of_mem_asked hr hx

theorem asks_bind {w : Workflow Q R α} {f : α → Workflow Q R β} (hw : Asks p w)
    (hf : ∀ a, Asks p (f a)) : Asks p (w.bind f) := by
  intro h o hr x hx
  obtain ⟨a, h₁, h₂, rfl, hr₁, hr₂⟩ | ⟨fault, rfl, hr₁⟩ := runs_bind.1 hr
  · rcases List.mem_append.1 (by simpa using hx) with hx | hx
    · exact hw h₁ _ hr₁ x hx
    · exact hf a h₂ _ hr₂ x hx
  · exact hw h _ hr₁ x hx

theorem asks_holding {d : Domain} {budget : Nat} {body : Workflow Q R α} (hw : Asks p body) :
    Asks p (holding d budget body) := by
  intro h o hr x hx
  obtain ⟨h', rfl, hr'⟩ | ⟨rfl, -⟩ := runs_holding.1 hr
  · exact hw h' o hr' x (by simpa using hx)
  · simp at hx

end Workflow

end CloudOrchestration
