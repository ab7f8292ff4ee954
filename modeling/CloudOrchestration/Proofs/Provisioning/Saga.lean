import CloudOrchestration.Client.Provisioning
import CloudOrchestration.Proofs.Workflow.Run
/-!
# Sagas

A saga is a call that keeps its progress when it fails. Read without that, it
is a plain call, ended by the first fault of a step: `Saga.strictly`, which
takes the sequencing of sagas to that of calls. What runs of a saga do to its
progress is shown by the rules for `Saga.Ensures`.
-/

namespace CloudOrchestration

open Workflow

namespace Saga

variable {α β : Type}

/-- The saga from some progress on. -/
def resume (s : Saga α) (p : Progress) : Call (Except Fault α × Progress) := (ExceptT.run s).run p

/-- **The saga as a plain call**, which the first fault of a step ends. -/
def strictly (s : Saga α) (p : Progress) : Call (α × Progress) :=
  (s.resume p).bind fun (r, p') => (ofExcept r).bind fun a => done (a, p')

/-- A saga goes on with the value of its first part; a fault ends it. -/
theorem resume_bind (s : Saga α) (f : α → Saga β) (p : Progress) :
    (s >>= f).resume p = (s.resume p).bind fun
      | (.ok a, p') => (f a).resume p'
      | (.error fault, p') => done (.error fault, p') := by
  show (s.resume p).bind _ = _
  congr 1
  funext x
  obtain ⟨r, p'⟩ := x
  cases r <;> rfl

theorem resume_step (w : Call α) (p : Progress) :
    (step w).resume p = w.attempt.bind fun r => done (r, p) := rfl

theorem strictly_note (f : Progress → Progress) (p : Progress) :
    (note f).strictly p = done ((), f p) := rfl

theorem strictly_descriptor (p : Progress) :
    descriptor.strictly p = done (p.descriptor, p) := rfl

/-- **The first fault ends the whole.** -/
theorem strictly_bind (s : Saga α) (f : α → Saga β) (p : Progress) :
    (s >>= f).strictly p = (s.strictly p).bind fun (a, p') => (f a).strictly p' := by
  simp only [strictly, resume_bind, bind_assoc]
  congr 1
  funext x
  obtain ⟨r, p'⟩ := x
  cases r <;> rfl

/-- A step is what it is made from. -/
theorem strictly_step (w : Call α) (p : Progress) :
    (step w).strictly p = w.bind fun a => done (a, p) := by
  simp only [strictly, resume_step, bind_assoc, done_bind]
  rw [← bind_assoc, attempt_bind_ofExcept]

/-! ## Progress -/

variable {h : History Request (Except Fault Response)}

/-- **What every run of a saga ensures** of its history, its end and its
progress. A saga never fails as a call. -/
def Ensures (p : Progress) (s : Saga α)
    (post : History Request (Except Fault Response) → Except Fault α → Progress → Prop) : Prop :=
  ∀ h o, Runs (s.resume p) h o → ∃ r p', o = .ok (r, p') ∧ post h r p'

variable {p : Progress}
variable {post : History Request (Except Fault Response) → Except Fault α → Progress → Prop}

theorem ensures_pure {a : α} :
    Ensures p (pure a) fun h r p' => h = [] ∧ r = .ok a ∧ p' = p := by
  intro h o hr
  obtain ⟨rfl, rfl⟩ := runs_done.1 hr
  exact ⟨_, _, rfl, rfl, rfl, rfl⟩

/-- A step has the runs of what it is made from and leaves the progress. -/
theorem ensures_step (w : Call α) : Ensures p (step w) fun h r p' => Runs w h r ∧ p' = p := by
  intro h o hr
  rw [resume_step, runs_attempt_bind] at hr
  obtain ⟨r, h₁, h₂, rfl, hw, hr⟩ := hr
  obtain ⟨rfl, rfl⟩ := runs_done.1 hr
  exact ⟨_, _, rfl, by simpa using hw, rfl⟩

theorem ensures_note (f : Progress → Progress) :
    Ensures p (note f) fun h r p' => h = [] ∧ r = .ok () ∧ p' = f p := by
  intro h o hr
  obtain ⟨rfl, rfl⟩ := runs_done.1 hr
  exact ⟨_, _, rfl, rfl, rfl, rfl⟩

theorem ensures_descriptor :
    Ensures p descriptor fun h r p' => h = [] ∧ r = .ok p.descriptor ∧ p' = p := by
  intro h o hr
  obtain ⟨rfl, rfl⟩ := runs_done.1 hr
  exact ⟨_, _, rfl, rfl, rfl, rfl⟩

/-- **The rule of sequences**: the rest starts from the history and the
progress of the first part. -/
theorem ensures_bind {s : Saga α} {f : α → Saga β}
    {post' : History Request (Except Fault Response) → Except Fault β → Progress → Prop}
    (hs : Ensures p s post)
    (hf : ∀ h a p', post h (.ok a) p' → Ensures p' (f a) fun h' => post' (h ++ h'))
    (hfault : ∀ h fault p', post h (.error fault) p' → post' h (.error fault) p') :
    Ensures p (s >>= f) post' := by
  intro h o hr
  rw [resume_bind] at hr
  obtain ⟨x, h₁, h₂, rfl, hr₁, hr₂⟩ | ⟨fault, -, hr₁⟩ := runs_bind.1 hr
  · obtain ⟨r, p', hx, hp⟩ := hs h₁ _ hr₁
    cases hx
    cases r with
    | ok a => exact hf h₁ a p' hp h₂ o hr₂
    | error fault =>
      obtain ⟨rfl, rfl⟩ := runs_done.1 hr₂
      exact ⟨_, _, rfl, by simpa using hfault h₁ fault p' hp⟩
  · obtain ⟨_, _, hx, -⟩ := hs h _ hr₁
    cases hx

theorem Ensures.mono {s : Saga α}
    {post' : History Request (Except Fault Response) → Except Fault α → Progress → Prop}
    (hs : Ensures p s post) (himp : ∀ h r p', post h r p' → post' h r p') :
    Ensures p s post' := by
  intro h o hr
  obtain ⟨r, p', rfl, hp⟩ := hs h o hr
  exact ⟨r, p', rfl, himp h r p' hp⟩

/-- The run of a saga that came to an end, as one of the plain call. -/
theorem runs_strictly {s : Saga α} {r : Except Fault α} {p' : Progress}
    (hr : Runs (s.resume p) h (.ok (r, p'))) :
    Runs (s.strictly p) h (r.map (·, p')) := by
  refine runs_bind.2 (.inl ⟨_, h, [], by simp, hr, ?_⟩)
  cases r with
  | ok a => exact .done _
  | error fault => exact .fail fault

end Saga

end CloudOrchestration
