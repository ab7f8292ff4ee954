import CloudOrchestration.Proofs.Schedule.Prompt
/-!
# Schedules from their start to their end

`Unfolds` are the schedules that prompt steps lead to, in any order of those
whose instants are equal; the ones in which every strand has ended are what it
`Completes` to. No order goes on for ever (`inevitably_completes`), and what
`Schedule.run` returns is one of the ends (`completes_run`).

A strand is due at an instant that has not passed (`Strand.Due`), and stays so
while others act.
-/

namespace CloudOrchestration

open Workflow

variable {σ Q R α : Type} {server : Server σ Q R}

namespace Strand

/-- Whether a strand has ended. -/
def hasEnded : Strand Q R α → Bool
  | ended _ _ => true
  | running _ _ | waiting _ _ _ => false

theorem hasEnded_iff {strand : Strand Q R α} : strand.hasEnded ↔ ∃ t o, strand = .ended t o := by
  cases strand <;> simp [hasEnded]

end Strand

namespace Schedule

variable {s s₀ : Schedule σ Q R α}

/-- **The schedules that prompt steps lead to.** -/
inductive Unfolds (server : Server σ Q R) (s₀ : Schedule σ Q R α) :
    Schedule σ Q R α → Prop where
  | start : Unfolds server s₀ s₀
  | step {s s' : Schedule σ Q R α} (before : Unfolds server s₀ s)
      (hstep : Prompts server s s') : Unfolds server s₀ s'

/-- Every strand has ended. -/
def HasEnded (s : Schedule σ Q R α) : Prop := ∀ strand ∈ s.strands, strand.hasEnded

instance : Decidable s.HasEnded := inferInstanceAs (Decidable (∀ strand ∈ s.strands, _))

/-- **The schedules that prompt steps end with.** -/
structure Completes (server : Server σ Q R) (s₀ s : Schedule σ Q R α) : Prop where
  unfolds : Unfolds server s₀ s
  hasEnded : s.HasEnded

/-- Until every strand has ended there is a step. -/
theorem exists_prompts_of_not_hasEnded (h : ¬ s.HasEnded) : ∃ s', Prompts server s s' := by
  simp only [HasEnded, Classical.not_forall] at h
  obtain ⟨strand, hmem, hstrand⟩ := h
  obtain ⟨i, hi⟩ := List.getElem?_of_mem hmem
  exact exists_prompts hi (mt Strand.hasEnded_iff.2 hstrand)

/-- **Every order of steps comes to an end.** -/
theorem Unfolds.inevitably_completes (h : Unfolds server s₀ s) :
    Inevitably server (Completes server s₀) s := by
  have hwf : WellFounded fun s' s : Schedule σ Q R α => OneFollows s'.strands s.strands :=
    InvImage.wf Schedule.strands wellFounded_oneFollows
  induction s using hwf.induction with
  | _ s ih =>
    by_cases hended : s.HasEnded
    · exact .now ⟨h, hended⟩
    · exact .later (exists_prompts_of_not_hasEnded hended) fun s' hs' =>
        ih s' hs'.oneFollows (h.step hs')

/-- **What the schedule runs to by itself** is one of its ends. -/
theorem Unfolds.run (h : Unfolds server s₀ s) : Completes server s₀ (s.run server) := by
  fun_induction Schedule.run server s with
  | case1 s hs =>
    refine ⟨h, Classical.not_not.1 fun hended => ?_⟩
    obtain ⟨s', hs'⟩ : ∃ s', Prompts server s s' := exists_prompts_of_not_hasEnded hended
    obtain ⟨s'', hstep⟩ := exists_step? hs'
    rw [hs] at hstep
    cases hstep
  | case2 s s' hs ih => exact ih (h.step (prompts_of_step? hs))

theorem Unfolds.advance (h : Unfolds server s₀ s) (n : Nat) :
    Unfolds server s₀ (s.advance server n) := by
  induction n generalizing s with
  | zero => exact h
  | succ n ih =>
    rw [Schedule.advance]
    split
    · exact h
    next s' hs => exact ih (h.step (prompts_of_step? hs))

end Schedule

/-! ## Strands that are due -/

namespace Strand

variable {w : World σ} {n : Nat} {strand : Strand Q R α} {instant : Instant}

/-- The instant at which a strand is to act by itself has not passed. -/
def Due (clock : Instant) : Strand Q R α → Prop
  | running t _ => clock ≤ t
  | waiting _ expiry _ => clock ≤ expiry
  | ended _ _ => True

/-- Others act before. -/
theorem Due.wait (h : strand.Due w.clock)
    (hfirst : ∀ ready, strand.readyAt? w n = some ready → instant ≤ ready) :
    strand.Due instant := by
  cases strand with
  | running t rest => exact Nat.le_trans (hfirst _ rfl) (Nat.max_le.2 ⟨h, Nat.le_refl _⟩)
  | waiting domain expiry next =>
    obtain ⟨ready, hready⟩ : ∃ ready,
        (waiting domain expiry next).readyAt? w n = some ready := ⟨_, rfl⟩
    exact Nat.le_trans (hfirst ready hready) (le_expiry_of_readyAt? h hready)
  | ended t o => trivial

/-- A strand that is due acts at its instant. -/
theorem Due.eq_of_readyAt? {t : Instant} {rest : Workflow Q R α}
    (h : (running t rest).Due w.clock) (hready : (running t rest).readyAt? w n = some instant) :
    instant = t := by
  cases hready
  exact Nat.max_eq_right h

end Strand

end CloudOrchestration
