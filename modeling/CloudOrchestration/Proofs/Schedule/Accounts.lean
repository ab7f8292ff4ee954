import CloudOrchestration.Proofs.Schedule.Unfolding
import CloudOrchestration.Proofs.Workflow.Accounts
/-!
# The tracked accounts of a client by itself

What a workflow leaves of the tracked accounts by its text it leaves when it runs: one
that runs by itself ends, and of its end and of the accounts that the world tracks then
holds what `Workflow.Leaves` demands (`Schedule.exists_ended_of_leaves`). An action does
to the accounts what its effect says, and waits only for as long as the effect takes
(`Strand.Leaves.act`).
-/

namespace CloudOrchestration

open Workflow

variable {σ Q R α : Type} {server : Server σ Q R}
variable {P : Except Fault α → Instant → List String → Prop}

namespace Strand

variable {w : World σ} {n : Nat} {strand : Strand Q R α} {turn : Turn σ Q R α}
variable {instant : Instant}

/-- **What is left of a strand leaves what is demanded**, from a present instant and
the accounts that are tracked then. -/
def Leaves (P : Except Fault α → Instant → List String → Prop) (clock : Instant)
    (accounts : List String) : Strand Q R α → Prop
  | running t rest => rest.Leaves P (max clock t) accounts
  | waiting _ expiry next => clock ≤ expiry ∧
    ∀ granted t, clock ≤ t → t ≤ expiry → (next granted).Leaves P t accounts
  | ended t o => P o t accounts

/-- A turn that takes no time. -/
theorem leaves_of_running {rest : Workflow Q R α} {accounts : List String}
    (hrest : rest.Leaves P instant accounts) :
    (running instant rest).Leaves P instant accounts := by
  have hmax : max instant instant = instant := Nat.max_self instant
  rw [Leaves, hmax]
  exact hrest

/-- **An action keeps to what is demanded.** -/
theorem Leaves.act (h : strand.Leaves P w.clock w.accounts)
    (hready : strand.readyAt? w n = some instant)
    (hact : strand.act? server { w with clock := instant } n = some turn) :
    turn.strand.Leaves P turn.world.clock turn.world.accounts := by
  cases strand with
  | ended t o => cases hready
  | waiting domain expiry next =>
    obtain ⟨hexpiry, hnext⟩ := h
    have hle : w.clock ≤ instant := clock_le_of_readyAt? hready
    have hinstant : instant ≤ expiry := le_expiry_of_readyAt? hexpiry hready
    cases hact
    exact leaves_of_running (hnext _ instant hle hinstant)
  | running t rest =>
    cases hready
    cases rest with
    | done a | fail fault =>
      cases hact
      exact h
    | perform e next =>
      -- most effects take no time, and go on at the instant of the turn
      have hpresent : ∀ answer, e.Takes answer (max w.clock t) (max w.clock t) →
          e.Shows w.accounts answer → (running (max w.clock t) (next answer)).Leaves P
            (max w.clock t) (e.accountsAfter w.accounts) := fun answer htakes hshows =>
        leaves_of_running (h answer _ htakes hshows)
      cases e with
      | sleepUntil wake =>
        cases hact
        exact h () _ rfl trivial
      | ask q =>
        cases hact
        exact h _ _ (Nat.le_max_left _ _) trivial
      | acquire domain budget =>
        have hsoon : ∀ granted, (running (max w.clock t) (next granted)).Leaves P
            (max w.clock t) w.accounts := fun granted =>
          hpresent granted ⟨Nat.le_refl _, Nat.le_add_right _ _⟩ trivial
        cases enters_of_act? hact with
        | acquired => exact hsoon true
        | refused => exact hsoon false
        | queued =>
          -- it stands in line for as long as the budget allows
          refine ⟨Nat.le_add_right _ _, fun granted t' hle ht' => ?_⟩
          exact h granted t' ⟨hle, ht'⟩ trivial
      | now =>
        cases hact
        exact hpresent _ ⟨rfl, rfl⟩ trivial
      | tracked =>
        cases hact
        exact hpresent _ rfl rfl
      | release | isLocked | track | untrack | draw =>
        cases hact
        exact hpresent _ rfl trivial

end Strand

namespace Schedule

variable {s s' s₀ : Schedule σ Q R α}

/-- The only strand of a schedule leaves what is demanded. -/
def LeavesAlone (P : Except Fault α → Instant → List String → Prop)
    (s : Schedule σ Q R α) : Prop :=
  ∃ strand, s.strands = [strand] ∧ strand.Leaves P s.world.clock s.world.accounts

theorem LeavesAlone.prompts (h : s.LeavesAlone P) (hstep : Prompts server s s') :
    s'.LeavesAlone P := by
  obtain ⟨strand, hstrands, hleaves⟩ := h
  obtain @⟨n, first, instant, turn, hn, hready, -, hturn⟩ := hstep
  rw [hstrands] at hn
  cases n with
  | zero =>
    cases hn
    refine ⟨turn.strand, ?_, hleaves.act hready hturn⟩
    simp only [hstrands, List.set_cons_zero]
  | succ n => cases hn

theorem Unfolds.leavesAlone (h : Unfolds server s₀ s) (hs₀ : s₀.LeavesAlone P) :
    s.LeavesAlone P := by
  induction h with
  | start => exact hs₀
  | step _ hstep ih => exact ih.prompts hstep

variable (server) in
/-- **A workflow by itself ends**, and leaves what is demanded. -/
theorem exists_ended_of_leaves (w : World σ) {workflow : Workflow Q R α}
    (h : workflow.Leaves P w.clock w.accounts) :
    ∃ t o, ((start w [workflow]).run server).strands = [.ended t o] ∧
      P o t ((start w [workflow]).run server).world.accounts := by
  have hstart : (start w [workflow]).LeavesAlone P := by
    refine ⟨_, rfl, ?_⟩
    exact Strand.leaves_of_running h
  have hrun : Completes server (start w [workflow]) ((start w [workflow]).run server) :=
    Unfolds.start.run
  obtain ⟨strand, hstrands, hleaves⟩ := hrun.unfolds.leavesAlone hstart
  have hended := hrun.hasEnded strand (by rw [hstrands]; exact List.mem_singleton_self strand)
  obtain ⟨t, o, rfl⟩ := Strand.hasEnded_iff.1 hended
  exact ⟨t, o, hstrands, hleaves⟩

end Schedule

end CloudOrchestration
