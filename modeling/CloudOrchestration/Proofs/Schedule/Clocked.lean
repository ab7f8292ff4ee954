import CloudOrchestration.Proofs.Schedule.Unfolding
import CloudOrchestration.Proofs.Workflow.Clocked
/-!
# Strands against the clock

In whatever order strands act, and whatever the others do, one that runs a
workflow ends, and from its start to its end the workflow has run against the
clock, with the dealings of the strand that the log shows (`inevitably_runsFrom`).
So what holds of every such run is bound to hold of the strand, under every
server.

What an action takes of a strand's time is said once, in `Strand.Acts`.
-/

namespace CloudOrchestration

open Workflow

variable {σ Q R α : Type} {server : Server σ Q R}

/-! ## Dealings -/

/-- The dealing of an event. -/
def Event.dealing? (e : Event Q R) : Option (Dealing Q R) :=
  match e.happening with
  | .asked q delay r => some { value := (q, r), begun := e.instant, ended := e.instant + delay }
  | .slept _ | .queued _ _ | .acquired _ | .refused _ | .released _ => none

/-- **The dealings of the strand of a number**, in their order. -/
def Schedule.dealings (s : Schedule σ Q R α) (n : Nat) : List (Dealing Q R) :=
  s.log.filterMap fun e => if e.strand = n then e.dealing? else none

/-! ## Strands -/

namespace Strand

variable {w : World σ} {n : Nat} {start clock instant : Instant} {turn : Turn σ Q R α}
variable {strand strand' : Strand Q R α} {happening : Option (Happening Q R)}
variable {workflow : Workflow Q R α} {l : List (Dealing Q R)}

/-- The dealing of what happened in a strand at an instant. -/
def dealt (n : Nat) (instant : Instant) (happening : Option (Happening Q R)) :
    Option (Dealing Q R) :=
  happening.bind fun h => Event.dealing? ⟨instant, n, h⟩

/-- **What an action leaves of a strand**, and when: a lock is waited for, or an
effect is answered after the time that it takes. -/
inductive Acts (n : Nat) (instant : Instant) :
    Strand Q R α → Strand Q R α → Option (Happening Q R) → Prop where
  | returned {t : Instant} {a : α} :
      Acts n instant (running t (.done a)) (ended instant (.ok a)) none
  | failed {t : Instant} {fault : Fault} :
      Acts n instant (running t (.fail fault)) (ended instant (.error fault)) none
  | answered {t t' : Instant} {e : Effect Q R} {next : e.Answer → Workflow Q R α}
      {answer : e.Answer} {happening : Option (Happening Q R)}
      (htakes : e.Takes answer instant (max instant t'))
      (hdealt : dealt n instant happening = e.dealing? answer instant (max instant t')) :
      Acts n instant (running t (.perform e next)) (running t' (next answer)) happening
  | queued {t : Instant} {d : Domain} {budget : Nat} {next : Bool → Workflow Q R α} :
      Acts n instant (running t (.perform (.acquire d budget) next))
        (waiting d (instant + budget) next) (some (.queued d budget))
  | settled {d : Domain} {expiry : Instant} {next : Bool → Workflow Q R α} {granted : Bool}
      {happening : Option (Happening Q R)} (hdealt : dealt n instant happening = none) :
      Acts n instant (waiting d expiry next) (running instant (next granted)) happening

/-- **Every action is one of these.** -/
theorem acts_of_act? (hact : strand.act? server { w with clock := instant } n = some turn) :
    Acts n instant strand turn.strand turn.happening := by
  have hpresent : max instant instant = instant := Nat.max_self instant
  cases strand with
  | ended t o => cases hact
  | waiting d expiry next =>
    cases hact
    refine .settled ?_
    dsimp only
    split <;> rfl
  | running t rest =>
    cases rest with
    | done a => cases hact; exact .returned
    | fail fault => cases hact; exact .failed
    | perform e next =>
      cases e with
      | acquire d budget =>
        have htakes : ∀ granted, (Effect.acquire d budget : Effect Q R).Takes granted instant
            (max instant instant) := by
          intro granted
          rw [hpresent]
          exact ⟨Nat.le_refl _, Nat.le_add_right _ _⟩
        cases enters_of_act? hact with
        | acquired => exact .answered (htakes true) rfl
        | refused => exact .answered (htakes false) rfl
        | queued => exact .queued
      | ask q =>
        cases hact
        have hlater : ∀ delay, max instant (instant + delay) = instant + delay :=
          fun delay => Nat.max_eq_right (Nat.le_add_right instant delay)
        refine .answered (e := .ask q) (Nat.le_max_left _ _) ?_
        rw [hlater]
        rfl
      | now => cases hact; exact .answered ⟨rfl, hpresent⟩ rfl
      | sleepUntil wake => cases hact; exact .answered (e := .sleepUntil wake) rfl rfl
      | release d => cases hact; exact .answered (e := .release d) hpresent rfl
      | isLocked d => cases hact; exact .answered (e := .isLocked d) hpresent rfl
      | track account => cases hact; exact .answered (e := .track account) hpresent rfl
      | untrack account => cases hact; exact .answered (e := .untrack account) hpresent rfl
      | tracked => cases hact; exact .answered (e := .tracked) hpresent rfl
      | draw => cases hact; exact .answered (e := .draw) hpresent rfl

/-- **A strand completes the run of a workflow**, of which the dealings so far
are known: whatever it may still do from a present instant on, it is the rest of
such a run. -/
def Completes (workflow : Workflow Q R α) (start : Instant) (l : List (Dealing Q R))
    (clock : Instant) : Strand Q R α → Prop
  | running t rest => ∀ l' t' o, rest.RunsFrom (max clock t) l' t' o →
    workflow.RunsFrom start (l ++ l') t' o
  | waiting _ expiry next => clock ≤ expiry ∧ ∀ granted t l' t' o, clock ≤ t → t ≤ expiry →
    (next granted).RunsFrom t l' t' o → workflow.RunsFrom start (l ++ l') t' o
  | ended t o => workflow.RunsFrom start l t o

/-- The steps of others make no difference. -/
theorem Completes.wait (h : strand.Completes workflow start l w.clock) (hle : w.clock ≤ instant)
    (hfirst : ∀ ready, strand.readyAt? w n = some ready → instant ≤ ready) :
    strand.Completes workflow start l instant := by
  cases strand with
  | ended t o => exact h
  | running t rest =>
    intro l' t' o hr
    rw [max_eq_of_le_readyAt? hle hfirst] at hr
    exact h l' t' o hr
  | waiting domain expiry next =>
    obtain ⟨hexpiry, hnext⟩ := h
    refine ⟨le_expiry_of_le_readyAt? hexpiry hfirst, fun granted t l' t' o ht => ?_⟩
    exact hnext granted t l' t' o (Nat.le_trans hle ht)

/-- **An action goes on with the run**, with the dealing that it is. -/
theorem Completes.act (h : strand.Completes workflow start l w.clock)
    (hready : strand.readyAt? w n = some instant)
    (hacts : Acts n instant strand strand' happening) :
    strand'.Completes workflow start (l ++ (dealt n instant happening).toList) instant := by
  cases hacts with
  | returned =>
    cases hready
    exact h _ _ _ (.done _)
  | failed =>
    cases hready
    exact h _ _ _ (.fail _)
  | @answered t t' e next answer _ htakes hdealt =>
    cases hready
    intro l' t'' o hr
    rw [hdealt, List.append_assoc]
    exact h _ t'' o (.perform htakes hr)
  | @queued t d budget next =>
    cases hready
    refine ⟨Nat.le_add_right _ _, fun granted t₁ l' t' o hle ht hr => ?_⟩
    show workflow.RunsFrom start (l ++ [] ++ l') t' o
    rw [List.append_nil]
    exact h l' t' o (.perform (e := .acquire d budget) ⟨hle, ht⟩ hr)
  | @settled d expiry next granted _ hdealt =>
    obtain ⟨hexpiry, hnext⟩ := h
    intro l' t' o hr
    rw [Nat.max_self] at hr
    rw [hdealt, Option.toList_none, List.append_nil]
    exact hnext granted instant l' t' o (clock_le_of_readyAt? hready)
      (le_expiry_of_readyAt? hexpiry hready) hr

end Strand

/-! ## Schedules -/

namespace Schedule

variable {s s' : Schedule σ Q R α} {n i : Nat} {t instant : Instant}
variable {workflow : Workflow Q R α}

/-- The dealings of the strand that acts are one more at most. -/
theorem dealings_act_self {turn : Strand.Turn σ Q R α} {strands : List (Strand Q R α)} :
    dealings { world := turn.world
               strands
               log := s.log ++ (turn.happening.map (⟨instant, n, ·⟩)).toList } n =
      s.dealings n ++ (Strand.dealt n instant turn.happening).toList := by
  simp only [dealings, List.filterMap_append]
  cases turn.happening with
  | none => rfl
  | some happening => cases happening <;> simp [Strand.dealt, Event.dealing?]

theorem dealings_act_other {turn : Strand.Turn σ Q R α} {strands : List (Strand Q R α)}
    (hni : n ≠ i) :
    dealings { world := turn.world
               strands
               log := s.log ++ (turn.happening.map (⟨instant, n, ·⟩)).toList } i =
      s.dealings i := by
  simp only [dealings, List.filterMap_append]
  cases turn.happening with
  | none => simp
  | some happening => simp [hni]

/-- A strand that nothing has happened in has no dealings. -/
theorem dealings_eq_nil (hlog : ∀ e ∈ s.log, e.strand ≠ i) : s.dealings i = [] :=
  List.filterMap_eq_nil_iff.2 fun e he => if_neg (hlog e he)

/-- The strand of a number completes a run of a workflow that began at an
instant. -/
def Completing (workflow : Workflow Q R α) (start : Instant) (i : Nat)
    (s : Schedule σ Q R α) : Prop :=
  ∃ strand, s.strands[i]? = some strand ∧
    strand.Completes workflow start (s.dealings i) s.world.clock

/-- **Every prompt step preserves it**, whoever takes it. -/
theorem Completing.prompts {start : Instant} (h : s.Completing workflow start i)
    (hstep : Prompts server s s') : s'.Completing workflow start i := by
  obtain ⟨strand, hi, hcompletes⟩ := h
  obtain @⟨n, first, instant, turn, hn, hready, hfirst, hturn⟩ := hstep
  have hclock : turn.world.clock = instant := Strand.clock_of_act? hturn
  have hlt := (List.getElem?_eq_some_iff.1 hn).1
  by_cases hni : n = i
  · subst hni
    rw [hn] at hi
    cases hi
    refine ⟨turn.strand, by simp [hlt], ?_⟩
    rw [dealings_act_self, hclock]
    exact hcompletes.act hready (Strand.acts_of_act? hturn)
  · refine ⟨strand, by simpa [hni] using hi, ?_⟩
    rw [dealings_act_other hni, hclock]
    exact hcompletes.wait (n := i) (Strand.clock_le_of_readyAt? hready)
      fun ready hr => hfirst hi hr

/-- A strand that is about to start has the whole run before it. -/
theorem completing_of_running (hi : s.strands[i]? = some (.running t workflow))
    (hlog : ∀ e ∈ s.log, e.strand ≠ i) :
    s.Completing workflow (max s.world.clock t) i := by
  refine ⟨_, hi, fun l' t' o hr => ?_⟩
  rwa [dealings_eq_nil hlog]

/-- **A workflow runs against the clock in every schedule**: its strand ends,
and its dealings are those of a run from its start to its end. -/
theorem inevitably_runsFrom (hi : s.strands[i]? = some (.running t workflow))
    (hlog : ∀ e ∈ s.log, e.strand ≠ i) :
    Inevitably server (fun s' => ∃ finish o, s'.strands[i]? = some (.ended finish o) ∧
      workflow.RunsFrom (max s.world.clock t) (s'.dealings i) finish o) s := by
  have hcompletes := completing_of_running hi hlog
  have hthere : ∀ s' : Schedule σ Q R α, s'.Completing workflow (max s.world.clock t) i →
      ∃ strand, s'.strands[i]? = some strand := fun _ ⟨strand, hi', _⟩ => ⟨strand, hi'⟩
  refine (inevitably_of_preserved hthere (fun _ _ h hstep => h.prompts hstep) hcompletes).mono ?_
  rintro s' ⟨⟨strand, hi', hruns⟩, finish, o, hended⟩
  rw [hended] at hi'
  cases hi'
  exact ⟨finish, o, hended, hruns⟩

theorem Unfolds.completing {s₀ : Schedule σ Q R α} {start : Instant} (h : Unfolds server s₀ s)
    (hcompleting : s₀.Completing workflow start i) : s.Completing workflow start i := by
  induction h with
  | start => exact hcompleting
  | step _ hstep ih => exact ih.prompts hstep

variable (server) in
/-- So does it when the schedule runs by itself. -/
theorem exists_runsFrom_run (hi : s.strands[i]? = some (.running t workflow))
    (hlog : ∀ e ∈ s.log, e.strand ≠ i) :
    ∃ finish o, (s.run server).strands[i]? = some (.ended finish o) ∧
      workflow.RunsFrom (max s.world.clock t) ((s.run server).dealings i) finish o := by
  have hrun : Completes server s (s.run server) := Unfolds.start.run
  obtain ⟨strand, hi', hcompletes⟩ := hrun.unfolds.completing (completing_of_running hi hlog)
  have hended := hrun.hasEnded strand (List.mem_of_getElem? hi')
  obtain ⟨finish, o, rfl⟩ := Strand.hasEnded_iff.1 hended
  exact ⟨finish, o, hi', hcompletes⟩

end Schedule

end CloudOrchestration
