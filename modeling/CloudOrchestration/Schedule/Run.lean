import CloudOrchestration.Schedule.Strand
/-!
# Running strands together

Of several strands the one acts next whose instant comes first, and of those
whose instants are equal the first in the list. The clock moves to that
instant; while anything can act it stands still. `run` goes on until every
strand has ended, which happens because each action makes one strand smaller
and leaves the others (`wellFounded_oneFollows`).
-/

namespace CloudOrchestration

/-- What happened, when, and in the strand of which number. -/
structure Event (Q R : Type) where
  instant : Instant
  strand : Nat
  happening : Happening Q R

/-- Strands on their way through a world, and what has happened so far. -/
structure Schedule (σ Q R α : Type) where
  world : World σ
  strands : List (Strand Q R α)
  log : List (Event Q R) := []

namespace Schedule

variable {σ Q R α : Type}

/-- The number of the strand that acts next, counted from `n`, and when. -/
def next? (w : World σ) : Nat → List (Strand Q R α) → Option (Nat × Instant)
  | _, [] => none
  | n, s :: rest =>
    match s.readyAt? w n, next? w (n + 1) rest with
    | none, later => later
    | some t, none => some (n, t)
    | some t, some (m, t') => if t ≤ t' then some (n, t) else some (m, t')

/-- The next action; `none` when every strand has ended. -/
def step? (server : Server σ Q R) (s : Schedule σ Q R α) : Option (Schedule σ Q R α) := do
  let (n, instant) ← next? s.world 0 s.strands
  let strand ← s.strands[n]?
  let a ← strand.act? server { s.world with clock := instant } n
  return {
    world := a.world
    strands := s.strands.set n a.strand
    log := s.log ++ (a.happening.map (⟨instant, n, ·⟩)).toList }

/-! ## Progress -/

/-- One strand of the second list has acted, and the others are the same. -/
inductive OneFollows : List (Strand Q R α) → List (Strand Q R α) → Prop where
  | head {s s' : Strand Q R α} {rest : List (Strand Q R α)} :
      Strand.Follows s' s → OneFollows (s' :: rest) (s :: rest)
  | tail {s : Strand Q R α} {rest rest' : List (Strand Q R α)} :
      OneFollows rest' rest → OneFollows (s :: rest') (s :: rest)

theorem acc_cons {s : Strand Q R α} (hs : Acc Strand.Follows s) :
    ∀ {rest : List (Strand Q R α)}, Acc OneFollows rest → Acc OneFollows (s :: rest) := by
  induction hs with
  | intro s _ ihs =>
    intro rest hrest
    induction hrest with
    | intro rest hacc ihr =>
      refine ⟨_, fun _ h => ?_⟩
      cases h with
      | head h => exact ihs _ h ⟨_, hacc⟩
      | tail h => exact ihr _ h

/-- **No list of strands acts for ever.** -/
theorem wellFounded_oneFollows : WellFounded (OneFollows (Q := Q) (R := R) (α := α)) := by
  refine ⟨fun strands => ?_⟩
  induction strands with
  | nil => exact ⟨_, fun _ h => nomatch h⟩
  | cons s rest ih => exact acc_cons (Strand.acc_follows s) ih

theorem oneFollows_set {s s' : Strand Q R α} (h : Strand.Follows s' s) :
    ∀ {strands : List (Strand Q R α)} {n : Nat}, strands[n]? = some s →
      OneFollows (strands.set n s') strands
  | [], _, hn => by simp at hn
  | x :: rest, 0, hn => by
    simp only [List.getElem?_cons_zero, Option.some.injEq] at hn
    subst hn
    exact .head h
  | x :: rest, n + 1, hn => .tail (oneFollows_set h (by simpa using hn))

/-- The action of a schedule is that of one of its strands. -/
theorem oneFollows_of_step? {server : Server σ Q R} {s s' : Schedule σ Q R α}
    (h : s.step? server = some s') : OneFollows s'.strands s.strands := by
  simp only [step?, Option.bind_eq_bind, Option.bind_eq_some_iff, Option.pure_def,
    Option.some.injEq] at h
  obtain ⟨next, -, strand, hstrand, a, ha, rfl⟩ := h
  exact oneFollows_set (Strand.follows_of_act? ha) hstrand

instance : WellFoundedRelation (List (Strand Q R α)) := ⟨OneFollows, wellFounded_oneFollows⟩

/-- **Let every strand run to its end.** -/
def run (server : Server σ Q R) (s : Schedule σ Q R α) : Schedule σ Q R α :=
  match _h : s.step? server with
  | none => s
  | some s' => run server s'
termination_by s.strands
decreasing_by exact oneFollows_of_step? _h

/-- Workflows that start together in a world. -/
def start (w : World σ) (workflows : List (Workflow Q R α)) : Schedule σ Q R α :=
  { world := w, strands := workflows.map (.running w.clock) }

/-- When the strands ended, and how. -/
def outcomes (s : Schedule σ Q R α) : List (Instant × Except Fault α) :=
  s.strands.filterMap fun
    | .ended instant outcome => some (instant, outcome)
    | .running _ _ | .waiting _ _ _ => none

/-- The requests of the strand of a number, and when they were sent. -/
def requests (s : Schedule σ Q R α) (n : Nat) : List (Instant × Q) :=
  s.log.filterMap fun event =>
    match event.happening with
    | .asked q _ _ => if event.strand = n then some (event.instant, q) else none
    | _ => none

end Schedule

end CloudOrchestration
