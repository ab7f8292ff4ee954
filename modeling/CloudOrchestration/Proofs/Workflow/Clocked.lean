import CloudOrchestration.Proofs.Workflow.Timing
/-!
# Runs against the clock

A run says what a workflow asked and how it ended, but not when. Here each
effect takes the time that it may take (`Effect.Takes`), so a run begins at an
instant and ends at another, and between them lie its dealings: its requests,
each with its answer, from when it was sent to when it was answered
(`RunsFrom`).

As with runs without a clock, a run of a sequence is one of its first part and
one of the rest, which begins when the first part ends (`runsFrom_bind`).
-/

namespace CloudOrchestration

variable {Q R α β : Type}

/-- Something that lasted from one instant to another. -/
structure Timed (β : Type) where
  value : β
  begun : Instant
  ended : Instant

/-- A request and its answer, from when the one was sent to when the other
arrived. -/
abbrev Dealing (Q R : Type) := Timed (Q × R)

/-- The dealing that an effect is, if it is a request. -/
def Effect.dealing? : (e : Effect Q R) → e.Answer → Instant → Instant → Option (Dealing Q R)
  | ask q, r, t, t' => some { value := (q, r), begun := t, ended := t' }
  | now, _, _, _ | sleepUntil _, _, _, _ | acquire _ _, _, _, _ | release _, _, _, _
  | isLocked _, _, _, _ | track _, _, _, _ | untrack _, _, _, _ | tracked, _, _, _
  | draw, _, _, _ => none

namespace Workflow

/-- **A run of a workflow from one instant to another**: its dealings, and how
it ended. -/
inductive RunsFrom :
    Workflow Q R α → Instant → List (Dealing Q R) → Instant → Except Fault α → Prop where
  | done {t : Instant} (a : α) : RunsFrom (done a) t [] t (.ok a)
  | fail {t : Instant} (fault : Fault) : RunsFrom (fail fault) t [] t (.error fault)
  | perform {e : Effect Q R} {next : e.Answer → Workflow Q R α} {t t₁ t' : Instant}
      {l : List (Dealing Q R)} {o : Except Fault α} {answer : e.Answer}
      (htakes : e.Takes answer t t₁) (hrest : RunsFrom (next answer) t₁ l t' o) :
      RunsFrom (perform e next) t ((e.dealing? answer t t₁).toList ++ l) t' o

variable {t t' : Instant} {l : List (Dealing Q R)} {o : Except Fault α}

@[simp] theorem runsFrom_done {a : α} :
    RunsFrom (done a : Workflow Q R α) t l t' o ↔ l = [] ∧ t' = t ∧ o = .ok a := by
  constructor
  · rintro ⟨⟩; exact ⟨rfl, rfl, rfl⟩
  · rintro ⟨rfl, rfl, rfl⟩; exact .done a

@[simp] theorem runsFrom_fail {fault : Fault} :
    RunsFrom (fail fault : Workflow Q R α) t l t' o ↔ l = [] ∧ t' = t ∧ o = .error fault := by
  constructor
  · rintro ⟨⟩; exact ⟨rfl, rfl, rfl⟩
  · rintro ⟨rfl, rfl, rfl⟩; exact .fail fault

theorem runsFrom_perform {e : Effect Q R} {next : e.Answer → Workflow Q R α} :
    RunsFrom (perform e next) t l t' o ↔
      ∃ answer t₁ rest, e.Takes answer t t₁ ∧ l = (e.dealing? answer t t₁).toList ++ rest ∧
        RunsFrom (next answer) t₁ rest t' o := by
  constructor
  · rintro ⟨⟩; exact ⟨_, _, _, ‹_›, rfl, ‹_›⟩
  · rintro ⟨answer, t₁, rest, htakes, rfl, hrest⟩; exact .perform htakes hrest

/-- No run goes back in time. -/
theorem RunsFrom.le {w : Workflow Q R α} (h : RunsFrom w t l t' o) : t ≤ t' := by
  induction h with
  | done | fail => exact Nat.le_refl _
  | perform htakes _ ih => exact Nat.le_trans htakes.le ih

/-- **A run of a sequence** is one of its first part and, from the instant at
which that ends, one of what its value leads to; or it ends with the fault of the
first part. -/
theorem runsFrom_bind {w : Workflow Q R α} {f : α → Workflow Q R β} {o : Except Fault β} :
    RunsFrom (w.bind f) t l t' o ↔
      (∃ a l₁ t₁ l₂, l = l₁ ++ l₂ ∧ RunsFrom w t l₁ t₁ (.ok a) ∧ RunsFrom (f a) t₁ l₂ t' o) ∨
        ∃ fault, o = .error fault ∧ RunsFrom w t l t' (.error fault) := by
  induction w generalizing t l with
  | done a =>
    simp only [done_bind, runsFrom_done]
    constructor
    · exact fun hr => .inl ⟨a, [], t, l, rfl, ⟨rfl, rfl, rfl⟩, hr⟩
    · rintro (⟨_, _, _, l₂, rfl, ⟨rfl, rfl, hx⟩, hr⟩ | ⟨_, _, _, _, hx⟩)
      · cases hx; exact hr
      · cases hx
  | fail fault =>
    simp only [fail_bind, runsFrom_fail]
    constructor
    · rintro ⟨rfl, rfl, rfl⟩; exact .inr ⟨fault, rfl, rfl, rfl, rfl⟩
    · rintro (⟨a, _, _, _, _, ⟨_, _, hx⟩, _⟩ | ⟨fault', rfl, rfl, rfl, hx⟩)
      · cases hx
      · cases hx; exact ⟨rfl, rfl, rfl⟩
  | perform e next ih =>
    simp only [perform_bind, runsFrom_perform, ih]
    constructor
    · rintro ⟨answer, t₁, rest, htakes, rfl, ⟨a, l₁, t₂, l₂, rfl, hw, hf⟩ | ⟨fault, rfl, hw⟩⟩
      · refine .inl ⟨a, _ ++ l₁, t₂, l₂, (List.append_assoc _ _ _).symm, ?_, hf⟩
        exact ⟨answer, t₁, l₁, htakes, rfl, hw⟩
      · exact .inr ⟨fault, rfl, answer, t₁, rest, htakes, rfl, hw⟩
    · rintro (⟨a, _, t₂, l₂, rfl, ⟨answer, t₁, l₁, htakes, rfl, hw⟩, hf⟩ |
        ⟨fault, rfl, answer, t₁, rest, htakes, rfl, hw⟩)
      · refine ⟨answer, t₁, l₁ ++ l₂, htakes, List.append_assoc _ _ _, ?_⟩
        exact .inl ⟨a, l₁, t₂, l₂, rfl, hw, hf⟩
      · exact ⟨answer, t₁, rest, htakes, rfl, .inr ⟨fault, rfl, hw⟩⟩

/-- What is made of the value of a workflow takes no time. -/
theorem runsFrom_map {w : Workflow Q R α} {f : α → β} {o : Except Fault β}
    (hr : RunsFrom (f <$> w) t l t' o) : ∃ o', RunsFrom w t l t' o' ∧ o = o'.map f := by
  obtain ⟨a, l₁, t₁, l₂, rfl, hw, hr⟩ | ⟨fault, rfl, hw⟩ := runsFrom_bind.1 hr
  · obtain ⟨rfl, rfl, rfl⟩ := runsFrom_done.1 hr
    exact ⟨.ok a, by simpa using hw, rfl⟩
  · exact ⟨.error fault, hw, rfl⟩

@[simp] theorem runsFrom_ofExcept {r : Except Fault α} :
    RunsFrom (ofExcept r : Workflow Q R α) t l t' o ↔ l = [] ∧ t' = t ∧ o = r := by
  cases r <;> simp [ofExcept]

/-- What is made of the value of a workflow, or a fault, takes no time. -/
theorem runsFrom_bind_ofExcept {w : Workflow Q R α} {f : α → Except Fault β}
    {o : Except Fault β} (hr : RunsFrom (w.bind fun a => ofExcept (f a)) t l t' o) :
    ∃ o', RunsFrom w t l t' o' ∧ o = o' >>= f := by
  obtain ⟨a, l₁, t₁, l₂, rfl, hw, hr⟩ | ⟨fault, rfl, hw⟩ := runsFrom_bind.1 hr
  · obtain ⟨rfl, rfl, rfl⟩ := runsFrom_ofExcept.1 hr
    exact ⟨.ok a, by simpa using hw, rfl⟩
  · exact ⟨.error fault, hw, rfl⟩

/-! ## The effects -/

/-- Reading the clock takes no time, and tells the present instant. -/
theorem runsFrom_now_bind {f : Instant → Workflow Q R α} :
    RunsFrom (now.bind f) t l t' o ↔ RunsFrom (f t) t l t' o := by
  rw [now, effect, perform_bind, runsFrom_perform]
  constructor
  · rintro ⟨_, _, rest, ⟨rfl, rfl⟩, rfl, hr⟩
    exact hr
  · exact fun hr => ⟨t, t, l, ⟨rfl, rfl⟩, rfl, hr⟩

/-- A sleep lasts until its instant. -/
theorem runsFrom_sleepUntil_bind {instant : Instant} {f : Unit → Workflow Q R α} :
    RunsFrom ((sleepUntil instant).bind f) t l t' o ↔ RunsFrom (f ()) (max t instant) l t' o := by
  rw [sleepUntil, effect, perform_bind, runsFrom_perform]
  constructor
  · rintro ⟨⟨⟩, _, rest, rfl, rfl, hr⟩
    exact hr
  · exact fun hr => ⟨(), _, l, rfl, rfl, hr⟩

theorem runsFrom_sleep_bind {deadline : Deadline} {interval : Nat}
    {f : Unit → Workflow Q R α} :
    RunsFrom ((sleep deadline interval).bind f) t l t' o ↔
      RunsFrom (f ()) (max t (deadline.wake t interval)) l t' o := by
  simp only [sleep, bind_eq, bind_assoc]
  rw [runsFrom_now_bind]
  exact runsFrom_sleepUntil_bind

/-- A sleep panics at once if the clock cannot show the end of its interval. -/
theorem runsFrom_sleep?_bind_of_lt {deadline : Deadline} {interval : Nat}
    {f : Option Unit → Workflow Q R α} (hlt : Instant.last < t + interval) :
    RunsFrom ((sleep? deadline interval).bind f) t l t' o ↔ RunsFrom (f none) t l t' o := by
  have hwake : deadline.wake? t interval = none := if_neg (Nat.not_le_of_lt hlt)
  simp only [sleep?, bind_eq, bind_assoc]
  rw [runsFrom_now_bind, hwake]
  exact Iff.rfl

/-- **A request is answered** at some instant, not before it was sent. -/
theorem runsFrom_ask_bind {q : Q} {f : R → Workflow Q R α} :
    RunsFrom ((ask q).bind f) t l t' o ↔
      ∃ r t₁ rest, t ≤ t₁ ∧ l = { value := (q, r), begun := t, ended := t₁ } :: rest ∧
        RunsFrom (f r) t₁ rest t' o := by
  rw [ask, effect, perform_bind, runsFrom_perform]
  exact Iff.rfl

/-- **Workflows that do the same in time** have the same runs. -/
theorem SameInTime.runsFrom_iff {w w' : Workflow Q R α} (h : SameInTime t w w') :
    RunsFrom w t l t' o ↔ RunsFrom w' t l t' o := by
  induction h generalizing l with
  | done | fail => exact Iff.rfl
  | perform _ ih =>
    rw [runsFrom_perform, runsFrom_perform]
    refine exists_congr fun answer => exists_congr fun t₁ => exists_congr fun rest => ?_
    exact and_congr_right fun htakes => and_congr_right fun _ => ih answer t₁ htakes

end Workflow

end CloudOrchestration
