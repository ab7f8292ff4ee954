import CloudOrchestration.Proofs.Schedule.Exclusion
/-!
# Sections under a lock

Many calls have one section under a lock. Until it begins they ask for
nothing, inside of it they only ask, and once it is over they leave the lock
alone and ask for requests of a known kind: `sectioned` is the monitor of such
calls. In an interleaving of them a request is sent inside of its sender's
section or is of the kind known (`Schedule.Reaches.inside_or_late`), and of two
sections under one lock the first is over before the other begins
(`Interleaves.in_turn`).
-/

namespace CloudOrchestration

open Workflow Schedule

variable {σ Q R α β : Type} {d : Domain} {late : Q → Prop}

/-! ## What lies aside of a lock -/

/-- A sight that has nothing to do with the lock of a domain; a request has
to be of a kind. -/
def Sight.Aside (d : Domain) (late : Q → Prop) : Sight Q R → Prop
  | asked q _ => late q
  | acquired d' | refused d' | released d' => d' ≠ d

instance [DecidablePred late] : DecidablePred (Sight.Aside (R := R) d late)
  | .asked q _ => inferInstanceAs (Decidable (late q))
  | .acquired d' | .refused d' | .released d' => inferInstanceAs (Decidable (d' ≠ d))

namespace Workflow

/-- **A workflow that leaves the lock of a domain alone**, and sends only
requests of a kind. -/
def Spares (d : Domain) (late : Q → Prop) (w : Workflow Q R α) : Prop :=
  ∀ h o, Runs w h o → ∀ x ∈ h.sights, x.Aside d late

theorem spares_of_onlyAsks {w : Workflow Q R α} (hw : OnlyAsks late w) : Spares d late w := by
  intro h o hr x hx
  obtain ⟨q, r, rfl, hq⟩ := hw h o hr x hx
  exact hq

theorem spares_bind {w : Workflow Q R α} {f : α → Workflow Q R β} (hw : Spares d late w)
    (hf : ∀ a, Spares d late (f a)) : Spares d late (w.bind f) := by
  intro h o hr x hx
  obtain ⟨a, h₁, h₂, rfl, hr₁, hr₂⟩ | ⟨fault, rfl, hr₁⟩ := runs_bind.1 hr
  · rw [History.sights_append] at hx
    rcases List.mem_append.1 hx with hx | hx
    · exact hw h₁ _ hr₁ x hx
    · exact hf a h₂ _ hr₂ x hx
  · exact hw h _ hr₁ x hx

/-- The lock of another domain may be held. -/
theorem spares_holding {d' : Domain} {budget : Nat} {body : Workflow Q R α} (hd : d' ≠ d)
    (hbody : Spares d late body) : Spares d late (holding d' budget body) := by
  intro h o hr x hx
  obtain ⟨h', rfl, hr'⟩ | ⟨rfl, -⟩ := runs_holding.1 hr
  · have hx' : x = .acquired d' ∨ x ∈ History.sights h' ∨ x = .released d' := by simpa using hx
    obtain rfl | hx' | rfl := hx'
    · exact hd
    · exact hbody h' o hr' x hx'
    · exact hd
  · have hx' : x = .refused d' := by simpa using hx
    subst hx'
    exact hd

end Workflow

/-! ## Stages -/

/-- Where a call stands with its section. -/
inductive Stage where
  | before
  | inside
  | after
  deriving DecidableEq, Repr

/-- **One section under a lock.** -/
def sectioned (d : Domain) (late : Q → Prop) [DecidablePred late] : Monitor Stage Q R
  | .before, .refused _ => some .before
  | .before, .acquired d' => if d' = d then some .inside else none
  | .inside, .asked _ _ => some .inside
  | .inside, .released d' => if d' = d then some .after else none
  | .after, x => if x.Aside d late then some .after else none
  | _, _ => none

/-- **What a step can be** that leads from one stage to another. -/
inductive Stage.Step (d : Domain) (late : Q → Prop) : Stage → Sight Q R → Stage → Prop where
  | wait (d' : Domain) : Step d late .before (.refused d') .before
  | enter : Step d late .before (.acquired d) .inside
  | work (q : Q) (r : R) : Step d late .inside (.asked q r) .inside
  | leave : Step d late .inside (.released d) .after
  | goOn {x : Sight Q R} (hx : x.Aside d late) : Step d late .after x .after

variable [DecidablePred late] {l : List (Sight Q R)} {x : Sight Q R} {stage stage' : Stage}

theorem sectioned_eq_some :
    sectioned d late stage x = some stage' ↔ Stage.Step d late stage x stage' := by
  constructor
  · intro h
    cases stage with
    | before =>
      cases x with
      | refused d' =>
        cases h
        exact .wait d'
      | acquired d' =>
        simp only [sectioned] at h
        split at h
        next heq =>
          subst heq
          cases h
          exact .enter
        next => cases h
      | asked => cases h
      | released => cases h
    | inside =>
      cases x with
      | asked q r =>
        cases h
        exact .work q r
      | released d' =>
        simp only [sectioned] at h
        split at h
        next heq =>
          subst heq
          cases h
          exact .leave
        next => cases h
      | acquired => cases h
      | refused => cases h
    | after =>
      simp only [sectioned] at h
      split at h
      next hx =>
        cases h
        exact .goOn hx
      next => cases h
  · intro h
    cases h with
    | wait d' => rfl
    | enter => exact if_pos rfl
    | work q r => rfl
    | leave => exact if_pos rfl
    | goOn hx => exact if_pos hx

/-- The lock is held inside of the section. -/
theorem holds_of_sectioned (h : (sectioned d late).after .before l = some stage) :
    Sight.holds d l = decide (stage = .inside) := by
  have hstep : ∀ {s s' : Stage} {x : Sight Q R}, sectioned d late s x = some s' →
      x.holding d (decide (s = .inside)) = decide (s' = .inside) := by
    intro s s' x hx
    cases sectioned_eq_some.1 hx with
    | wait d' => rfl
    | enter => exact if_pos rfl
    | work q r => rfl
    | leave => exact if_pos rfl
    | goOn haside =>
      -- what lies aside of the lock does not take it
      cases x with
      | asked q r => rfl
      | refused d' => rfl
      | acquired d' => exact if_neg haside
      | released d' => exact if_neg haside
  exact holding_of_after (f := fun stage => decide (stage = .inside)) hstep h

/-- **What lies behind a call at a stage**, whatever stage it was at first: if it
is still before its section it has asked for nothing, and if it is after it then
it has given the lock back, unless it had done so already. -/
theorem past_of_after {first : Stage} (h : (sectioned d late).after first l = some stage) :
    (stage = .before → first = .before ∧ ∀ q r, .asked q r ∉ l) ∧
      (stage = .after → first = .after ∨ .released d ∈ l) := by
  induction l generalizing first with
  | nil =>
    cases h
    exact ⟨fun hbefore => ⟨hbefore, fun q r => List.not_mem_nil⟩, .inl⟩
  | cons x l ih =>
    rw [Monitor.after_cons] at h
    obtain ⟨next, hx, hl⟩ := Option.bind_eq_some_iff.1 h
    obtain ⟨hsilent, hreleased⟩ := ih hl
    cases sectioned_eq_some.1 hx with
    | wait d' =>
      refine ⟨fun hbefore => ⟨rfl, fun q r hmem => ?_⟩, fun hafter => ?_⟩
      · have hrest : .asked q r ∈ l := by simpa using hmem
        exact (hsilent hbefore).2 q r hrest
      · exact .inr (List.mem_cons_of_mem _ ((hreleased hafter).resolve_left nofun))
    | enter | work =>
      refine ⟨fun hbefore => (nomatch (hsilent hbefore).1), fun hafter => ?_⟩
      exact .inr (List.mem_cons_of_mem _ ((hreleased hafter).resolve_left nofun))
    | leave => exact ⟨fun hbefore => (nomatch (hsilent hbefore).1), fun _ => .inr (by simp)⟩
    | goOn => exact ⟨fun hbefore => (nomatch (hsilent hbefore).1), fun _ => .inl rfl⟩

/-- So a call that has its section before it has asked for nothing, and one that
has it behind it has given the lock back. -/
theorem past_of_sectioned (h : (sectioned d late).after .before l = some stage) :
    (stage = .before → ∀ q r, .asked q r ∉ l) ∧ (stage = .after → .released d ∈ l) := by
  obtain ⟨hsilent, hreleased⟩ := past_of_after h
  exact ⟨fun hbefore => (hsilent hbefore).2, fun hafter => (hreleased hafter).resolve_left nofun⟩

/-- **A request is sent inside of the section or after it**, and then it is a
late one. -/
theorem inside_or_late {q : Q} {r : R}
    (h : (sectioned d late).after .before (l ++ [.asked q r]) = some stage) :
    Sight.holds d l ∨ late q ∧ .released d ∈ l := by
  obtain ⟨earlier, hearlier, hx⟩ := Monitor.after_append_one.1 h
  cases sectioned_eq_some.1 hx with
  | work q r => exact .inl (by rw [holds_of_sectioned hearlier]; rfl)
  | goOn hlate => exact .inr ⟨hlate, (past_of_sectioned hearlier).2 rfl⟩

/-- Until the lock is obtained nothing is asked for. -/
theorem silent_before_acquired
    (h : (sectioned d late).after .before (l ++ [.acquired d]) = some stage) (q : Q) (r : R) :
    .asked q r ∉ l := by
  obtain ⟨earlier, hearlier, hx⟩ := Monitor.after_append_one.1 h
  cases sectioned_eq_some.1 hx with
  | enter => exact (past_of_sectioned hearlier).1 rfl q r
  | goOn haside => exact absurd rfl haside

/-! ## Rules -/

namespace Workflow

/-- A part under the lock is such a section. -/
theorem obeys_section {p : Q → Prop} {budget : Nat} {body : Workflow Q R α}
    (hbody : OnlyAsks p body) :
    Obeys (sectioned d late) .before (holding d budget body) fun o stage =>
      stage = .after ∨ stage = .before ∧ ∃ fault, o = .error fault := by
  have henter : sectioned (R := R) d late .before (.acquired d) = some .inside := if_pos rfl
  refine obeys_holding henter ?_ ⟨.before, rfl, .inr ⟨rfl, _, rfl⟩⟩
  refine (obeys_of_onlyAsks hbody fun q r _ => rfl).mono fun o stage hstage => ?_
  exact ⟨.after, by rw [hstage]; exact if_pos rfl, .inl rfl⟩

/-- What leaves the lock alone may follow. -/
theorem obeys_of_spares {w : Workflow Q R α} (hw : Spares d late w) :
    Obeys (sectioned d late) .after w fun _ stage => stage = .after := by
  intro h o hr
  refine ⟨.after, ?_, rfl⟩
  have hall := hw h o hr
  generalize h.sights = l at hall ⊢
  induction l with
  | nil => rfl
  | cons x l ih =>
    have hx : sectioned d late .after x = some .after := if_pos (hall x (by simp))
    rw [Monitor.after_cons, hx]
    exact ih fun y hy => hall y (by simp [hy])

end Workflow

/-! ## Any order of steps -/

variable [Inhabited R] {server : Server σ Q R} {w : World σ} {workflows : List (Workflow Q R α)}
variable {wf : Workflow Q R α} {s : Schedule σ Q R α} {n i j : Nat}
variable {P : Except Fault α → Stage → Prop}

/-- Up to any of its sights a call has kept to its section. -/
theorem Schedule.Reaches.sectioned_upTo (hr : Reaches server (Schedule.start w workflows) s)
    (hi : workflows[i]? = some wf) (hwf : Obeys (sectioned d late) .before wf P)
    (hn : s.seen[n]? = some (i, x)) :
    ∃ stage, (sectioned d late).after .before (sightsOf i (s.seen.take n) ++ [x]) =
      some stage := by
  obtain ⟨h, o, rest, hrun, hsights⟩ := hr.run_through hi hn
  obtain ⟨last, hlast, -⟩ := hwf h o hrun
  rw [hsights, List.append_cons] at hlast
  exact Monitor.after_prefix hlast

/-- **A request in an interleaving** is sent under the lock, or it is a late
one. -/
theorem Schedule.Reaches.inside_or_late {q : Q} {r : R}
    (hr : Reaches server (Schedule.start w workflows) s)
    (hi : workflows[i]? = some wf) (hwf : Obeys (sectioned d late) .before wf P)
    (hn : s.seen[n]? = some (i, .asked q r)) :
    Sight.holds d (sightsOf i (s.seen.take n)) ∨
      late q ∧ .released d ∈ sightsOf i (s.seen.take n) := by
  obtain ⟨stage, hstage⟩ := hr.sectioned_upTo hi hwf hn
  exact CloudOrchestration.inside_or_late hstage

/-- **While another holds the lock** only late requests are sent, by those who
have given it back. -/
theorem Schedule.Reaches.late_of_holds {q : Q} {r : R} {P' : Except Fault α → Option Domain → Prop}
    (hr : Reaches server (Schedule.start w workflows) s)
    (hall : ∀ wf ∈ workflows, Obeys lockDiscipline none wf P')
    (hi : workflows[i]? = some wf) (hwf : Obeys (sectioned d late) .before wf P)
    (hn : s.seen[n]? = some (i, .asked q r)) (hne : i ≠ j)
    (hholds : Sight.holds d (sightsOf j (s.seen.take n))) :
    late q ∧ .released d ∈ sightsOf i (s.seen.take n) := by
  obtain ⟨_, hrow⟩ := (hr.interleaves hall).take n
  refine (hr.inside_or_late hi hwf hn).resolve_left fun hinside => hne ?_
  exact hrow.exclusive hinside hholds

omit [DecidablePred late] [Inhabited R] in
/-- **Two who have had a lock have had it in turn**: one of them gave it back
before the other obtained it. -/
theorem Interleaves.in_turn {σ₀ s : σ} {l : List (Nat × Sight Q R)}
    (h : Interleaves server σ₀ l s) (hne : i ≠ j) (hi : .acquired d ∈ sightsOf i l)
    (hj : .acquired d ∈ sightsOf j l) :
    (∃ l₁ l₂, l = l₁ ++ (j, .acquired d) :: l₂ ∧ .released d ∈ sightsOf i l₁) ∨
      ∃ l₁ l₂, l = l₁ ++ (i, .acquired d) :: l₂ ∧ .released d ∈ sightsOf j l₁ := by
  -- a sight that is not this one of `k` leaves what was obtained before
  have hkeep : ∀ {l : List (Nat × Sight Q R)} {n k : Nat} {x : Sight Q R},
      .acquired d ∈ sightsOf k (l ++ [(n, x)]) → ¬ (k = n ∧ x = .acquired d) →
        .acquired d ∈ sightsOf k l := by
    intro l n k x hk hother
    by_cases hkn : k = n
    · subst hkn
      rw [sightsOf_append_self, List.mem_append] at hk
      refine hk.resolve_right fun hx => hother ⟨rfl, ?_⟩
      simpa using (List.mem_singleton.1 hx).symm
    · rwa [sightsOf_append_other hkn] at hk
  have hgrow : ∀ {l : List (Nat × Sight Q R)} {y : Nat × Sight Q R},
      ((∃ l₁ l₂, l = l₁ ++ (j, .acquired d) :: l₂ ∧ .released d ∈ sightsOf i l₁) ∨
        ∃ l₁ l₂, l = l₁ ++ (i, .acquired d) :: l₂ ∧ .released d ∈ sightsOf j l₁) →
      (∃ l₁ l₂, l ++ [y] = l₁ ++ (j, .acquired d) :: l₂ ∧ .released d ∈ sightsOf i l₁) ∨
        ∃ l₁ l₂, l ++ [y] = l₁ ++ (i, .acquired d) :: l₂ ∧ .released d ∈ sightsOf j l₁ := by
    rintro l y (⟨l₁, l₂, rfl, hl⟩ | ⟨l₁, l₂, rfl, hl⟩)
    · exact .inl ⟨l₁, l₂ ++ [y], List.append_assoc .., hl⟩
    · exact .inr ⟨l₁, l₂ ++ [y], List.append_assoc .., hl⟩
  induction h with
  | nil => cases hi
  | @acquired l s before n d' hfree ih =>
    by_cases hi' : i = n ∧ (.acquired d' : Sight Q R) = .acquired d
    · -- it is the turn of `i`, so `j` does not hold the lock
      obtain ⟨rfl, hd⟩ := hi'
      cases hd
      have hj' := hkeep hj fun hx => hne hx.1.symm
      exact .inr ⟨l, [], rfl, Sight.released_of_acquired hj' (hfree j)⟩
    · by_cases hj' : j = n ∧ (.acquired d' : Sight Q R) = .acquired d
      · obtain ⟨rfl, hd⟩ := hj'
        cases hd
        exact .inl ⟨l, [], rfl, Sight.released_of_acquired (hkeep hi hi') (hfree i)⟩
      · exact hgrow (ih (hkeep hi hi') (hkeep hj hj'))
  | asked before n q ih => exact hgrow (ih (hkeep hi nofun) (hkeep hj nofun))
  | refused before n d' ih => exact hgrow (ih (hkeep hi nofun) (hkeep hj nofun))
  | released before n d' ih => exact hgrow (ih (hkeep hi nofun) (hkeep hj nofun))

/-- Where a list begins with something up to an element, so does what comes
before the list's end, if the element lies there. -/
theorem exists_eq_append_cons {β : Type} {l₁ l₂ start rest : List β} {x : β}
    (h : l₁ ++ l₂ = start ++ x :: rest) (hx : x ∈ l₁) (hstart : x ∉ start) :
    ∃ rest', l₁ = start ++ x :: rest' := by
  obtain ⟨tail, rfl, -⟩ | ⟨tail, rfl, hrest⟩ := List.append_eq_append_iff.1 h
  · exact absurd (List.mem_append_left _ hx) hstart
  · cases tail with
    | nil => exact absurd (by simpa using hx) hstart
    | cons y tail =>
      obtain ⟨rfl, -⟩ := List.cons.inj hrest
      exact ⟨tail, rfl⟩

end CloudOrchestration
