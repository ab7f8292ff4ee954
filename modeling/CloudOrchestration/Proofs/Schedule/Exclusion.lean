import CloudOrchestration.Proofs.Schedule.Interleaving
import CloudOrchestration.Proofs.Workflow.Monitor
/-!
# Locks exclude

Where every workflow gives back only locks that it holds, and waits for none
while it holds one, a lock is obtained only while nobody holds it. So what is
seen of an interleaving can be told without the queues and the clock:
`Interleaves` lists its steps, and at most one number holds a lock at any
point (`Interleaves.exclusive`). What holds of every such row holds under any
order of steps (`Reaches.interleaves`).
-/

namespace CloudOrchestration

open Workflow

variable {σ Q R α : Type}

namespace Sight

/-- Whether a lock is held after a sight. -/
def holding (d : Domain) (held : Bool) : Sight Q R → Bool
  | acquired d' => if d' = d then true else held
  | released d' => if d' = d then false else held
  | asked _ _ | refused _ => held

/-- Whether a lock is held after a row of sights. -/
def holds (d : Domain) (l : List (Sight Q R)) : Bool := l.foldl (holding d) false

@[simp] theorem holds_nil {d : Domain} : holds d ([] : List (Sight Q R)) = false := rfl

@[simp] theorem holds_append_one {d : Domain} {l : List (Sight Q R)} {x : Sight Q R} :
    holds d (l ++ [x]) = holding d (holds d l) x := by
  simp [holds]

end Sight

/-- **The discipline of locks**: to hold one at a time, and to give back what
is held. The state is what is held. -/
def lockDiscipline : Monitor (Option Domain) Q R
  | none, .acquired d => some (some d)
  | none, .refused _ => some none
  | some d, .released d' => if d' = d then some none else none
  | held, .asked _ _ => some held
  | _, _ => none

theorem lockDiscipline_holding {held held' : Option Domain} {x : Sight Q R}
    (h : lockDiscipline held x = some held') (d : Domain) :
    x.holding d (held = some d) = decide (held' = some d) := by
  cases held with
  | none =>
    cases x with
    | asked => cases h; rfl
    | acquired d' => cases h; by_cases hd : d' = d <;> simp [Sight.holding, hd]
    | refused => cases h; rfl
    | released => cases h
  | some d₀ =>
    cases x with
    | asked => cases h; rfl
    | acquired => cases h
    | refused => cases h
    | released d' =>
      simp only [lockDiscipline] at h
      split at h
      next heq =>
        cases h
        by_cases hd : d' = d <;> simp_all [Sight.holding]
      next => cases h

/-- A monitor whose state tells what is held, step by step, tells it of every
row. -/
theorem holding_of_after {S : Type} {m : Monitor S Q R} {d : Domain} {f : S → Bool}
    (hstep : ∀ {s s' : S} {x : Sight Q R}, m s x = some s' → x.holding d (f s) = f s')
    {l : List (Sight Q R)} {s s' : S} (h : m.after s l = some s') :
    l.foldl (Sight.holding d) (f s) = f s' := by
  induction l generalizing s with
  | nil => cases h; rfl
  | cons x l ih =>
    rw [Monitor.after_cons, Option.bind_eq_some_iff] at h
    obtain ⟨next, hx, h⟩ := h
    rw [List.foldl_cons, hstep hx, ih h]

/-- The state of the discipline is what is held. -/
theorem holds_eq_of_after {l : List (Sight Q R)} {held : Option Domain}
    (h : lockDiscipline.after none l = some held) (d : Domain) :
    Sight.holds d l = decide (held = some d) :=
  holding_of_after (f := fun held => decide (held = some d))
    (fun hx => lockDiscipline_holding hx d) h

/-- A lock is released by one who holds it. -/
theorem holds_of_released {l : List (Sight Q R)} {d : Domain} {held : Option Domain}
    (h : lockDiscipline.after none (l ++ [.released d]) = some held) : Sight.holds d l := by
  rw [Monitor.after_append, Option.bind_eq_some_iff] at h
  obtain ⟨held', hbefore, h⟩ := h
  rw [holds_eq_of_after hbefore]
  cases held' with
  | none => cases h
  | some d' =>
    by_cases hd : d = d'
    · simp [hd]
    · simp [lockDiscipline, hd] at h

/-- Where a lock is free, what follows tells whether it is held. -/
theorem Sight.holds_append_of_free {l l' : List (Sight Q R)} {d : Domain}
    (h : holds d l = false) : holds d (l ++ l') = holds d l' := by
  rw [holds, List.foldl_append]
  show l'.foldl (holding d) (holds d l) = holds d l'
  rw [h, holds]

/-- Requests leave a lock as it was. -/
theorem Sight.holds_append_of_asked {l l' : List (Sight Q R)} {d : Domain}
    (h : ∀ x ∈ l', ∃ q r, x = .asked q r) : holds d (l ++ l') = holds d l := by
  rw [holds, List.foldl_append]
  show l'.foldl (holding d) (holds d l) = holds d l
  induction l' with
  | nil => rfl
  | cons x l' ih =>
    obtain ⟨q, r, rfl⟩ := h x List.mem_cons_self
    exact ih fun x hx => h x (List.mem_cons_of_mem _ hx)

/-- What is held after a row was held before it, or was obtained in it. -/
theorem Sight.held_or_acquired {l : List (Sight Q R)} {d : Domain} {held : Bool}
    (h : l.foldl (holding d) held = true) : held = true ∨ .acquired d ∈ l := by
  induction l generalizing held with
  | nil => exact .inl h
  | cons x l ih =>
    rcases ih h with hx | hx
    · cases x with
      | asked => exact .inl hx
      | refused => exact .inl hx
      | acquired d' =>
        by_cases hd : d' = d
        · exact .inr (hd ▸ List.mem_cons_self)
        · exact .inl (by simpa [holding, hd] using hx)
      | released d' =>
        by_cases hd : d' = d
        · simp [holding, hd] at hx
        · exact .inl (by simpa [holding, hd] using hx)
    · exact .inr (List.mem_cons_of_mem _ hx)

/-- What is held after a row was held at some point of it, or obtained since. -/
theorem Sight.holds_or_acquired {l l' : List (Sight Q R)} {d : Domain} (h : holds d (l ++ l')) :
    holds d l ∨ .acquired d ∈ l' := by
  rw [holds, List.foldl_append] at h
  exact held_or_acquired h

/-- What is held was obtained. -/
theorem Sight.acquired_of_holds {l : List (Sight Q R)} {d : Domain} (h : holds d l) :
    .acquired d ∈ l :=
  (held_or_acquired h).resolve_left Bool.false_ne_true

/-- What was given back was obtained. -/
theorem acquired_of_released {l : List (Sight Q R)} {d : Domain} {held : Option Domain}
    (h : lockDiscipline.after none l = some held) (hr : .released d ∈ l) : .acquired d ∈ l := by
  obtain ⟨l₁, l₂, rfl⟩ := List.append_of_mem hr
  rw [List.append_cons] at h
  obtain ⟨held', hbefore⟩ := Monitor.after_prefix h
  exact List.mem_append_left _ (Sight.acquired_of_holds (holds_of_released hbefore))

/-! ## Interleavings of sights -/

open Schedule

/-- **The rows of sights of an interleaving**, with the server after them.
Every answer is the server's, and a lock is obtained only while nobody holds
it. -/
inductive Interleaves (server : Server σ Q R) (σ₀ : σ) : List (Nat × Sight Q R) → σ → Prop where
  | nil : Interleaves server σ₀ [] σ₀
  | asked {l : List (Nat × Sight Q R)} {s : σ} (before : Interleaves server σ₀ l s) (n : Nat)
      (q : Q) :
      Interleaves server σ₀ (l ++ [(n, .asked q (server s q).answer)]) (server s q).server
  | acquired {l : List (Nat × Sight Q R)} {s : σ} (before : Interleaves server σ₀ l s) (n : Nat)
      (d : Domain) (hfree : ∀ i, Sight.holds d (sightsOf i l) = false) :
      Interleaves server σ₀ (l ++ [(n, .acquired d)]) s
  | refused {l : List (Nat × Sight Q R)} {s : σ} (before : Interleaves server σ₀ l s) (n : Nat)
      (d : Domain) : Interleaves server σ₀ (l ++ [(n, .refused d)]) s
  | released {l : List (Nat × Sight Q R)} {s : σ} (before : Interleaves server σ₀ l s) (n : Nat)
      (d : Domain) : Interleaves server σ₀ (l ++ [(n, .released d)]) s

/-- What a number holds after one more sight. -/
theorem holds_sightsOf_append {l : List (Nat × Sight Q R)} {n i : Nat} {x : Sight Q R}
    {d : Domain} :
    Sight.holds d (sightsOf i (l ++ [(n, x)])) =
      if i = n then x.holding d (Sight.holds d (sightsOf i l)) else
        Sight.holds d (sightsOf i l) := by
  split
  next h => subst h; simp
  next h => rw [sightsOf_append_other h]

/-- Who holds a lock after a sight held it before, or has just obtained
it. -/
theorem holds_of_append {l : List (Nat × Sight Q R)} {n i : Nat} {x : Sight Q R} {d : Domain}
    (h : Sight.holds d (sightsOf i (l ++ [(n, x)]))) :
    Sight.holds d (sightsOf i l) ∨ (i = n ∧ x = .acquired d) := by
  rw [holds_sightsOf_append] at h
  split at h
  next hin =>
    cases x with
    | asked => exact .inl h
    | refused => exact .inl h
    | acquired d' =>
      by_cases hd : d' = d
      · exact .inr ⟨hin, by rw [hd]⟩
      · exact .inl (by simpa [Sight.holding, hd] using h)
    | released d' =>
      by_cases hd : d' = d
      · simp [Sight.holding, hd] at h
      · exact .inl (by simpa [Sight.holding, hd] using h)
  next => exact .inl h

/-- Who holds a lock after any other sight held it before. -/
theorem holds_before {l : List (Nat × Sight Q R)} {n i : Nat} {x : Sight Q R} {d : Domain}
    (h : Sight.holds d (sightsOf i (l ++ [(n, x)]))) (hx : x ≠ .acquired d) :
    Sight.holds d (sightsOf i l) :=
  (holds_of_append h).resolve_right fun hlast => hx hlast.2

/-- **At most one number holds a lock.** -/
theorem Interleaves.exclusive {server : Server σ Q R} {σ₀ s : σ} {l : List (Nat × Sight Q R)}
    (h : Interleaves server σ₀ l s) {d : Domain} {i j : Nat}
    (hi : Sight.holds d (sightsOf i l)) (hj : Sight.holds d (sightsOf j l)) : i = j := by
  induction h with
  | nil => cases hi
  | acquired before n d' hfree ih =>
    rcases holds_of_append hi with hi' | ⟨rfl, hx⟩ <;>
      rcases holds_of_append hj with hj' | ⟨rfl, hx'⟩
    · exact ih hi' hj'
    · cases hx'; simp [hfree] at hi'
    · cases hx; simp [hfree] at hj'
    · rfl
  | asked before n q ih | refused before n d' ih | released before n d' ih =>
    exact ih (holds_before hi nofun) (holds_before hj nofun)

/-- The first elements of a row with one more element are the first of the
row, or all. -/
theorem take_append_one {β : Type} (l : List β) (x : β) (k : Nat) :
    (l ++ [x]).take k = l.take k ∨ (l ++ [x]).take k = l ++ [x] := by
  by_cases hk : k ≤ l.length
  · exact .inl (List.take_append_of_le_length hk)
  · exact .inr (List.take_of_length_le (by simp; omega))

/-- What is seen up to some point is an interleaving. -/
theorem Interleaves.take {server : Server σ Q R} {σ₀ s : σ} {l : List (Nat × Sight Q R)}
    (h : Interleaves server σ₀ l s) (k : Nat) : ∃ s', Interleaves server σ₀ (l.take k) s' := by
  induction h with
  | nil => exact ⟨σ₀, by simpa using Interleaves.nil⟩
  | @asked l s before n q ih =>
    rcases take_append_one l (n, .asked q (server s q).answer) k with h | h <;> rw [h]
    · exact ih
    · exact ⟨_, before.asked n q⟩
  | @acquired l s before n d hfree ih =>
    rcases take_append_one l (n, .acquired d) k with h | h <;> rw [h]
    · exact ih
    · exact ⟨_, before.acquired n d hfree⟩
  | @refused l s before n d ih =>
    rcases take_append_one l (n, .refused d) k with h | h <;> rw [h]
    · exact ih
    · exact ⟨_, before.refused n d⟩
  | @released l s before n d ih =>
    rcases take_append_one l (n, .released d) k with h | h <;> rw [h]
    · exact ih
    · exact ⟨_, before.released n d⟩

/-- The server after a sight. -/
def Sight.serve (server : Server σ Q R) (s : σ) : Sight Q R → σ
  | asked q _ => (server s q).server
  | acquired _ | refused _ | released _ => s

/-- The server after a row of sights. -/
def serverAfter (server : Server σ Q R) (s : σ) (l : List (Nat × Sight Q R)) : σ :=
  l.foldl (fun s x => x.2.serve server s) s

theorem serverAfter_append {server : Server σ Q R} {s : σ} {l l' : List (Nat × Sight Q R)} :
    serverAfter server s (l ++ l') = serverAfter server (serverAfter server s l) l' :=
  List.foldl_append

@[simp] theorem serverAfter_append_one {server : Server σ Q R} {s : σ}
    {l : List (Nat × Sight Q R)} {x : Nat × Sight Q R} :
    serverAfter server s (l ++ [x]) = x.2.serve server (serverAfter server s l) := by
  simp [serverAfter]

theorem Interleaves.server_eq {server : Server σ Q R} {σ₀ s : σ} {l : List (Nat × Sight Q R)}
    (h : Interleaves server σ₀ l s) : s = serverAfter server σ₀ l := by
  induction h with
  | nil => rfl
  | asked before n q ih | acquired before n d hfree ih | refused before n d ih
  | released before n d ih => simp [Sight.serve, ← ih]

/-- **Every answer is the server's**, in the state it has come to. -/
theorem Interleaves.answer_eq {server : Server σ Q R} {σ₀ s : σ} {l : List (Nat × Sight Q R)}
    (h : Interleaves server σ₀ l s) {n i : Nat} {q : Q} {r : R}
    (hn : l[n]? = some (i, .asked q r)) :
    r = (server (serverAfter server σ₀ (l.take n)) q).answer := by
  obtain ⟨s', hupto⟩ := h.take (n + 1)
  rw [List.take_add_one, hn, Option.toList_some] at hupto
  generalize hl : l.take n ++ [(i, Sight.asked q r)] = l' at hupto
  cases hupto with
  | nil => simp at hl
  | asked before j q' =>
    obtain ⟨rfl, hx⟩ := List.append_inj' hl rfl
    cases hx
    rw [← before.server_eq]
  | acquired before j d hfree | refused before j d | released before j d =>
    obtain ⟨-, hx⟩ := List.append_inj' hl rfl
    cases hx

/-- A lock that was obtained and is not held was given back. -/
theorem Sight.released_of_acquired {d : Domain} {l : List (Sight Q R)}
    (hacquired : .acquired d ∈ l) (hfree : holds d l = false) : .released d ∈ l := by
  -- over any start: once it is held it stays so until it is given back
  have hgeneral : ∀ held, (.acquired d ∈ l ∨ held = true) → l.foldl (holding d) held = false →
      .released d ∈ l := by
    clear hacquired hfree
    induction l with
    | nil =>
      rintro held (hx | rfl) hfree
      · cases hx
      · cases hfree
    | cons x l ih =>
      intro held hheld hfree
      by_cases hreleased : x = .released d
      · exact hreleased ▸ List.mem_cons_self
      · refine List.mem_cons_of_mem _ (ih (holding d held x) ?_ hfree)
        rcases hheld with hx | rfl
        · rcases List.mem_cons.1 hx with rfl | hx
          · exact .inr (by simp [holding])
          · exact .inl hx
        · refine .inr ?_
          cases x with
          | released d' =>
            have hne : d' ≠ d := fun h => hreleased (h ▸ rfl)
            simp [holding, hne]
          | _ => simp [holding]
  exact hgeneral false (.inl hacquired) hfree

/-- **Whoever had a lock gave it back before its holder obtained it.** -/
theorem Interleaves.released_before {server : Server σ Q R} {σ₀ s : σ}
    {l : List (Nat × Sight Q R)} (h : Interleaves server σ₀ l s) {d : Domain} {i j : Nat}
    (hne : i ≠ j) (hi : .acquired d ∈ sightsOf i l) (hj : Sight.holds d (sightsOf j l)) :
    ∃ l₃ l₄, l = l₃ ++ (j, .acquired d) :: l₄ ∧ .released d ∈ sightsOf i l₃ := by
  -- If the holder obtains the lock last, nobody held it; otherwise it held it before.
  induction h with
  | nil => cases hi
  | @acquired l s before n d' hfree ih =>
    obtain hj' | ⟨rfl, hx⟩ := holds_of_append hj
    · have hi' : .acquired d ∈ sightsOf i l := by
        rw [sightsOf_append, List.mem_append] at hi
        refine hi.resolve_right fun hlast => ?_
        by_cases hin : i = n
        · subst hin
          have hd : d = d' := by simpa using hlast
          subst hd
          simp [hfree] at hj'
        · simp [sightsOf_other hin] at hlast
      obtain ⟨l₃, l₄, rfl, hl⟩ := ih hi' hj'
      exact ⟨l₃, l₄ ++ [(n, .acquired d')], by simp, hl⟩
    · cases hx
      have hi' : .acquired d ∈ sightsOf i l := by rwa [sightsOf_append_other hne] at hi
      exact ⟨l, [], rfl, Sight.released_of_acquired hi' (hfree i)⟩
  | @asked l s before n q ih | @refused l s before n d' ih | @released l s before n d' ih =>
    have hi' : .acquired d ∈ sightsOf i l := by
      by_cases hin : i = n
      · subst hin; simpa using hi
      · rwa [sightsOf_append_other hin] at hi
    obtain ⟨l₃, l₄, rfl, hl⟩ := ih hi' (holds_before hj nofun)
    exact ⟨l₃, l₄ ++ [_], List.append_assoc .., hl⟩

/-- **A row of sights explains a world**: it is an interleaving, and the
locks that are held in it are held in the world. -/
structure Explains (server : Server σ Q R) (σ₀ : σ) (l : List (Nat × Sight Q R)) (w : World σ) :
    Prop where
  row : Interleaves server σ₀ l w.server
  held : ∀ d i, Sight.holds d (sightsOf i l) → (w.locks d).isHeld

/-- What an action shows explains the world after it, if it gives back only
what it holds. -/
theorem Explains.act {server : Server σ Q R} {σ₀ : σ} {l : List (Nat × Sight Q R)}
    {w w' : World σ} {sight : Option (Sight Q R)} {n : Nat} (h : Explains server σ₀ l w)
    (hshows : w.Shows server sight w')
    (hreleased : ∀ d, sight = some (.released d) → Sight.holds d (sightsOf n l)) :
    Explains server σ₀ (l ++ (sight.map (n, ·)).toList) w' := by
  obtain ⟨hrow, hheld⟩ := h
  cases hshows with
  | nothing hserver hkept =>
    exact ⟨by simpa [hserver] using hrow, fun d i hi => hkept d (hheld d i (by simpa using hi))⟩
  | asked hserver hlocks =>
    exact ⟨hserver ▸ hrow.asked n _, fun d i hi => hlocks ▸ hheld d i (holds_before hi nofun)⟩
  | @acquired _ d' hserver hfree hnow hothers =>
    -- a lock that somebody held would be held in the world
    have hnobody : ∀ i, Sight.holds d' (sightsOf i l) = false := fun i =>
      Bool.eq_false_iff.2 fun hi => by simp [hheld d' i hi] at hfree
    refine ⟨hserver ▸ hrow.acquired n d' hnobody, fun d i hi => ?_⟩
    by_cases hd : d = d'
    · exact hd ▸ hnow
    · rw [hothers d hd]
      refine hheld d i (holds_before hi fun hx => hd ?_)
      cases hx
      rfl
  | refused hserver hkept =>
    exact ⟨hserver ▸ hrow.refused n _, fun d i hi => hkept d (hheld d i (holds_before hi nofun))⟩
  | @released _ d' hserver hothers =>
    refine ⟨hserver ▸ hrow.released n d', fun d i hi => ?_⟩
    by_cases hd : d = d'
    · -- The one who releases is the only holder, and holds no longer.
      subst hd
      exfalso
      have hin : i = n := hrow.exclusive (holds_before hi nofun) (hreleased d rfl)
      have hi' : Sight.holds d (sightsOf i (l ++ [(n, .released d)])) := hi
      rw [holds_sightsOf_append, if_pos hin] at hi'
      simp [Sight.holding] at hi'
    · rw [hothers d hd]
      exact hheld d i (holds_before hi nofun)

/-! ## Every order of steps -/

/-- A strand on its way has not stopped a monitor that its workflow obeys. -/
theorem Strand.At.after [Inhabited R] {S : Type} {m : Monitor S Q R} {s : S}
    {w : Workflow Q R α} {P : Except Fault α → S → Prop} (hw : Obeys m s w P)
    {h : History Q R} {strand : Strand Q R α} (hs : strand.At w h) :
    ∃ s', m.after s h.sights = some s' := by
  cases hs with
  | running hl => exact hw.leads hl
  | waiting hl => exact hw.leads hl
  | ended hr =>
    obtain ⟨s', hs', -⟩ := hw h _ hr
    exact ⟨s', hs'⟩

variable [Inhabited R] {server : Server σ Q R} {w : World σ} {workflows : List (Workflow Q R α)}
variable {s : Schedule σ Q R α}

/-- **No number stops a monitor** that its workflow obeys. -/
theorem Schedule.Reaches.after {S : Type} {m : Monitor S Q R} {s₀ : S} {n : Nat}
    {P : Except Fault α → S → Prop}
    (hn : ∀ wf, workflows[n]? = some wf → Obeys m s₀ wf P)
    (hr : Reaches server (Schedule.start w workflows) s) :
    ∃ s', m.after s₀ (sightsOf n s.seen) = some s' := by
  cases hwf : workflows[n]? with
  | some wf =>
    obtain ⟨strand, h, -, hat, hsights⟩ := hr.strand hwf
    rw [← hsights]
    exact hat.after (hn wf hwf)
  | none =>
    -- a number without a workflow shows nothing
    have hempty : sightsOf n s.seen = [] := by
      refine List.filterMap_eq_nil_iff.2 fun x hx => if_neg ?_
      have hlt := hr.lt_of_mem_seen hx
      have hle := List.getElem?_eq_none_iff.1 hwf
      omega
    exact ⟨s₀, by rw [hempty]; rfl⟩

/-- **What is seen under any order of steps** is an interleaving, if all
workflows keep the discipline of locks. -/
theorem Schedule.Reaches.interleaves
    {P : Except Fault α → Option Domain → Prop}
    (hall : ∀ wf ∈ workflows, Obeys lockDiscipline none wf P)
    (hr : Reaches server (Schedule.start w workflows) s) :
    Interleaves server w.server s.seen s.world.server := by
  have hexplains : Explains server w.server s.seen s.world := by
    induction hr with
    | start => exact ⟨.nil, fun d i hi => nomatch hi⟩
    | @act s s' before hact ih =>
      have hafter := fun n => (before.act hact).after (n := n) fun wf hwf =>
        hall wf (List.mem_of_getElem? hwf)
      obtain @⟨n, strand, ready, instant, turn, hn, -, -, hturn⟩ := hact
      rw [seen_act] at hafter ⊢
      have hsame : Explains server w.server s.seen { s.world with clock := instant } :=
        ⟨ih.row, ih.held⟩
      refine hsame.act (Strand.shows hturn) fun d hd => ?_
      -- a strand gives back only what its own sights say that it holds
      obtain ⟨held, hheld⟩ := hafter n
      simp only [hd, Option.map_some, Option.toList_some, sightsOf_append, sightsOf_self] at hheld
      exact holds_of_released hheld
  exact hexplains.row

end CloudOrchestration
