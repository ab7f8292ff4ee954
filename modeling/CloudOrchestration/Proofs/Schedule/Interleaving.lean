import CloudOrchestration.Proofs.Workflow.Sight
import CloudOrchestration.Schedule.Run
/-!
# Interleavings

`Schedule.run` lets the strand act whose instant comes first. Here any strand
whose instant has come may act, at that instant or at any later one, so that
nothing depends on who is faster: `Reaches`. What `run` ends with is one of
the schedules that are reached so.

An interleaving is seen as one row of sights, each with the number of its
strand. The sights of one number are those of a history of its workflow
(`Reaches.strand`), and the whole is explained by the server and the locks:
every answer is the server's, and a lock is obtained only while nobody holds
it (`Interleaves`).
-/

namespace CloudOrchestration

open Workflow

variable {σ Q R α : Type}

/-- What others see of a happening. -/
def Happening.sight? : Happening Q R → Option (Sight Q R)
  | asked q _ r => some (.asked q r)
  | acquired d => some (.acquired d)
  | refused d => some (.refused d)
  | released d => some (.released d)
  | slept _ | queued _ _ => none

/-- What others see of an action. -/
def Strand.Turn.sight? (turn : Strand.Turn σ Q R α) : Option (Sight Q R) :=
  turn.happening.bind Happening.sight?

/-! ## Strands and histories -/

/-- The strand of a workflow after a history. -/
inductive Strand.At (w : Workflow Q R α) (h : History Q R) : Strand Q R α → Prop where
  | running {t : Instant} {rest : Workflow Q R α} (hl : Leads w h rest) : At w h (running t rest)
  | waiting {d : Domain} {budget : Nat} {expiry : Instant} {next : Bool → Workflow Q R α}
      (hl : Leads w h (.perform (.acquire d budget) next)) : At w h (waiting d expiry next)
  | ended {t : Instant} {o : Except Fault α} (hr : Runs w h o) : At w h (ended t o)

/-- The history of a strand goes on to a run. -/
theorem Strand.At.runs [Inhabited R] {w : Workflow Q R α} {h : History Q R} {s : Strand Q R α}
    (hs : s.At w h) : ∃ h' o, Runs w (h ++ h') o := by
  cases hs with
  | @running _ rest hl =>
    obtain ⟨h', o, hr⟩ := exists_runs rest
    exact ⟨h', o, hl.runs hr⟩
  | @waiting d budget _ next hl =>
    obtain ⟨h', o, hr⟩ := exists_runs (.perform (.acquire d budget) next)
    exact ⟨h', o, hl.runs hr⟩
  | ended hr => exact ⟨[], _, by simpa using hr⟩

/-- **An action extends the history** by what is seen of it. -/
theorem Strand.At.act {server : Server σ Q R} {world : World σ} {n : Nat} {w : Workflow Q R α}
    {h : History Q R} {s : Strand Q R α} {turn : Strand.Turn σ Q R α} (hs : s.At w h)
    (hact : s.act? server world n = some turn) :
    ∃ h', turn.strand.At w (h ++ h') ∧ h'.sights = turn.sight?.toList := by
  cases hs with
  | waiting hl =>
    cases hact
    refine ⟨[⟨_, _⟩], .running (hl.perform _), ?_⟩
    simp only [Turn.sight?]
    split <;> simp_all [Happening.sight?]
  | ended => cases hact
  | @running t rest hl =>
    cases rest with
    | done a => cases hact; exact ⟨[], .ended (hl.runs (.done a)), rfl⟩
    | fail fault => cases hact; exact ⟨[], .ended (hl.runs (.fail fault)), rfl⟩
    | perform e next =>
      cases e with
      | acquire d budget =>
        cases enters_of_act? hact with
        | acquired | refused => exact ⟨[⟨_, _⟩], .running (hl.perform _), rfl⟩
        | queued =>
          -- it stands in line, and its history goes on later
          exact ⟨[], by simpa using .waiting hl, rfl⟩
      | now | sleepUntil _ | ask _ | release _ | isLocked _ | track _ | untrack _ | tracked
      | draw =>
        cases hact
        exact ⟨[⟨_, _⟩], .running (hl.perform _), rfl⟩

/-! ## The world of an action -/

/-- Whether somebody holds the lock. -/
def Lock.isHeld : Lock → Bool
  | held _ => true
  | free | handed _ _ => false

/-- **What a sight says about the world** before and after. -/
inductive World.Shows (server : Server σ Q R) (w : World σ) :
    Option (Sight Q R) → World σ → Prop where
  | nothing {w' : World σ} (hserver : w'.server = w.server)
      (hheld : ∀ d, (w.locks d).isHeld → (w'.locks d).isHeld) : Shows server w none w'
  | asked {w' : World σ} {q : Q} (hserver : w'.server = (server w.server q).server)
      (hlocks : w'.locks = w.locks) : Shows server w (some (.asked q (server w.server q).answer)) w'
  | acquired {w' : World σ} {d : Domain} (hserver : w'.server = w.server)
      (hfree : (w.locks d).isHeld = false) (hheld : (w'.locks d).isHeld)
      (hothers : ∀ d', d' ≠ d → w'.locks d' = w.locks d') : Shows server w (some (.acquired d)) w'
  | refused {w' : World σ} {d : Domain} (hserver : w'.server = w.server)
      (hheld : ∀ d, (w.locks d).isHeld → (w'.locks d).isHeld) :
      Shows server w (some (.refused d)) w'
  | released {w' : World σ} {d : Domain} (hserver : w'.server = w.server)
      (hothers : ∀ d', d' ≠ d → w'.locks d' = w.locks d') : Shows server w (some (.released d)) w'

theorem Lock.not_isHeld_of_not_isTaken {l : Lock} (h : l.isTaken = false) : l.isHeld = false := by
  cases l <;> first | rfl | cases h

theorem Lock.isHeld_enqueue {l : Lock} {n : Nat} (h : l.isHeld) : (l.enqueue n).isHeld := by
  cases l <;> exact h

theorem Lock.isHeld_settle {l : Lock} {n : Nat} (h : l.isHeld) : (l.settle n).isHeld := by
  cases l <;> first | exact h | cases h

theorem Lock.isHeld_settle_of_isHandedTo {l : Lock} {n : Nat} (h : l.isHandedTo n) :
    (l.settle n).isHeld := by
  cases l <;> simp_all [isHandedTo, settle, isHeld]

theorem Lock.not_isHeld_of_isHandedTo {l : Lock} {n : Nat} (h : l.isHandedTo n) :
    l.isHeld = false := by
  cases l <;> simp_all [isHandedTo, isHeld]

theorem World.isHeld_setLock {w : World σ} {d : Domain} {l : Lock}
    (h : (w.locks d).isHeld → l.isHeld) (d' : Domain) (hd : (w.locks d').isHeld) :
    ((w.setLock d l).locks d').isHeld := by
  rw [World.locks_setLock]
  split
  next heq => exact h (heq ▸ hd)
  next => exact hd

theorem World.locks_setLock_of_ne {w : World σ} {d : Domain} {l : Lock} (d' : Domain)
    (hd : d' ≠ d) : (w.setLock d l).locks d' = w.locks d' := by
  rw [World.locks_setLock, if_neg hd]

/-- **What an action shows** is so of the worlds before and after it. -/
theorem Strand.shows {server : Server σ Q R} {w : World σ} {n : Nat} {s : Strand Q R α}
    {turn : Strand.Turn σ Q R α} (hact : s.act? server w n = some turn) :
    w.Shows server turn.sight? turn.world := by
  cases s with
  | ended => cases hact
  | waiting d expiry next =>
    cases hact
    cases hg : (w.locks d).isHandedTo n with
    | true =>
      refine .acquired rfl (Lock.not_isHeld_of_isHandedTo hg) ?_ World.locks_setLock_of_ne
      simpa using Lock.isHeld_settle_of_isHandedTo hg
    | false => exact .refused rfl (World.isHeld_setLock Lock.isHeld_settle)
  | running t rest =>
    cases rest with
    | done a => cases hact; exact .nothing rfl fun _ h => h
    | fail fault => cases hact; exact .nothing rfl fun _ h => h
    | perform e next =>
      cases e with
      | ask q => cases hact; exact .asked rfl rfl
      | release d => cases hact; exact .released rfl World.locks_setLock_of_ne
      | acquire d budget =>
        cases enters_of_act? hact with
        | acquired hfree =>
          refine .acquired rfl (Lock.not_isHeld_of_not_isTaken hfree) ?_ World.locks_setLock_of_ne
          simp [Lock.isHeld]
        | refused => exact .refused rfl fun _ h => h
        | queued => exact .nothing rfl (World.isHeld_setLock Lock.isHeld_enqueue)
      | now | sleepUntil _ | isLocked _ | track _ | untrack _ | tracked | draw =>
        cases hact
        exact .nothing rfl fun _ h => h

/-! ## Any order of steps -/

namespace Schedule

/-- **A step of any strand** whose instant has come, then or later. -/
inductive Acts (server : Server σ Q R) (s : Schedule σ Q R α) : Schedule σ Q R α → Prop where
  | act {n : Nat} {strand : Strand Q R α} {ready instant : Instant}
      {turn : Strand.Turn σ Q R α} (hn : s.strands[n]? = some strand)
      (hready : strand.readyAt? s.world n = some ready) (hle : ready ≤ instant)
      (hturn : strand.act? server { s.world with clock := instant } n = some turn) :
      Acts server s {
        world := turn.world
        strands := s.strands.set n turn.strand
        log := s.log ++ (turn.happening.map (⟨instant, n, ·⟩)).toList }

/-- **The schedules that some order of steps leads to.** -/
inductive Reaches (server : Server σ Q R) (s₀ : Schedule σ Q R α) :
    Schedule σ Q R α → Prop where
  | start : Reaches server s₀ s₀
  | act {s s' : Schedule σ Q R α} (before : Reaches server s₀ s) (hact : Acts server s s') :
      Reaches server s₀ s'

theorem next?_eq_some {w : World σ} {k n : Nat} {t : Instant} {strands : List (Strand Q R α)}
    (h : next? w k strands = some (n, t)) :
    ∃ i strand, n = k + i ∧ strands[i]? = some strand ∧ strand.readyAt? w n = some t := by
  induction strands generalizing k with
  | nil => cases h
  | cons s rest ih =>
    have hlater : next? w (k + 1) rest = some (n, t) →
        ∃ i strand, n = k + i ∧ (s :: rest)[i]? = some strand ∧ strand.readyAt? w n = some t := by
      intro hnext
      obtain ⟨i, strand, rfl, hi, ht⟩ := ih hnext
      exact ⟨i + 1, strand, by omega, by simpa using hi, ht⟩
    rw [next?] at h
    split at h
    · exact hlater h
    next hready _ =>
      cases h
      exact ⟨0, s, rfl, rfl, hready⟩
    next hready hrest =>
      split at h
      · cases h
        exact ⟨0, s, rfl, rfl, hready⟩
      · cases h
        exact hlater hrest

/-- **A step that the schedule takes by itself** is the action of the strand that
comes next. -/
theorem step?_eq_some {server : Server σ Q R} {s s' : Schedule σ Q R α}
    (h : s.step? server = some s') : ∃ n strand instant turn,
      next? s.world 0 s.strands = some (n, instant) ∧ s.strands[n]? = some strand ∧
        strand.readyAt? s.world n = some instant ∧
        strand.act? server { s.world with clock := instant } n = some turn ∧
        s' = {
          world := turn.world
          strands := s.strands.set n turn.strand
          log := s.log ++ (turn.happening.map (⟨instant, n, ·⟩)).toList } := by
  simp only [step?, Option.bind_eq_bind, Option.bind_eq_some_iff, Option.pure_def,
    Option.some.injEq] at h
  obtain ⟨⟨n, instant⟩, hnext, strand, hstrand, turn, hturn, rfl⟩ := h
  obtain ⟨i, strand', rfl, hi, hready⟩ := next?_eq_some hnext
  rw [Nat.zero_add] at hstrand hready
  rw [hi] at hstrand
  cases hstrand
  rw [Nat.zero_add] at hnext hturn ⊢
  exact ⟨i, strand, instant, turn, hnext, hi, hready, hturn, rfl⟩

/-- It is one of the steps in any order. -/
theorem acts_of_step? {server : Server σ Q R} {s s' : Schedule σ Q R α}
    (h : s.step? server = some s') : Acts server s s' := by
  obtain ⟨n, strand, instant, turn, -, hn, hready, hturn, rfl⟩ := step?_eq_some h
  exact .act hn hready (Nat.le_refl _) hturn

/-- So is a whole run of it. -/
theorem Reaches.run {server : Server σ Q R} {s₀ s : Schedule σ Q R α}
    (h : Reaches server s₀ s) : Reaches server s₀ (s.run server) := by
  fun_induction Schedule.run server s with
  | case1 s hs => exact h
  | case2 s s' hs ih => exact ih (h.act (acts_of_step? hs))

/-- Some steps of the schedule by itself. -/
def advance (server : Server σ Q R) : Nat → Schedule σ Q R α → Schedule σ Q R α
  | 0, s => s
  | n + 1, s =>
    match s.step? server with
    | none => s
    | some s' => advance server n s'

theorem Reaches.advance {server : Server σ Q R} {s₀ s : Schedule σ Q R α}
    (h : Reaches server s₀ s) (n : Nat) : Reaches server s₀ (s.advance server n) := by
  induction n generalizing s with
  | zero => exact h
  | succ n ih =>
    rw [Schedule.advance]
    split
    · exact h
    next s' hs => exact ih (h.act (acts_of_step? hs))

end Schedule

/-! ## What is seen of an interleaving -/

/-- What others see of an event. -/
def Event.seen? (e : Event Q R) : Option (Nat × Sight Q R) :=
  e.happening.sight?.map (e.strand, ·)

namespace Schedule

/-- What was seen so far, each with the number of its strand. -/
def seen (s : Schedule σ Q R α) : List (Nat × Sight Q R) := s.log.filterMap Event.seen?

/-- The sights of one number. -/
def sightsOf (n : Nat) (seen : List (Nat × Sight Q R)) : List (Sight Q R) :=
  seen.filterMap fun x => if x.1 = n then some x.2 else none

@[simp] theorem sightsOf_nil {n : Nat} : sightsOf n ([] : List (Nat × Sight Q R)) = [] := rfl

@[simp] theorem sightsOf_append {n : Nat} {l₁ l₂ : List (Nat × Sight Q R)} :
    sightsOf n (l₁ ++ l₂) = sightsOf n l₁ ++ sightsOf n l₂ := List.filterMap_append

@[simp] theorem sightsOf_self {n : Nat} {x : Sight Q R} : sightsOf n [(n, x)] = [x] := by
  simp [sightsOf]

theorem sightsOf_other {n i : Nat} {x : Sight Q R} (h : i ≠ n) : sightsOf i [(n, x)] = [] := by
  simp [sightsOf, Ne.symm h]

theorem sightsOf_append_self {l : List (Nat × Sight Q R)} {n : Nat} {x : Sight Q R} :
    sightsOf n (l ++ [(n, x)]) = sightsOf n l ++ [x] := by
  simp

theorem sightsOf_append_other {l : List (Nat × Sight Q R)} {n i : Nat} {x : Sight Q R}
    (h : i ≠ n) : sightsOf i (l ++ [(n, x)]) = sightsOf i l := by
  simp [sightsOf_other h]

/-- What is seen of a number. -/
theorem mem_sightsOf {l : List (Nat × Sight Q R)} {n : Nat} {x : Sight Q R} :
    x ∈ sightsOf n l ↔ (n, x) ∈ l := by
  constructor
  · intro h
    obtain ⟨⟨i, y⟩, hy, heq⟩ := List.mem_filterMap.1 h
    split at heq
    next hin =>
      cases heq
      exact hin ▸ hy
    next => cases heq
  · exact fun h => List.mem_filterMap.2 ⟨_, h, if_pos rfl⟩

/-- A list, up to one of its elements and after. -/
theorem take_append_cons_drop {β : Type} {l : List β} {x : β} {n : Nat} (hn : l[n]? = some x) :
    l.take n ++ x :: l.drop (n + 1) = l := by
  obtain ⟨hlt, hx⟩ := List.getElem?_eq_some_iff.1 hn
  rw [← hx, ← List.drop_eq_getElem_cons hlt, List.take_append_drop]

/-- An element lies in the first part of a list, or in the second. -/
theorem append_cons_eq_append {β : Type} {l₁ l₂ l₃ l₄ : List β} {x : β}
    (h : l₁ ++ x :: l₂ = l₃ ++ l₄) :
    (∃ l, l₃ = l₁ ++ x :: l) ∨ ∃ l, l₁ = l₃ ++ l ∧ l₄ = l ++ x :: l₂ := by
  obtain ⟨l, rfl, hl⟩ | ⟨l, rfl, hl⟩ := List.append_eq_append_iff.1 h
  · cases l with
    | nil => exact .inr ⟨[], by simp, by simpa using hl.symm⟩
    | cons y l =>
      obtain ⟨rfl, -⟩ := List.cons.inj hl
      exact .inl ⟨l, rfl⟩
  · exact .inr ⟨l, rfl, hl⟩

/-- What was seen of a number, up to a sight of it and after. -/
theorem exists_sightsOf_eq {l : List (Nat × Sight Q R)} {n i : Nat} {x : Sight Q R}
    (hn : l[n]? = some (i, x)) :
    ∃ rest, sightsOf i l = sightsOf i (l.take n) ++ x :: rest := by
  refine ⟨sightsOf i (l.drop (n + 1)), ?_⟩
  calc sightsOf i l = sightsOf i (l.take n ++ (i, x) :: l.drop (n + 1)) := by
        rw [take_append_cons_drop hn]
    _ = sightsOf i (l.take n) ++ x :: sightsOf i (l.drop (n + 1)) := by
      rw [List.append_cons, sightsOf_append, sightsOf_append_self, List.append_assoc,
        List.singleton_append]

/-- What an action adds to what was seen. -/
theorem seen_act {s : Schedule σ Q R α} {n : Nat} {instant : Instant}
    {turn : Strand.Turn σ Q R α} {strands : List (Strand Q R α)} :
    seen { world := turn.world
           strands
           log := s.log ++ (turn.happening.map (⟨instant, n, ·⟩)).toList } =
      s.seen ++ (turn.sight?.map (n, ·)).toList := by
  simp only [seen, List.filterMap_append, Strand.Turn.sight?]
  cases hh : turn.happening with
  | none => rfl
  | some happening => cases hs : happening.sight? <;> simp [Event.seen?, hs]

variable {server : Server σ Q R} {w : World σ} {workflows : List (Workflow Q R α)}
variable {s : Schedule σ Q R α}

/-- **Every strand is on its way through its own workflow**, whatever the
others do: what is seen of it is seen of a history. -/
theorem Reaches.strand (hr : Reaches server (Schedule.start w workflows) s) {n : Nat}
    {wf : Workflow Q R α} (hn : workflows[n]? = some wf) :
    ∃ strand h, s.strands[n]? = some strand ∧ strand.At wf h ∧ h.sights = sightsOf n s.seen := by
  induction hr with
  | start =>
    exact ⟨.running w.clock wf, [], by simp [Schedule.start, hn], .running (.start wf), rfl⟩
  | @act s s' before hact ih =>
    obtain ⟨strand, h, hstrand, hat, hsights⟩ := ih
    obtain @⟨m, strand', ready, instant, turn, hm, -, -, hturn⟩ := hact
    rw [seen_act]
    -- the strand that acts goes on, any other stays where it is
    by_cases hmn : m = n
    · subst hmn
      rw [hm] at hstrand
      cases hstrand
      obtain ⟨h', hat', hsights'⟩ := hat.act hturn
      have hlt := (List.getElem?_eq_some_iff.1 hm).1
      refine ⟨turn.strand, h ++ h', by simp [hlt], hat', ?_⟩
      rw [History.sights_append, hsights, hsights', sightsOf_append]
      cases turn.sight? <;> simp
    · refine ⟨strand, h, by simpa [hmn] using hstrand, hat, ?_⟩
      rw [hsights, sightsOf_append]
      cases turn.sight? <;> simp [sightsOf_other (Ne.symm hmn)]

/-- **What is seen of a number begins a run** of its workflow. -/
theorem Reaches.run_from [Inhabited R] (hr : Reaches server (Schedule.start w workflows) s)
    {i : Nat} {wf : Workflow Q R α} (hi : workflows[i]? = some wf) :
    ∃ h o rest, Runs wf h o ∧ h.sights = sightsOf i s.seen ++ rest := by
  obtain ⟨strand, h, -, hat, hsights⟩ := hr.strand hi
  obtain ⟨h', o, hrun⟩ := hat.runs
  exact ⟨h ++ h', o, h'.sights, hrun, by rw [History.sights_append, hsights]⟩

/-- **A sight is one of a run** of the workflow of its number, which had shown
before what was seen of that number before. -/
theorem Reaches.run_through [Inhabited R] (hr : Reaches server (Schedule.start w workflows) s)
    {n i : Nat} {x : Sight Q R} {wf : Workflow Q R α} (hi : workflows[i]? = some wf)
    (hn : s.seen[n]? = some (i, x)) :
    ∃ h o rest, Runs wf h o ∧ h.sights = sightsOf i (s.seen.take n) ++ x :: rest := by
  obtain ⟨h, o, after, hrun, hsights⟩ := hr.run_from hi
  obtain ⟨rest, hsplit⟩ := exists_sightsOf_eq hn
  refine ⟨h, o, rest ++ after, hrun, ?_⟩
  rw [hsights, hsplit, List.append_assoc, List.cons_append]

/-- Only strands that were started are seen. -/
theorem Reaches.lt_of_mem_seen (hr : Reaches server (Schedule.start w workflows) s)
    {x : Nat × Sight Q R} (hx : x ∈ s.seen) : x.1 < workflows.length := by
  have hlength : s.strands.length = workflows.length ∧
      ∀ x ∈ s.seen, x.1 < workflows.length := by
    clear hx
    induction hr with
    | start => simp [Schedule.start, seen]
    | act before hact ih =>
      obtain ⟨hlength, hall⟩ := ih
      obtain @⟨m, strand, ready, instant, turn, hm, -, -, hturn⟩ := hact
      have hlt := (List.getElem?_eq_some_iff.1 hm).1
      refine ⟨by simpa using hlength, fun x hx => ?_⟩
      rw [seen_act] at hx
      rcases List.mem_append.1 hx with hx | hx
      · exact hall x hx
      · cases hsight : turn.sight? <;> simp [hsight] at hx
        subst hx
        exact hlength ▸ hlt
  exact hlength.2 x hx

end Schedule

end CloudOrchestration
