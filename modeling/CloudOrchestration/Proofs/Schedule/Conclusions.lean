import CloudOrchestration.Proofs.Schedule.Clocked
/-!
# What is made of ends

A workflow may end with one value or another made of it, and nobody else can
tell: what is made of an end (`Workflow.conclude`) changes neither what happens in
a schedule nor when. So a schedule runs the same whatever is made of the ends of
its strands (`Schedule.run_conclude`), and two calls that differ in nothing else do
the same.
-/

namespace CloudOrchestration

variable {σ Q R α β γ : Type}

namespace Workflow

/-- **End with what is made of the end**, be it a value or a fault. -/
def conclude (f : Except Fault α → Except Fault β) (w : Workflow Q R α) : Workflow Q R β :=
  w.attempt.bind fun o => ofExcept (f o)

variable {f : Except Fault α → Except Fault β} {g : Except Fault β → Except Fault γ}

@[simp] theorem conclude_done (a : α) :
    (done a : Workflow Q R α).conclude f = ofExcept (f (.ok a)) := rfl

@[simp] theorem conclude_fail (fault : Fault) :
    (fail fault : Workflow Q R α).conclude f = ofExcept (f (.error fault)) := rfl

@[simp] theorem conclude_perform (e : Effect Q R) (next : e.Answer → Workflow Q R α) :
    (perform e next).conclude f = perform e fun answer => (next answer).conclude f := rfl

theorem conclude_ofExcept (o : Except Fault α) :
    (ofExcept o : Workflow Q R α).conclude f = ofExcept (f o) := by
  cases o <;> rfl

theorem conclude_conclude (w : Workflow Q R α) :
    (w.conclude f).conclude g = w.conclude (g ∘ f) := by
  induction w with
  | done a => exact conclude_ofExcept _
  | fail fault => exact conclude_ofExcept _
  | perform e next ih => simp only [conclude_perform, ih]

/-- What is made of the value alone. -/
theorem bind_ofExcept_eq_conclude (w : Workflow Q R α) (h : α → Except Fault β) :
    (w.bind fun a => ofExcept (h a)) = w.conclude (· >>= h) := by
  induction w with
  | done a => rfl
  | fail fault => rfl
  | perform e next ih => simp only [perform_bind, conclude_perform, ih]

theorem map_eq_conclude (w : Workflow Q R α) (h : α → β) :
    h <$> w = w.conclude (Except.map h) := by
  induction w with
  | done a => rfl
  | fail fault => rfl
  | perform e next ih =>
    rw [conclude_perform]
    exact congrArg (perform e) (funext ih)

/-- Making nothing of the end. -/
theorem conclude_eq_self (w : Workflow Q R α) {f : Except Fault α → Except Fault α}
    (hf : ∀ o, f o = o) : w.conclude f = w := by
  induction w with
  | done a => rw [conclude_done, hf]; rfl
  | fail fault => rw [conclude_fail, hf]; rfl
  | perform e next ih => simp only [conclude_perform, ih]

end Workflow

namespace Strand

/-- The same strand, but for what is made of its end. -/
def conclude (f : Except Fault α → Except Fault β) : Strand Q R α → Strand Q R β
  | running t w => running t (w.conclude f)
  | waiting d expiry next => waiting d expiry fun granted => (next granted).conclude f
  | ended t o => ended t (f o)

/-- What an action leaves, but for what is made of the end. -/
def Turn.conclude (f : Except Fault α → Except Fault β) (turn : Turn σ Q R α) : Turn σ Q R β :=
  { world := turn.world, strand := turn.strand.conclude f, happening := turn.happening }

variable {f : Except Fault α → Except Fault β} {g : Except Fault β → Except Fault γ}
variable {w : World σ} {n : Nat} {server : Server σ Q R}

theorem conclude_conclude (strand : Strand Q R α) :
    (strand.conclude f).conclude g = strand.conclude (g ∘ f) := by
  cases strand with
  | running t w => simp only [conclude, Workflow.conclude_conclude]
  | waiting d expiry next => simp only [conclude, Workflow.conclude_conclude]
  | ended t o => rfl

theorem conclude_eq_self (strand : Strand Q R α) {f : Except Fault α → Except Fault α}
    (hf : ∀ o, f o = o) : strand.conclude f = strand := by
  cases strand with
  | running t w => simp only [conclude, Workflow.conclude_eq_self _ hf]
  | waiting d expiry next => simp only [conclude, Workflow.conclude_eq_self _ hf]
  | ended t o => simp only [conclude, hf]

/-- It acts at the same instant. -/
theorem readyAt?_conclude (strand : Strand Q R α) :
    (strand.conclude f).readyAt? w n = strand.readyAt? w n := by
  cases strand <;> rfl

/-- An end ends the strand, whatever it is. -/
theorem act?_ofExcept (t : Instant) (o : Except Fault α) :
    (running t (.ofExcept o)).act? server w n = some { world := w, strand := ended w.clock o } := by
  cases o <;> rfl

/-- **It does the same.** -/
theorem act?_conclude (strand : Strand Q R α) :
    (strand.conclude f).act? server w n = (strand.act? server w n).map (Turn.conclude f) := by
  cases strand with
  | ended t o => rfl
  | waiting d expiry next => rfl
  | running t rest =>
    cases rest with
    | done a => exact act?_ofExcept t _
    | fail fault => exact act?_ofExcept t _
    | perform e next =>
      cases e with
      | acquire d budget =>
        simp only [conclude, Workflow.conclude_perform, act?]
        split
        · split <;> rfl
        · rfl
      | now | sleepUntil | ask | release | isLocked | track | untrack | tracked | draw => rfl

end Strand

namespace Schedule

open Workflow

/-- The same schedule, but for what is made of the ends of its strands. -/
def conclude (f : Nat → Except Fault α → Except Fault β) (s : Schedule σ Q R α) :
    Schedule σ Q R β :=
  { world := s.world, strands := s.strands.mapIdx fun n => Strand.conclude (f n), log := s.log }

variable {f : Nat → Except Fault α → Except Fault β} {server : Server σ Q R}
variable {s : Schedule σ Q R α} {n : Nat}

theorem getElem?_conclude :
    (s.conclude f).strands[n]? = s.strands[n]?.map (Strand.conclude (f n)) :=
  List.getElem?_mapIdx

/-- The same strand acts next, at the same instant. -/
theorem next?_conclude (w : World σ) (k : Nat) (strands : List (Strand Q R α)) :
    next? w k (strands.mapIdx fun n => Strand.conclude (f n)) = next? w k strands := by
  induction strands generalizing k f with
  | nil => rfl
  | cons strand rest ih =>
    rw [List.mapIdx_cons]
    simp only [next?, Strand.readyAt?_conclude]
    rw [ih (f := fun n => f (n + 1))]

/-- **The schedule takes the same step.** -/
theorem step?_conclude :
    (s.conclude f).step? server = (s.step? server).map (Schedule.conclude f) := by
  unfold step?
  have hnext : next? s.world 0 (s.conclude f).strands = next? s.world 0 s.strands :=
    next?_conclude s.world 0 s.strands
  simp only [Option.bind_eq_bind, Option.pure_def]
  rw [show (s.conclude f).world = s.world from rfl, hnext]
  cases next? s.world 0 s.strands with
  | none => rfl
  | some first =>
    obtain ⟨n, instant⟩ := first
    simp only [Option.bind_some, getElem?_conclude]
    cases s.strands[n]? with
    | none => rfl
    | some strand =>
      simp only [Option.map_some, Option.bind_some, Strand.act?_conclude]
      cases strand.act? server { s.world with clock := instant } n with
      | none => rfl
      | some turn =>
        simp only [Option.map_some, Option.bind_some, conclude, Strand.Turn.conclude,
          List.mapIdx_set]

/-- **The schedule runs the same**, whatever is made of the ends. -/
theorem run_conclude : (s.conclude f).run server = (s.run server).conclude f := by
  fun_induction Schedule.run server s with
  | case1 s hnone =>
    rw [run]
    split
    next => rfl
    next s' hsome =>
      rw [step?_conclude, hnone] at hsome
      cases hsome
  | case2 s s' hsome ih =>
    rw [← ih, run]
    split
    next hnone =>
      rw [step?_conclude, hsome] at hnone
      cases hnone
    next s'' hsome' =>
      rw [step?_conclude, hsome] at hsome'
      cases hsome'
      rfl

/-! ## One strand -/

/-- The same schedule, but for the strand of a number. -/
def withStrand (s : Schedule σ Q R α) (i : Nat) (strand : Strand Q R α) : Schedule σ Q R α :=
  { s with strands := s.strands.set i strand }

theorem withStrand_eq {s' : Schedule σ Q R α} {i : Nat} {strand : Strand Q R α}
    (hworld : s'.world = s.world) (hlog : s'.log = s.log)
    (hi : s'.strands[i]? = s.strands[i]?.map fun _ => strand)
    (hothers : ∀ n, n ≠ i → s'.strands[n]? = s.strands[n]?) : s' = s.withStrand i strand := by
  have hstrands : s'.strands = s.strands.set i strand := by
    refine List.ext_getElem? fun n => ?_
    by_cases hn : n = i
    · subst hn
      rw [hi, List.getElem?_set_self']
      rfl
    · rw [hothers n hn, List.getElem?_set_ne (Ne.symm hn)]
  obtain ⟨world, strands, log⟩ := s'
  cases hworld
  cases hstrands
  cases hlog
  rfl

/-- The end of a strand whose value is of the first kind. -/
def firstEnd : Except Fault (β ⊕ α) → Except Fault β :=
  (· >>= Sum.elim .ok fun _ => .error .json)

/-- The end of a strand whose value is of the second. -/
def secondEnd : Except Fault (β ⊕ α) → Except Fault α :=
  (· >>= Sum.elim (fun _ => .error .json) .ok)

theorem firstEnd_map_inl (o : Except Fault β) : firstEnd (α := α) (o.map .inl) = o := by
  cases o <;> rfl

theorem secondEnd_map_inr (o : Except Fault α) : secondEnd (β := β) (o.map .inr) = o := by
  cases o <;> rfl

/-- What is made of the ends when only the strand of a number has values of the
first kind. -/
def endOf (i : Nat) (f : Except Fault β → Except Fault α) (n : Nat)
    (o : Except Fault (β ⊕ α)) : Except Fault α :=
  if n = i then f (firstEnd o) else secondEnd o

/-- The schedule before anything is made of the end of the strand of a number. -/
def undecided (s : Schedule σ Q R α) (i : Nat) (t : Instant) (w : Workflow Q R β) :
    Schedule σ Q R (β ⊕ α) :=
  (s.conclude fun _ => Except.map .inr).withStrand i (.running t (Sum.inl <$> w))

theorem conclude_undecided {i : Nat} {t : Instant} {w : Workflow Q R β}
    {f : Except Fault β → Except Fault α} :
    (s.undecided i t w).conclude (endOf i f) = s.withStrand i (.running t (w.conclude f)) := by
  have hfirst : (Strand.running t (Sum.inl <$> w) : Strand Q R (β ⊕ α)).conclude (endOf i f i) =
      .running t (w.conclude f) := by
    rw [Workflow.map_eq_conclude, Strand.conclude, Workflow.conclude_conclude]
    congr 2
    funext o
    simp only [Function.comp_apply, endOf, if_pos, firstEnd_map_inl]
  have hsecond : ∀ n, n ≠ i → ∀ strand : Strand Q R α,
      (strand.conclude (Except.map .inr)).conclude (endOf i f n) = strand := by
    intro n hn strand
    rw [Strand.conclude_conclude]
    refine strand.conclude_eq_self fun o => ?_
    simp only [Function.comp_apply, endOf, if_neg hn, secondEnd_map_inr]
  refine withStrand_eq rfl rfl ?_ ?_
  · rw [getElem?_conclude, undecided, withStrand, List.getElem?_set_self', getElem?_conclude]
    cases s.strands[i]? with
    | none => rfl
    | some strand => exact congrArg some hfirst
  · intro n hn
    rw [getElem?_conclude, undecided, withStrand, List.getElem?_set_ne (Ne.symm hn),
      getElem?_conclude, Option.map_map]
    have hself : (Strand.conclude (endOf i f n) ∘ Strand.conclude (Except.map .inr)) =
        (id : Strand Q R α → Strand Q R α) := funext fun strand => hsecond n hn strand
    rw [hself, Option.map_id_fun, id]

variable (server) in
/-- **What is made of the end of a strand is known to nobody else**: of a workflow
that is about to run beside other strands, any two things can be made, and the
schedule runs the same but for what the strand ends with. -/
theorem exists_run_withStrand {w : Workflow Q R β} {f : Except Fault β → Except Fault α} {i : Nat}
    {t : Instant} (hi : s.strands[i]? = some (.running t (w.conclude f)))
    (hlog : ∀ e ∈ s.log, e.strand ≠ i) :
    ∃ finish o, w.RunsFrom (max s.world.clock t) ((s.run server).dealings i) finish o ∧
      (s.run server).strands[i]? = some (.ended finish (f o)) ∧
      ∀ g, (s.withStrand i (.running t (w.conclude g))).run server =
        (s.run server).withStrand i (.ended finish (g o)) := by
  -- all ends are made of one run, in which nothing is made of the end yet
  have hself : s.withStrand i (.running t (w.conclude f)) = s := by
    refine (withStrand_eq rfl rfl ?_ fun _ _ => rfl).symm
    rw [hi]
    rfl
  have hrun : ∀ g, (s.withStrand i (.running t (w.conclude g))).run server =
      ((s.undecided i t w).run server).conclude (endOf i g) := by
    intro g
    rw [← conclude_undecided, run_conclude]
  have hrunSelf : s.run server = ((s.undecided i t w).run server).conclude (endOf i f) := by
    rw [← hrun, hself]
  have hundecided : (s.undecided i t w).strands[i]? = some (.running t (Sum.inl <$> w)) := by
    rw [undecided, withStrand, List.getElem?_set_self', getElem?_conclude, hi]
    rfl
  obtain ⟨finish, _, hended, hruns⟩ := exists_runsFrom_run server hundecided hlog
  obtain ⟨o, hw, rfl⟩ := runsFrom_map hruns
  have hown : ∀ g : Except Fault β → Except Fault α,
      (((s.undecided i t w).run server).conclude (endOf i g)).strands[i]? =
        some (.ended finish (g o)) := by
    intro g
    rw [getElem?_conclude, hended]
    simp only [Option.map_some, Strand.conclude, endOf, if_pos, firstEnd_map_inl]
  refine ⟨finish, o, ?_, ?_, fun g => ?_⟩
  · rw [hrunSelf]
    exact hw
  · rw [hrunSelf]
    exact hown f
  · rw [hrun, hrunSelf]
    refine withStrand_eq rfl rfl ?_ fun n hn => ?_
    · rw [hown, hown]
      rfl
    · -- what is made of another strand does not depend on the function
      rw [getElem?_conclude, getElem?_conclude]
      have hends : endOf i g n = endOf i f n := by
        funext o
        simp only [endOf, if_neg hn]
      rw [hends]

end Schedule

end CloudOrchestration
