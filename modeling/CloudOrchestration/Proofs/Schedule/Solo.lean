import CloudOrchestration.Proofs.Workflow.Run
import CloudOrchestration.Schedule.Run
/-!
# A strand by itself

With nobody else around a history tells what becomes of the world: the server
answers the requests from its state, sleeps and answers move the clock, and a
lock that is free is obtained (`History.Plays`). If the history is one of a
workflow up to its end, then that is what the schedule of this one workflow
comes to (`run_start_of_plays`).
-/

namespace CloudOrchestration

open Workflow

variable {σ Q R α : Type} {server : Server σ Q R}

/-- The world after a request. -/
def World.asking (server : Server σ Q R) (w : World σ) (q : Q) : World σ :=
  { w with
    server := (server w.server q).server
    clock := w.clock + (server w.server q).delay }

namespace Effect

/-- **An effect with nobody else around**: its answer, and the world after
it. -/
inductive Served (server : Server σ Q R) (w : World σ) :
    (e : Effect Q R) → e.Answer → World σ → Prop where
  | now : Served server w .now w.clock w
  | sleptUntil (instant : Instant) :
      Served server w (.sleepUntil instant) () { w with clock := max w.clock instant }
  | asked (q : Q) :
      Served server w (.ask q) (server w.server q).answer (w.asking server q)
  | acquired {d : Domain} {budget : Nat} (hfree : (w.locks d).isTaken = false) :
      Served server w (.acquire d budget) true (w.setLock d (.held []))
  | released (d : Domain) :
      Served server w (.release d) () (w.setLock d (w.locks d).release)
  | looked (d : Domain) : Served server w (.isLocked d) (w.locks d).isTaken w
  | track (account : String) :
      Served server w (.track account) () { w with accounts := insertName account w.accounts }
  | untrack (account : String) :
      Served server w (.untrack account) ()
        { w with accounts := w.accounts.filter (· != account) }
  | tracked : Served server w .tracked w.accounts w
  | drew : Served server w .draw w.nextDraw { w with draws := w.draws.tail }

end Effect

namespace History

/-- **A history with nobody else around**, from a world to a world. -/
inductive Plays (server : Server σ Q R) : World σ → History Q R → World σ → Prop where
  | nil (w : World σ) : Plays server w [] w
  | cons {w w' w'' : World σ} {e : Effect Q R} {answer : e.Answer} {h : History Q R}
      (hserved : e.Served server w answer w') (hrest : Plays server w' h w'') :
      Plays server w (⟨e, answer⟩ :: h) w''

theorem Plays.append {w w' w'' : World σ} {h h' : History Q R} (hfirst : Plays server w h w')
    (hrest : Plays server w' h' w'') : Plays server w (h ++ h') w'' := by
  induction hfirst with
  | nil => exact hrest
  | cons hserved _ ih => exact .cons hserved (ih hrest)

theorem Plays.single {w w' : World σ} {e : Effect Q R} {answer : e.Answer}
    (hserved : e.Served server w answer w') : Plays server w [⟨e, answer⟩] w' :=
  .cons hserved (.nil w')

end History

/-- The world when a strand acts that is to act at an instant, unless the clock
is past it. -/
def World.at (w : World σ) (t : Instant) : World σ := { w with clock := max w.clock t }

theorem World.at_clock (w : World σ) : w.at w.clock = w := by
  simp [World.at]

/-- The request that happened. -/
def Happening.request? : Happening Q R → Option Q
  | asked q _ _ => some q
  | slept _ | queued _ _ | acquired _ | refused _ | released _ => none

/-- **The strand acts as it is served**, and goes on as it is answered. -/
theorem Strand.exists_act?_of_served {w w' : World σ} {n : Nat} {t : Instant} {e : Effect Q R}
    {answer : e.Answer} (next : e.Answer → Workflow Q R α)
    (hserved : e.Served server w answer w') :
    ∃ v t' happening, (running t (.perform e next)).act? server w n =
        some ⟨v, running t' (next answer), happening⟩ ∧ v.at t' = w' ∧
      (happening.bind Happening.request?).toList = (History.asked [⟨e, answer⟩]).map (·.1) := by
  cases hserved with
  | asked q => exact ⟨_, _, _, rfl, by simp [World.at, World.asking], rfl⟩
  | @acquired d budget hfree =>
    refine ⟨w.setLock d (.held []), w.clock, some (.acquired d), ?_, ?_, rfl⟩
    · simp only [act?, hfree]
      rfl
    · simp [World.at, World.setLock]
  | sleptUntil instant => exact ⟨_, _, _, rfl, rfl, rfl⟩
  | now | looked | tracked => exact ⟨_, _, _, rfl, w.at_clock, rfl⟩
  | released | track | untrack | drew =>
    exact ⟨_, _, _, rfl, by simp [World.at, World.setLock], rfl⟩

namespace Schedule

/-- What the first strand has asked for. -/
def asked (s : Schedule σ Q R α) : List Q := (s.requests 0).map (·.2)

/-- One strand, which is to act at an instant. -/
def single (w : World σ) (t : Instant) (rest : Workflow Q R α) (log : List (Event Q R)) :
    Schedule σ Q R α :=
  { world := w, strands := [.running t rest], log }

variable {w w' : World σ} {t : Instant} {wf : Workflow Q R α} {log : List (Event Q R)}

/-- **The step of a strand by itself** is its action. -/
theorem step?_single {turn : Strand.Turn σ Q R α}
    (hact : (Strand.running t wf).act? server (w.at t) 0 = some turn) :
    (single w t wf log).step? server = some {
      world := turn.world
      strands := [turn.strand]
      log := log ++ (turn.happening.map (⟨max w.clock t, 0, ·⟩)).toList } := by
  have hnext : next? w 0 [Strand.running t wf] = some (0, max w.clock t) := rfl
  rw [World.at] at hact
  simp [single, step?, hnext, hact]

theorem asked_single_append {happening : Option (Happening Q R)} {instant : Instant} :
    (single w t wf (log ++ (happening.map (⟨instant, 0, ·⟩)).toList)).asked =
      (single w t wf log).asked ++ (happening.bind Happening.request?).toList := by
  cases happening with
  | none => simp
  | some x => cases x <;> simp [asked, requests, single, Happening.request?]

theorem run_of_step? {s s' : Schedule σ Q R α} (h : s.step? server = some s') :
    s.run server = s'.run server := by
  rw [run]
  split
  next hnone => rw [hnone] at h; cases h
  next s'' hsome => rw [hsome] at h; cases h; rfl

/-- A workflow that has come to its end. -/
theorem run_single_of_end {o : Except Fault α}
    (hact : (Strand.running t wf).act? server (w.at t) 0 =
      some { world := w.at t, strand := .ended (w.at t).clock o }) :
    (single w t wf log).run server =
      { world := w.at t, strands := [.ended (w.at t).clock o], log } := by
  rw [run_of_step? (step?_single hact), run]
  simp [step?, next?, Strand.readyAt?]

/-- **A workflow by itself comes to the end of its history**, in the world to
which that leads, and has asked for what is in it. -/
theorem run_of_plays {h : History Q R} {o : Except Fault α} (log : List (Event Q R))
    (hr : Runs wf h o) (hplays : h.Plays server (w.at t) w') :
    ∃ log', (single w t wf log).run server =
        { world := w', strands := [.ended w'.clock o], log := log' } ∧
      ((single w t wf log).run server).asked = (single w t wf log).asked ++ h.asked.map (·.1) := by
  induction hr generalizing w t log with
  | done a =>
    cases hplays
    rw [run_single_of_end rfl]
    exact ⟨log, rfl, (List.append_nil _).symm⟩
  | fail fault =>
    cases hplays
    rw [run_single_of_end rfl]
    exact ⟨log, rfl, (List.append_nil _).symm⟩
  | @perform e next h o answer rest ih =>
    obtain _ | ⟨hserved, hrest⟩ := hplays
    obtain ⟨v, t', happening, hact, rfl, hasked⟩ := Strand.exists_act?_of_served next hserved
    obtain ⟨log', hrun, hall⟩ :=
      ih (log ++ (happening.map (⟨max w.clock t, 0, ·⟩)).toList) hrest
    have hstep : (single w t (.perform e next) log).run server = (single v t' (next answer)
        (log ++ (happening.map (⟨max w.clock t, 0, ·⟩)).toList)).run server :=
      run_of_step? (step?_single hact)
    have hfirst : History.asked (⟨e, answer⟩ :: h) = History.asked [⟨e, answer⟩] ++ h.asked :=
      History.asked_append [⟨e, answer⟩] h
    refine ⟨log', by rw [hstep, hrun], ?_⟩
    rw [hstep, hall, asked_single_append, hasked, hfirst, List.map_append, List.append_assoc]
    rfl

/-- **The schedule of one workflow** ends as its history does. -/
theorem run_start_of_plays {h : History Q R} {o : Except Fault α} (hr : Runs wf h o)
    (hplays : h.Plays server w w') :
    ((start w [wf]).run server).world = w' ∧
      ((start w [wf]).run server).outcomes = [(w'.clock, o)] ∧
      (((start w [wf]).run server).requests 0).map (·.2) = h.asked.map (·.1) := by
  have hstart : start w [wf] = single w w.clock wf [] := rfl
  have hat : h.Plays server (w.at w.clock) w' := by rwa [w.at_clock]
  obtain ⟨log, hrun, hasked⟩ := run_of_plays [] hr hat
  rw [asked, asked] at hasked
  rw [hstart, hasked, hrun]
  exact ⟨rfl, rfl, rfl⟩

end Schedule

end CloudOrchestration
