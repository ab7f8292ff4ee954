import CloudOrchestration.Client.Networks
import CloudOrchestration.Proofs.Channel.Waits
import CloudOrchestration.Proofs.Client.Paths
/-!
# The steps of the client's calls

The calls of the client are put together from a few steps: a change that is
made unless it is done already, a part under a lock, a read of a resource.
Each has a lemma here that says what its runs are.
-/

namespace CloudOrchestration

namespace Client

open Workflow Channel

variable {α : Type} {c : Client} {deadline : Deadline}
variable {h : History Request (Except Fault Response)}

/-! ## Changes and locks -/

/-- What is done already is not asked for. -/
theorem runs_unlessDone {isDone : Bool} {action : Action} {change : Call Unit}
    {o : Except Fault Action} (hr : Runs (unlessDone isDone action change) h o) :
    (isDone = true ∧ h = [] ∧ o = .ok .unchanged) ∨
      isDone = false ∧ ∃ r, Runs change h r ∧ o = r.map fun _ => action := by
  cases isDone with
  | true =>
    obtain ⟨rfl, rfl⟩ := runs_done.1 hr
    exact .inl ⟨rfl, rfl, rfl⟩
  | false =>
    refine .inr ⟨rfl, ?_⟩
    obtain ⟨u, h₁, h₂, rfl, hchange, hr⟩ | ⟨fault, rfl, hchange⟩ := runs_bind.1 hr
    · obtain ⟨rfl, rfl⟩ := runs_done.1 hr
      exact ⟨.ok u, by simpa using hchange, rfl⟩
    · exact ⟨.error fault, hchange, rfl⟩

/-- A part under a lock is seen as its body between the lock and its release, or as
nothing if the lock was not obtained. -/
theorem seen_of_runs_exclusively {d : Domain} {body : Call α} {o : Except Fault α}
    (hr : Runs (exclusively d deadline body) h o) :
    (∃ h' : History Request (Except Fault Response),
      h.sights = .acquired d :: h'.sights ++ [.released d] ∧ Runs body h' o) ∨
      h.sights = [.refused d] ∧ ∃ fault, o = .error fault := by
  rw [exclusively, bind_eq, runs_now_bind] at hr
  obtain ⟨t, rest, rfl, hr⟩ := hr
  obtain ⟨h', rfl, hbody⟩ | ⟨rfl, rfl⟩ := runs_holding.1 hr
  · exact .inl ⟨h', by simp, hbody⟩
  · exact .inr ⟨by simp, _, rfl⟩

/-- The lock itself asks for nothing. -/
theorem runs_exclusively {d : Domain} {body : Call α} {o : Except Fault α}
    (hr : Runs (exclusively d deadline body) h o) :
    (∃ h', h.asked = h'.asked ∧ Runs body h' o) ∨ h.asked = [] ∧ ∃ fault, o = .error fault := by
  rw [History.asked_eq_sights]
  obtain ⟨h', hsights, hbody⟩ | ⟨hsights, hfault⟩ := seen_of_runs_exclusively hr
  · refine .inl ⟨h', ?_, hbody⟩
    simp [hsights, History.asked_eq_sights, List.filterMap_cons, Sight.asked?]
  · exact .inr ⟨by rw [hsights]; rfl, hfault⟩

/-! ## Reads -/

/-- What a read of the topology makes of its last answer. -/
def shownTopology (c : Client) (answer : Except Fault Response) : Except Fault Topology :=
  (c.channel.fetched Path.topology answer >>= c.channel.optionalDocument).map (·.getD {})

theorem shownTopology_eq_ok {answer : Except Fault Response} {t : Topology}
    (h : c.shownTopology answer = .ok t) :
    ∃ r found, answer = .ok r ∧ c.channel.optionalDocument r = .ok found ∧ found.getD {} = t := by
  unfold shownTopology at h
  cases hfound : (c.channel.fetched Path.topology answer >>= c.channel.optionalDocument :
      Except Fault (Option Topology)) with
  | error fault =>
    rw [hfound] at h
    cases h
  | ok found =>
    rw [hfound] at h
    cases h
    obtain ⟨r, hr, hdocument⟩ := fetched_bind_eq_ok hfound
    exact ⟨r, found, hr, hdocument, rfl⟩

theorem runs_topology {o : Except Fault Topology} (hr : Runs (c.topology deadline) h o) :
    ∃ answer, Reads Path.topology h.asked answer ∧ o = c.shownTopology answer :=
  looksAt_view (fun found : Option Topology => found.getD {}) h o hr

section OnlyAsks

variable {p : Request → Prop}

theorem onlyAsks_topology (hp : p (.read Path.topology)) : OnlyAsks p (c.topology deadline) :=
  onlyAsks_bind (onlyAsks_getOptional hp) fun _ => onlyAsks_done _

theorem onlyAsks_gateway? {network : String} (hp : p (.read (Path.gateway network))) :
    OnlyAsks p (c.gateway? network deadline) :=
  onlyAsks_getOptional hp

theorem onlyAsks_awaitGateway {network : String} (hp : p (.read (Path.gateway network))) :
    OnlyAsks p (c.awaitGateway network deadline) :=
  onlyAsks_awaitState (onlyAsks_gateway? hp)

theorem onlyAsks_awaitNoGateway {network : String} (hp : p (.read (Path.gateway network))) :
    OnlyAsks p (c.awaitNoGateway network deadline) :=
  onlyAsks_awaitState (onlyAsks_gateway? hp)

theorem onlyAsks_unlessDone {isDone : Bool} {action : Action} {change : Call Unit}
    (hchange : OnlyAsks p change) : OnlyAsks p (unlessDone isDone action change) := by
  cases isDone with
  | true => exact onlyAsks_done _
  | false => exact onlyAsks_bind hchange fun _ => onlyAsks_done _

end OnlyAsks

end Client

end CloudOrchestration
