import CloudOrchestration.Proofs.Channel.Operations
import CloudOrchestration.Proofs.Workflow.Monitor
/-!
# Channels under a monitor

A monitor that takes no notice of the tries before the last one sees of a read
or of a change its last answer alone. So to say what it makes of the whole, it
is enough to say what it makes of one answer (`obeys_get`, `obeys_submit`).
-/

namespace CloudOrchestration

namespace Channel

open Workflow

variable {S α : Type} {m : Monitor S Request (Except Fault Response)} {s : S}
variable {c : Channel} {path : String} {deadline : Deadline} {q : Request}

/-- The exchanges of a channel, as others see them. -/
def sights (asked : List Asked) : List (Sight Request (Except Fault Response)) :=
  asked.map fun x => .asked x.1 x.2

@[simp] theorem sights_append {asked asked' : List Asked} :
    sights (asked ++ asked') = sights asked ++ sights asked' := List.map_append

/-- The exchanges can be told from what is seen of them. -/
@[simp] theorem filterMap_asked?_sights {asked : List Asked} :
    (sights asked).filterMap Sight.asked? = asked := by
  induction asked with
  | nil => rfl
  | cons x asked ih => exact congrArg (x :: ·) ih

/-! ## Last answers -/

/-- What changes nothing, repeated, changes nothing. -/
theorem after_sights_of_same {asked : List Asked}
    (hsame : ∀ x ∈ asked, m s (.asked x.1 x.2) = some s) : m.after s (sights asked) = some s :=
  Monitor.after_of_same (List.forall_mem_map.2 hsame)

/-- **Of a read the monitor sees the last answer.** -/
theorem after_reads {asked : List Asked} {answer : Except Fault Response}
    (hr : Reads path asked answer)
    (hfailure : ∀ failure, m s (.asked (.read path) (.error (.connection failure))) = some s) :
    m.after s (sights asked) = m s (.asked (.read path) answer) := by
  obtain ⟨failures, rfl⟩ := hr
  rw [sights_append, Monitor.after_append, after_sights_of_same]
  · simp [sights]
  · intro x hx
    obtain ⟨failure, -, rfl⟩ := List.mem_map.1 hx
    exact hfailure failure

/-- **Of a change the monitor sees the last answer.** -/
theorem after_submits {asked : List Asked} {answer : Except Fault Response}
    (hs : c.Submits q asked answer)
    (hconflict : ∀ r rejection, c.wire.judge r = .conflict rejection →
      m s (.asked q (.ok r)) = some s) :
    m.after s (sights asked) = m s (.asked q answer) := by
  obtain ⟨conflicts, hall, rfl⟩ := hs
  rw [sights_append, Monitor.after_append, after_sights_of_same]
  · simp [sights]
  · intro x hx
    obtain ⟨r, hr, rfl⟩ := List.mem_map.1 hx
    obtain ⟨rejection, hj⟩ := hall r hr
    exact hconflict r rejection hj

/-! ## Rules -/

/-- A read obeys if each last answer leads to where its value is wanted. -/
theorem obeys_get [Document α] {P : Except Fault α → S → Prop}
    (hfailure : ∀ failure, m s (.asked (.read path) (.error (.connection failure))) = some s)
    (hlast : ∀ answer, ∃ s', m s (.asked (.read path) answer) = some s' ∧
      P (c.fetched path answer >>= c.document) s') :
    Obeys m s (c.get path deadline) P := by
  intro h o hr
  obtain ⟨answer, hreads, rfl⟩ := runs_get hr
  -- the sights are the exchanges, of which the last counts
  have hasks : OnlyAsks (· = .read path) (c.get path deadline : Call α) := onlyAsks_get rfl
  obtain ⟨s', hs, hp⟩ := hlast answer
  exact ⟨s', by rw [hasks.sights_eq hr, ← hs]; exact after_reads hreads hfailure, hp⟩

theorem obeys_getOptional [Document α] {P : Except Fault (Option α) → S → Prop}
    (hfailure : ∀ failure, m s (.asked (.read path) (.error (.connection failure))) = some s)
    (hlast : ∀ answer, ∃ s', m s (.asked (.read path) answer) = some s' ∧
      P (c.fetched path answer >>= c.optionalDocument) s') :
    Obeys m s (c.getOptional path deadline) P := by
  intro h o hr
  obtain ⟨answer, hreads, rfl⟩ := runs_getOptional hr
  have hasks : OnlyAsks (· = .read path) (c.getOptional path deadline : Call (Option α)) :=
    onlyAsks_getOptional rfl
  obtain ⟨s', hs, hp⟩ := hlast answer
  exact ⟨s', by rw [hasks.sights_eq hr, ← hs]; exact after_reads hreads hfailure, hp⟩

/-- A change obeys if conflicts are passed over and each last answer leads to
where the change is wanted. -/
theorem obeys_submit {P : Except Fault String → S → Prop}
    (hconflict : ∀ r rejection, c.wire.judge r = .conflict rejection →
      m s (.asked q (.ok r)) = some s)
    (hlast : ∀ answer, ∃ s', m s (.asked q answer) = some s' ∧ P (c.submitted q answer) s') :
    Obeys m s (c.submit q deadline) P := by
  intro h o hr
  obtain ⟨answer, hsubmits, rfl⟩ := runs_submit hr
  have hasks : OnlyAsks (· = q) (c.submit q deadline) := onlyAsks_submit rfl
  obtain ⟨s', hs, hp⟩ := hlast answer
  exact ⟨s', by rw [hasks.sights_eq hr, ← hs]; exact after_submits hsubmits hconflict, hp⟩

/-- A change that is waited for obeys if the change does, and the wait for
its operation leaves the monitor as it is. -/
theorem obeys_submit_await {P : S → Prop}
    (hconflict : ∀ r rejection, c.wire.judge r = .conflict rejection →
      m s (.asked q (.ok r)) = some s)
    (hlast : ∀ answer, ∃ s', m s (.asked q answer) = some s' ∧ P s')
    (hawait : ∀ id s' r, P s' → m s' (.asked (.read (operationPath id)) r) = some s') :
    Obeys m s ((c.submit q deadline).bind (c.awaitOperation · deadline)) fun _ => P := by
  refine obeys_bind (obeys_submit (P := fun _ => P) hconflict hlast) (fun id s' hp => ?_)
    fun _ _ hp => hp
  have hasks : OnlyAsks (· = .read (operationPath id)) (c.awaitOperation id deadline) :=
    onlyAsks_awaitOperation rfl
  refine (obeys_of_onlyAsks hasks fun q r hq => ?_).mono fun _ _ hs => hs ▸ hp
  rw [hq]
  exact hawait id s' r hp

end Channel

end CloudOrchestration
