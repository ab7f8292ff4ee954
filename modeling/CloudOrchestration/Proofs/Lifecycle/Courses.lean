import CloudOrchestration.Proofs.Network.Unchanged
import CloudOrchestration.Proofs.Provisioning.Creation
/-!
# The course of a call that changes one thing

A call that brings about a state looks first whether it holds. Either it finds
nothing to do, or it asks for the one change that is missing, and what follows
is reading alone: `Course`. What the call answers then tells what was accepted
of it (`Course.effect`). The rules follow the constructs that such calls are put
together from.
-/

namespace CloudOrchestration

open Workflow Channel

variable {α β : Type} {c : Client} {deadline : Deadline}
variable {h : History Request (Except Fault Response)} {asked looked : List Asked}

/-- A request that changes nothing. -/
def Request.IsRead (q : Request) : Prop := q.isMutating = false

theorem isRead_read (path : String) : (Request.read path).IsRead := rfl

theorem not_mutates_of_asks {w : Call α} {o : Except Fault α} (hw : Asks Request.IsRead w)
    (hr : Runs w h o) : ¬ Mutates h.asked := by
  rintro ⟨x, hx, hmutating⟩
  rw [hw h o hr x hx] at hmutating
  cases hmutating

/-- The changes that were accepted. -/
def acceptedChanges (asked : List Asked) : List Asked := acceptedOf (·.isMutating) asked

theorem acceptedChanges_append {asked' : List Asked} :
    acceptedChanges (asked ++ asked') = acceptedChanges asked ++ acceptedChanges asked' :=
  acceptedOf_append

theorem acceptedChanges_of_not_mutates (hreads : ¬ Mutates asked) : acceptedChanges asked = [] :=
  acceptedOf_of_forall_not fun x hx hmutating => hreads ⟨x, hx, hmutating⟩

/-- **What a call is to bring about**, and where it looks first. -/
structure Intent where
  /-- What it answers when it has done so. -/
  action : Action
  /-- The request for the change. -/
  change : Request
  /-- Where the call looks whether its resource is there. -/
  path : String
  /-- What an answer says about that. -/
  isThere : Response → Except Fault Bool
  /-- Where no deployment may be. -/
  slots : List String := []

namespace Intent

variable {i : Intent}

/-- **The change is called for by what was seen**: the resource was absent if it
is to be made, and there if not, and the slots were empty. -/
structure Justified (i : Intent) (c : Client) (asked : List Asked) : Prop where
  seen : ∃ r, (.read i.path, .ok r) ∈ asked ∧ i.isThere r = .ok (i.action != .create)
  vacant : ∀ slot ∈ i.slots, ∃ r, (.read slot, .ok r) ∈ asked ∧
    (c.channel.optionalDocument r : Except Fault (Option Deployment)) = .ok none

theorem Justified.append {asked' : List Asked} (hj : i.Justified c asked) :
    i.Justified c (asked ++ asked') := by
  obtain ⟨r, hx, hthere⟩ := hj.seen
  refine ⟨⟨r, List.mem_append_left _ hx, hthere⟩, fun slot hslot => ?_⟩
  obtain ⟨r, hx, hnone⟩ := hj.vacant slot hslot
  exact ⟨r, List.mem_append_left _ hx, hnone⟩

/-- **The change was made**: one request was accepted, the one for the change.
What was seen before it called for it, and its operation was seen to succeed
after it. -/
def Effected (i : Intent) (c : Client) (asked : List Asked) : Prop :=
  ∃ before r id after, asked = before ++ (i.change, .ok r) :: after ∧
    acceptedChanges asked = [(i.change, .ok r)] ∧ r.isSuccess ∧ r.requestId = some id ∧
    i.Justified c before ∧ c.channel.Succeeded id after

/-! ## Courses -/

/-- **What a call asks for, and its end.** -/
inductive Course (i : Intent) (c : Client) : List Asked → Except Fault Action → Prop where
  /-- It looks, and finds nothing to do or fails. -/
  | looked {asked : List Asked} {o : Except Fault Action} (hreads : ¬ Mutates asked)
      (ho : ∀ action, o = .ok action → action = .unchanged) : Course i c asked o
  /-- It asks for the change. -/
  | changed {looked performed after : List Asked} {r : Except Fault Unit}
      {o : Except Fault Action} (hlooked : ¬ Mutates looked) (hj : i.Justified c looked)
      (hp : c.channel.Performs i.change performed r) (hafter : ¬ Mutates after)
      (ho : ∀ action, o = .ok action → action = i.action ∧ r = .ok ()) :
      Course i c (looked ++ performed ++ after) o

namespace Course

variable {o : Except Fault Action}

theorem length_acceptedChanges_le (hc : i.Course c asked o) :
    (acceptedChanges asked).length ≤ 1 := by
  cases hc with
  | looked hreads => simp [acceptedChanges_of_not_mutates hreads]
  | changed hlooked _ hp hafter =>
    rw [acceptedChanges_append, acceptedChanges_append, acceptedChanges_of_not_mutates hlooked,
      acceptedChanges_of_not_mutates hafter, List.nil_append, List.append_nil]
    exact hp.length_acceptedOf_le fun _ => nofun

/-- A call that answers a change has made it. -/
theorem effected (hc : i.Course c asked o) (hi : i.change.isMutating) {action : Action}
    (ho : o = .ok action) (hchange : action ≠ .unchanged) :
    action = i.action ∧ i.Effected c asked := by
  have hone := hc.length_acceptedChanges_le
  cases hc with
  | looked _ hend => exact absurd (hend action ho) hchange
  | @changed looked performed after r _ hlooked hj hp hafter hend =>
    obtain ⟨haction, rfl⟩ := hend action ho
    obtain ⟨tried, r, id, awaited, rfl, hsuccess, hid, hsucceeded⟩ := hp.exists_accepted
    have hsplit : looked ++ (tried ++ (i.change, .ok r) :: awaited) ++ after =
        (looked ++ tried) ++ (i.change, .ok r) :: (awaited ++ after) := by
      simp only [List.append_assoc, List.cons_append]
    rw [hsplit] at hone ⊢
    have hmem : (i.change, .ok r) ∈
        acceptedChanges ((looked ++ tried) ++ (i.change, .ok r) :: (awaited ++ after)) :=
      mem_acceptedOf.2 ⟨by simp, hi, hsuccess⟩
    exact ⟨haction, _, r, id, _, rfl, acceptedOf_eq_singleton hone hmem, hsuccess, hid, hj.append,
      hsucceeded.append_left⟩

/-- A call that answers that nothing was to do has only read. -/
theorem not_mutates (hc : i.Course c asked o) (hi : i.action ≠ .unchanged)
    (ho : o = .ok .unchanged) : ¬ Mutates asked := by
  cases hc with
  | looked hreads => exact hreads
  | changed _ _ _ _ hend => exact absurd (hend _ ho).1.symm hi

end Course

/-! ## Rules -/

/-- Every run of the call, after what was looked at before, takes the
course. -/
def Follows (i : Intent) (c : Client) (looked : List Asked) (w : Call Action) : Prop :=
  ∀ h o, Runs w h o → i.Course c (looked ++ h.asked) o

theorem follows_unchanged (hlooked : ¬ Mutates looked) :
    i.Follows c looked (done .unchanged) := by
  intro h o hr
  obtain ⟨rfl, rfl⟩ := runs_done.1 hr
  refine .looked (by simpa using hlooked) fun action haction => ?_
  cases haction
  rfl

theorem follows_fail (hlooked : ¬ Mutates looked) (fault : Fault) :
    i.Follows c looked (fail fault) := by
  intro h o hr
  obtain ⟨rfl, rfl⟩ := runs_fail.1 hr
  exact .looked (by simpa using hlooked) fun action haction => nomatch haction

/-- A look, and what is done about what it showed. -/
theorem follows_look {look : Call α} {f : α → Call Action} (hlooked : ¬ Mutates looked)
    (hlook : Asks Request.IsRead look)
    (hf : ∀ h a, Runs look h (.ok a) → ¬ Mutates (looked ++ h.asked) →
      i.Follows c (looked ++ h.asked) (f a)) :
    i.Follows c looked (look.bind f) := by
  intro h o hr
  obtain ⟨a, h₁, h₂, rfl, hr₁, hr₂⟩ | ⟨fault, rfl, hr₁⟩ := runs_bind.1 hr
  · have hreads : ¬ Mutates (looked ++ h₁.asked) := by
      rw [mutates_append]
      exact not_or.2 ⟨hlooked, not_mutates_of_asks hlook hr₁⟩
    rw [History.asked_append, ← List.append_assoc]
    exact hf h₁ a hr₁ hreads h₂ o hr₂
  · refine .looked ?_ fun action haction => nomatch haction
    rw [mutates_append]
    exact not_or.2 ⟨hlooked, not_mutates_of_asks hlook hr₁⟩

/-- The change, and reads after it. -/
theorem follows_change {change : Call Unit} {after : Call Action} (hlooked : ¬ Mutates looked)
    (hj : i.Justified c looked)
    (hchange : ∀ h r, Runs change h r → c.channel.Performs i.change h.asked r)
    (hafter : Asks Request.IsRead after)
    (hsame : ∀ h action, Runs after h (.ok action) → action = i.action) :
    i.Follows c looked (change.bind fun _ => after) := by
  intro h o hr
  obtain ⟨u, h₁, h₂, rfl, hr₁, hr₂⟩ | ⟨fault, rfl, hr₁⟩ := runs_bind.1 hr
  · rw [History.asked_append, ← List.append_assoc]
    refine .changed hlooked hj (hchange h₁ _ hr₁) (not_mutates_of_asks hafter hr₂) ?_
    rintro action rfl
    exact ⟨hsame h₂ action hr₂, rfl⟩
  · have hcourse := Course.changed (o := .error fault) hlooked hj (hchange h _ hr₁)
      not_mutates_nil fun action haction => nomatch haction
    simpa using hcourse

/-- The change, unless it is done already. -/
theorem follows_unlessDone {isDone : Bool} {change : Call Unit} (hlooked : ¬ Mutates looked)
    (hchange : ∀ h r, Runs change h r → c.channel.Performs i.change h.asked r)
    (hj : isDone = false → i.Justified c looked) :
    i.Follows c looked (Client.unlessDone isDone i.action change) := by
  cases isDone with
  | true => exact follows_unchanged hlooked
  | false =>
    refine follows_change hlooked (hj rfl) hchange (onlyAsks_done _).asks fun h action hr => ?_
    exact Except.ok.inj (runs_done.1 hr).2

/-- **A look, and the change if it calls for one.** -/
theorem follows_look_unlessDone {look : Call α} {isDone isThere : α → Bool} {change : Call Unit}
    (hslots : i.slots = []) (hlook : Asks Request.IsRead look)
    (hshown : ∀ h a, Runs look h (.ok a) →
      ∃ r, (.read i.path, .ok r) ∈ h.asked ∧ i.isThere r = .ok (isThere a))
    (hdone : ∀ a, isDone a = false → isThere a = (i.action != .create))
    (hchange : ∀ h r, Runs change h r → c.channel.Performs i.change h.asked r) :
    i.Follows c [] (look.bind fun a => Client.unlessDone (isDone a) i.action change) := by
  refine follows_look not_mutates_nil hlook fun h a hr hreads => ?_
  refine follows_unlessDone hreads hchange fun hundone => ⟨?_, fun slot hslot => ?_⟩
  · obtain ⟨r, hx, hthere⟩ := hshown h a hr
    exact ⟨r, hx, by rw [hthere, hdone a hundone]⟩
  · rw [hslots] at hslot
    cases hslot

/-- What follows only reads, and leaves the answer as it is. -/
theorem Follows.andThen {w : Call Action} {f : Action → Call Action} (hw : i.Follows c looked w)
    (hf : ∀ action, Asks Request.IsRead (f action))
    (hsame : ∀ action h action', Runs (f action) h (.ok action') → action' = action) :
    i.Follows c looked (w.bind f) := by
  intro h o hr
  obtain ⟨action, h₁, h₂, rfl, hr₁, hr₂⟩ | ⟨fault, rfl, hr₁⟩ := runs_bind.1 hr
  · have hreads := not_mutates_of_asks (hf action) hr₂
    have hend : ∀ action', o = .ok action' → action' = action := by
      rintro action' rfl
      exact hsame action h₂ action' hr₂
    have hcourse := hw h₁ _ hr₁
    rw [History.asked_append, ← List.append_assoc]
    generalize looked ++ h₁.asked = asked at hcourse ⊢
    cases hcourse with
    | looked hlooked ho =>
      refine .looked ?_ fun action' haction => ?_
      · rw [mutates_append]
        exact not_or.2 ⟨hlooked, hreads⟩
      · rw [hend action' haction]
        exact ho action rfl
    | changed hlooked hj hp hafter ho =>
      rw [List.append_assoc _ _ h₂.asked]
      refine .changed hlooked hj hp ?_ fun action' haction => ?_
      · rw [mutates_append]
        exact not_or.2 ⟨hafter, hreads⟩
      · rw [hend action' haction]
        exact ho action rfl
  · have hcourse := hw h _ hr₁
    generalize looked ++ h.asked = asked at hcourse ⊢
    cases hcourse with
    | looked hlooked _ => exact .looked hlooked fun action haction => nomatch haction
    | changed hlooked hj hp hafter _ =>
      exact .changed hlooked hj hp hafter fun action haction => nomatch haction

/-- The whole may be under a lock. -/
theorem follows_exclusively {domain : Domain} {body : Call Action} (hbody : i.Follows c [] body) :
    i.Follows c [] (Client.exclusively domain deadline body) := by
  intro h o hr
  obtain ⟨h', hasked, hr'⟩ | ⟨hasked, fault, rfl⟩ := Client.runs_exclusively hr
  · rw [hasked]
    exact hbody h' o hr'
  · rw [hasked]
    exact .looked not_mutates_nil fun action haction => nomatch haction

end Intent

end CloudOrchestration
