import CloudOrchestration.Proofs.Channel.Operations
/-!
# Changes and waits that ended well

What can be told from its exchanges of a change that was carried out and of a wait
that has found its resource: the change was accepted and its operation seen to
succeed; the last answer to the wait shows the resource, and no answer before it
shows anything but what is waited on (`LooksAt.waitsFor`).
-/

namespace CloudOrchestration

open Workflow

namespace Channel

variable {α β : Type} {c : Channel} {path : String} {deadline : Deadline}
variable {h : History Request (Except Fault Response)}

/-- **A change that was carried out**: it was accepted, and after that its
operation was seen to succeed. -/
def CarriesOut (c : Channel) (q : Request) (asked : List Asked) : Prop :=
  ∃ before r id after, asked = before ++ (q, .ok r) :: after ∧ r.isSuccess ∧
    r.requestId = some id ∧ c.Succeeded id after

/-- **A wait for a resource that ended well.** All it asks for is the resource; the
last answer shows what was found, and none before it showed anything but what is
pending. -/
def WaitsFor [Document α] (c : Channel) (path : String) (isPending : Option α → Prop)
    (found : Option α) (asked : List Asked) : Prop :=
  ∃ earlier r, asked = earlier ++ [(.read path, .ok r)] ∧ c.optionalDocument r = .ok found ∧
    ∀ x ∈ earlier, x.1 = .read path ∧ ∀ r' found', x.2 = .ok r' →
      c.optionalDocument r' = .ok found' → isPending found'

theorem WaitsFor.mono [Document α] {isPending isPending' : Option α → Prop} {found : Option α}
    {asked : List Asked} (hw : c.WaitsFor path isPending found asked)
    (himp : ∀ found, isPending found → isPending' found) :
    c.WaitsFor path isPending' found asked := by
  obtain ⟨earlier, r, rfl, hfound, hearlier⟩ := hw
  refine ⟨earlier, r, rfl, hfound, fun x hx => ⟨(hearlier x hx).1, fun r' found' hr' hdoc => ?_⟩⟩
  exact himp _ ((hearlier x hx).2 r' found' hr' hdoc)

/-- **A look at a resource**: it reads it, and ends with a view of what it finds. -/
def LooksAt [Document α] (c : Channel) (path : String) (view : Option α → β) (look : Call β) :
    Prop :=
  ∀ h o, Runs look h o → ∃ answer, Reads path h.asked answer ∧
    o = (c.fetched path answer >>= c.optionalDocument : Except Fault (Option α)).map view

/-- To read a resource and take a view of it is a look. -/
theorem looksAt_view [Document α] (view : Option α → β) :
    c.LooksAt path view ((c.getOptional path deadline).bind fun found => done (view found)) := by
  intro h o hr
  obtain ⟨found, h₁, h₂, rfl, hget, hr⟩ | ⟨fault, rfl, hget⟩ := runs_bind.1 hr
  · obtain ⟨rfl, rfl⟩ := runs_done.1 hr
    obtain ⟨answer, hreads, ho⟩ := runs_getOptional hget
    exact ⟨answer, by simpa using hreads, by rw [← ho]; rfl⟩
  · obtain ⟨answer, hreads, ho⟩ := runs_getOptional hget
    exact ⟨answer, hreads, by rw [← ho]; rfl⟩

variable [Document α] {view : Option α → β} {look : Call β}

/-- What a look ends with was shown in its last exchange, and nothing was shown
before. -/
theorem LooksAt.runs_ok (hlook : c.LooksAt path view look) {b : β} (hr : Runs look h (.ok b)) :
    ∃ r found, Reads path h.asked (.ok r) ∧ c.optionalDocument r = .ok found ∧ view found = b := by
  obtain ⟨answer, hreads, ho⟩ := hlook h _ hr
  cases hfound : (c.fetched path answer >>= c.optionalDocument : Except Fault (Option α)) with
  | error fault => rw [hfound] at ho; cases ho
  | ok found =>
    rw [hfound] at ho
    cases ho
    obtain ⟨r, rfl, hdoc⟩ := fetched_bind_eq_ok hfound
    exact ⟨r, found, hreads, hdoc, rfl⟩

/-- **A wait that looks at a resource waits for it.** -/
theorem LooksAt.waitsFor (hlook : c.LooksAt path view look) {interval : Nat} {what : String}
    {γ : Type} {judge : β → Readiness γ} {b : γ}
    (hr : Runs (awaitState deadline interval what look judge) h (.ok b)) :
    ∃ found, judge (view found) = .ready b ∧ c.WaitsFor path
      (fun found => ∃ state, judge (view found) = .pending state) found h.asked := by
  obtain ⟨looks, last, r, hlooks, hlast, hasked, ho⟩ := runs_awaitState hr
  obtain ⟨a, rfl, hready⟩ := lastLook_eq_ok ho
  obtain ⟨r, found, ⟨failures, hreads⟩, hdoc, rfl⟩ := hlook.runs_ok hlast
  refine ⟨found, hready, looks.flatMap History.asked ++
    failures.map (fun failure => (.read path, .error (.connection failure))), r,
    by rw [hasked, hreads, List.append_assoc], hdoc, fun x hx => ?_⟩
  rcases List.mem_append.1 hx with hx | hx
  · -- an answer to an earlier look is what that look saw
    obtain ⟨l, hl, hx⟩ := List.mem_flatMap.1 hx
    obtain ⟨a, state, hearlier, hpending⟩ := hlooks l hl
    obtain ⟨r₁, found₁, hreads₁, hdoc₁, rfl⟩ := hlook.runs_ok hearlier
    refine ⟨hreads₁.request_eq hx, fun r' found' hr' hdoc' => ⟨state, ?_⟩⟩
    obtain ⟨q, answer⟩ := x
    subst hr'
    cases hreads₁.eq_answer hx
    rw [hdoc₁] at hdoc'
    cases hdoc'
    exact hpending
  · obtain ⟨failure, -, rfl⟩ := List.mem_map.1 hx
    exact ⟨rfl, fun _ _ hr' => nomatch hr'⟩

end Channel

end CloudOrchestration
