import CloudOrchestration.Proofs.Workflow.Sight
/-!
# Monitors

A monitor reads what is seen of a run, one sight after another, and keeps a
state; a sight that the state does not allow stops it. A workflow obeys a
monitor if none of its runs ever stops it. The rules below follow the
constructs of workflows, so that a discipline, such as giving back every lock
that was obtained, is shown for a call by its text. What is obeyed to the end
is obeyed all the way (`Obeys.leads`), which is what an interleaving needs.
-/

namespace CloudOrchestration

/-- The state that a sight leads to, if it is allowed. -/
abbrev Monitor (S Q R : Type) := S → Sight Q R → Option S

namespace Monitor

variable {S Q R : Type} {m : Monitor S Q R} {s : S}

/-- The state after a row of sights, if all of them are allowed. -/
def after (m : Monitor S Q R) (s : S) (sights : List (Sight Q R)) : Option S := sights.foldlM m s

@[simp] theorem after_nil : m.after s [] = some s := rfl

@[simp] theorem after_cons {x : Sight Q R} {l : List (Sight Q R)} :
    m.after s (x :: l) = (m s x).bind (m.after · l) := by
  simp only [after, List.foldlM_cons]
  rfl

theorem after_append {l₁ l₂ : List (Sight Q R)} :
    m.after s (l₁ ++ l₂) = (m.after s l₁).bind (m.after · l₂) := by
  simp only [after, List.foldlM_append]
  rfl

/-- The last of a row of sights leads from where those before it led. -/
theorem after_append_one {l : List (Sight Q R)} {x : Sight Q R} {s' : S} :
    m.after s (l ++ [x]) = some s' ↔ ∃ s₁, m.after s l = some s₁ ∧ m s₁ x = some s' := by
  have hlast : m.after s (l ++ [x]) = (m.after s l).bind (m · x) := by
    rw [after_append]
    congr 1
    funext s₁
    rw [after_cons]
    exact Option.bind_fun_some (m s₁ x)
  rw [hlast, Option.bind_eq_some_iff]

/-- Sights that leave the state as it is, one after the other, leave it so. -/
theorem after_of_same {l : List (Sight Q R)} (h : ∀ x ∈ l, m s x = some s) :
    m.after s l = some s := by
  induction l with
  | nil => rfl
  | cons x l ih =>
    have hx : m s x = some s := h x (by simp)
    rw [after_cons, hx]
    exact ih fun x hx => h x (by simp [hx])

/-- What is allowed up to an end is allowed up to any earlier point. -/
theorem after_prefix {l₁ l₂ : List (Sight Q R)} {s' : S}
    (h : m.after s (l₁ ++ l₂) = some s') : ∃ s₁, m.after s l₁ = some s₁ := by
  rw [after_append, Option.bind_eq_some_iff] at h
  obtain ⟨s₁, h, -⟩ := h
  exact ⟨s₁, h⟩

end Monitor

namespace Workflow

variable {S Q R α β : Type} {m : Monitor S Q R} {s : S}
variable {P : Except Fault α → S → Prop}

/-- **No run stops the monitor**, and what is demanded of ends and of the
monitor's last states holds. -/
def Obeys (m : Monitor S Q R) (s : S) (w : Workflow Q R α) (P : Except Fault α → S → Prop) :
    Prop :=
  ∀ h o, Runs w h o → ∃ s', m.after s h.sights = some s' ∧ P o s'

theorem Obeys.mono {w : Workflow Q R α} {P' : Except Fault α → S → Prop}
    (hw : Obeys m s w P) (himp : ∀ o s', P o s' → P' o s') : Obeys m s w P' := by
  intro h o hr
  obtain ⟨s', hs, hp⟩ := hw h o hr
  exact ⟨s', hs, himp o s' hp⟩

/-- What a workflow ends with is the end of one of its runs. -/
theorem Obeys.and_runs {w : Workflow Q R α} (hw : Obeys m s w P) :
    Obeys m s w fun o s' => P o s' ∧ ∃ h, Runs w h o := by
  intro h o hr
  obtain ⟨s', hs, hp⟩ := hw h o hr
  exact ⟨s', hs, hp, h, hr⟩

/-- **A run that is still going on has not stopped the monitor.** -/
theorem Obeys.leads [Inhabited R] {w rest : Workflow Q R α} {h : History Q R}
    (hw : Obeys m s w P) (hl : Leads w h rest) : ∃ s', m.after s h.sights = some s' := by
  obtain ⟨h₂, o, hr⟩ := exists_runs rest
  obtain ⟨s', hs, -⟩ := hw _ o (hl.runs hr)
  rw [History.sights_append] at hs
  exact Monitor.after_prefix hs

/-! ## Rules -/

theorem obeys_done {a : α} (hp : P (.ok a) s) : Obeys m s (done a) P := by
  intro h o hr
  obtain ⟨rfl, rfl⟩ := runs_done.1 hr
  exact ⟨s, rfl, hp⟩

theorem obeys_fail {fault : Fault} (hp : P (.error fault) s) :
    Obeys m s (fail fault) P := by
  intro h o hr
  obtain ⟨rfl, rfl⟩ := runs_fail.1 hr
  exact ⟨s, rfl, hp⟩

/-- **A sequence obeys** if its first part does, and the rest from wherever
that part leads. -/
theorem obeys_bind {w : Workflow Q R α} {f : α → Workflow Q R β}
    {P' : Except Fault β → S → Prop} (hw : Obeys m s w P)
    (hf : ∀ a s', P (.ok a) s' → Obeys m s' (f a) P')
    (hfault : ∀ fault s', P (.error fault) s' → P' (.error fault) s') :
    Obeys m s (w.bind f) P' := by
  intro h o hr
  obtain ⟨a, h₁, h₂, rfl, hr₁, hr₂⟩ | ⟨fault, rfl, hr₁⟩ := runs_bind.1 hr
  · obtain ⟨s₁, hs₁, hp⟩ := hw h₁ _ hr₁
    obtain ⟨s₂, hs₂, hp'⟩ := hf a s₁ hp h₂ o hr₂
    exact ⟨s₂, by rw [History.sights_append, Monitor.after_append, hs₁]; exact hs₂, hp'⟩
  · obtain ⟨s', hs, hp⟩ := hw h _ hr₁
    exact ⟨s', hs, hfault fault s' hp⟩

/-- After an attempt the rest obeys from wherever the attempt leads. -/
theorem obeys_attempt_bind {w : Workflow Q R α} {f : Except Fault α → Workflow Q R β}
    {P' : Except Fault β → S → Prop} (hw : Obeys m s w P)
    (hf : ∀ r s', P r s' → Obeys m s' (f r) P') : Obeys m s (w.attempt.bind f) P' := by
  intro h o hr
  obtain ⟨r, h₁, h₂, rfl, hr₁, hr₂⟩ := runs_attempt_bind.1 hr
  obtain ⟨s₁, hs₁, hp⟩ := hw h₁ r hr₁
  obtain ⟨s₂, hs₂, hp'⟩ := hf r s₁ hp h₂ o hr₂
  exact ⟨s₂, by rw [History.sights_append, Monitor.after_append, hs₁]; exact hs₂, hp'⟩

/-- Of the clock the monitor sees nothing. -/
theorem obeys_now_bind {f : Instant → Workflow Q R α} (hf : ∀ t, Obeys m s (f t) P) :
    Obeys m s (now.bind f) P := by
  intro h o hr
  obtain ⟨t, rest, rfl, hrest⟩ := runs_now_bind.1 hr
  exact hf t rest o hrest

theorem obeys_regardless {w : Workflow Q R α} {P' : Except Fault Unit → S → Prop}
    (hw : Obeys m s w fun _ => P' (.ok ())) : Obeys m s (regardless w) P' := by
  intro h o hr
  obtain ⟨rfl, r, hr'⟩ := runs_regardless.1 hr
  exact hw h r hr'

/-- What only asks, and only for what the monitor takes no notice of, leaves
its state. -/
theorem obeys_of_onlyAsks {p : Q → Prop} {w : Workflow Q R α} (hw : OnlyAsks p w)
    (hm : ∀ q r, p q → m s (.asked q r) = some s) : Obeys m s w fun _ s' => s' = s := by
  intro h o hr
  refine ⟨s, Monitor.after_of_same fun x hx => ?_, rfl⟩
  obtain ⟨q, r, rfl, hq⟩ := hw h o hr x hx
  exact hm q r hq

/-- The same of what also uses locks, if the monitor takes no notice of
those either. -/
theorem obeys_of_asks {p : Q → Prop} {w : Workflow Q R α} (hw : Asks p w)
    (hm : ∀ x : Sight Q R, (∀ q r, x = .asked q r → p q) → m s x = some s) :
    Obeys m s w fun _ s' => s' = s := by
  intro h o hr
  refine ⟨s, Monitor.after_of_same fun x hx => hm x ?_, rfl⟩
  rintro q r rfl
  exact hw h o hr _ (History.mem_asked.2 hx)

/-- **Holding a lock over a body.** The body is entered with the lock and
left before its release. -/
theorem obeys_holding {d : Domain} {budget : Nat} {body : Workflow Q R α} {s₁ : S}
    (hacquired : m s (.acquired d) = some s₁)
    (hbody : Obeys m s₁ body fun o s₂ => ∃ s₃, m s₂ (.released d) = some s₃ ∧ P o s₃)
    (hrefused : ∃ s₁, m s (.refused d) = some s₁ ∧
      P (.error (.lockTimeout (.busy d budget))) s₁) :
    Obeys m s (holding d budget body) P := by
  intro h o hr
  obtain ⟨h', rfl, hr'⟩ | ⟨rfl, rfl⟩ := runs_holding.1 hr
  · obtain ⟨s₂, hs₂, s₃, hs₃, hp⟩ := hbody h' o hr'
    exact ⟨s₃, by simp [Monitor.after_append, hacquired, hs₂, hs₃], hp⟩
  · obtain ⟨s₁, hs₁, hp⟩ := hrefused
    exact ⟨s₁, by simp [hs₁], hp⟩

end Workflow

end CloudOrchestration
