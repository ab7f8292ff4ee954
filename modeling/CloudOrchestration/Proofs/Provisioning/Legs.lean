import CloudOrchestration.Proofs.Client.Discipline
/-!
# The legs of provisioning

A run of provisioning is a row of legs: the submission, the two waits for the
machine, its data disk, and the clean-up after a failure. Only the submission
and the data disk take a lock, and each gives it back before its end. So no
lock is held at any point of the waits and of the clean-up
(`InLegs.free_of_isUnlocked`).
-/

namespace CloudOrchestration

open Workflow

variable {c : Client} {deadline : Deadline} {d : Descriptor} {service : String}
variable {h h' : History Request (Except Fault Response)}

/-- A leg of provisioning. -/
inductive Leg where
  | submission
  /-- The wait for the deployment to run. -/
  | running
  /-- The wait for the role to be ready. -/
  | ready
  | disk
  | cleanup
  deriving DecidableEq, Repr

namespace Leg

/-- The legs in their order. -/
def all : List Leg := [submission, running, ready, disk, cleanup]

/-- The runs of a leg. -/
def Performs (c : Client) (d : Descriptor) (deadline : Deadline) :
    Leg → History Request (Except Fault Response) → Prop
  | submission, h =>
    ∃ budget o, Runs (holding .general budget ((c.resolveAndSubmit deadline).start d)) h o
  | running, h => ∃ service deployment o, Runs (c.awaitRunning service deployment deadline) h o
  | ready, h => ∃ service deployment role o, Runs (c.awaitRole service deployment role deadline) h o
  | disk, h => ∃ service deployment role account sizeGb o,
    Runs (c.addDataDisk service deployment role account sizeGb deadline) h o
  | cleanup, h => ∃ service o, Runs (c.deleteCloudService service deadline) h o

/-- Whether a leg takes no lock. -/
def isUnlocked : Leg → Bool
  | submission | disk => false
  | running | ready | cleanup => true

/-- Of a leg that takes no lock only requests are seen. -/
theorem Performs.asked_of_isUnlocked {leg : Leg} (hp : leg.Performs c d deadline h)
    (hleg : leg.isUnlocked) : ∀ x ∈ h.sights, ∃ q r, x = .asked q r := by
  have hasks : ∀ {α : Type} {w : Call α} {o}, OnlyAsks Request.Any w → Runs w h o →
      ∀ x ∈ h.sights, ∃ q r, x = .asked q r := by
    intro α w o hw hr x hx
    obtain ⟨q, r, hq, -⟩ := hw h o hr x hx
    exact ⟨q, r, hq⟩
  cases leg with
  | submission | disk => cases hleg
  | running =>
    obtain ⟨service, deployment, o, hr⟩ := hp
    exact hasks (Client.onlyAsks_awaitRunning trivial) hr
  | ready =>
    obtain ⟨service, deployment, role, o, hr⟩ := hp
    exact hasks (Client.onlyAsks_awaitRole trivial) hr
  | cleanup =>
    obtain ⟨service, o, hr⟩ := hp
    exact hasks (Client.onlyAsks_deleteCloudService (fun _ => trivial) trivial) hr

/-- What only asks is allowed by the discipline and changes nothing. -/
theorem after_of_asked {l : List (Sight Request (Except Fault Response))}
    (hasked : ∀ x ∈ l, ∃ q r, x = .asked q r) : lockDiscipline.after none l = some none := by
  refine Monitor.after_of_same fun x hx => ?_
  obtain ⟨q, r, rfl⟩ := hasked x hx
  rfl

/-- A leg begins and ends without a lock. -/
theorem Performs.after {leg : Leg} (hp : leg.Performs c d deadline h) :
    lockDiscipline.after none h.sights = some none := by
  have hend : ∀ {α : Type} {w : Call α} {o}, Disciplined w → Runs w h o →
      lockDiscipline.after none h.sights = some none := by
    intro α w o hw hr
    obtain ⟨held, hafter, rfl⟩ := hw h o hr
    exact hafter
  by_cases hleg : leg.isUnlocked
  · exact after_of_asked (hp.asked_of_isUnlocked hleg)
  · cases leg with
    | running | ready | cleanup => exact absurd rfl hleg
    | submission =>
      obtain ⟨budget, o, hr⟩ := hp
      exact hend (disciplined_holding (Client.leavesLocks_resolveAndSubmit _)) hr
    | disk =>
      obtain ⟨service, deployment, role, account, sizeGb, o, hr⟩ := hp
      have hbody : ∀ disk, OnlyAsks Request.Any
          (c.submitDataDisk service deployment role disk deadline) := fun _ =>
        Client.onlyAsks_submitDataDisk (fun _ => trivial) trivial trivial
      exact hend (disciplined_exclusively (onlyAsks_bind onlyAsks_draw fun _ => hbody _)) hr

end Leg

/-- Legs, each with its history. -/
abbrev Legs := List (Leg × History Request (Except Fault Response))

/-- The history that legs make up. -/
def Legs.history (legs : Legs) : History Request (Except Fault Response) := legs.flatMap Prod.snd

@[simp] theorem Legs.history_append (legs legs' : Legs) :
    Legs.history (legs ++ legs') = legs.history ++ legs'.history := List.flatMap_append

/-- **A history in legs** of some kinds, in the order of the kinds. -/
structure InLegs (c : Client) (d : Descriptor) (deadline : Deadline) (kinds : List Leg)
    (h : History Request (Except Fault Response)) (legs : Legs) : Prop where
  history_eq : legs.history = h
  performs : ∀ x ∈ legs, x.1.Performs c d deadline x.2
  inOrder : (legs.map Prod.fst).Sublist kinds

namespace InLegs

variable {kinds kinds' : List Leg} {legs legs' : Legs}

theorem nil : InLegs c d deadline kinds [] [] where
  history_eq := rfl
  performs := nofun
  inOrder := List.nil_sublist _

theorem single (leg : Leg) (hp : leg.Performs c d deadline h) :
    InLegs c d deadline [leg] h [(leg, h)] where
  history_eq := by simp [Legs.history]
  performs := by simpa using hp
  inOrder := List.Sublist.refl _

theorem append (hl : InLegs c d deadline kinds h legs)
    (hl' : InLegs c d deadline kinds' h' legs') :
    InLegs c d deadline (kinds ++ kinds') (h ++ h') (legs ++ legs') where
  history_eq := by rw [Legs.history_append, hl.history_eq, hl'.history_eq]
  performs := by
    intro x hx
    rcases List.mem_append.1 hx with hx | hx
    · exact hl.performs x hx
    · exact hl'.performs x hx
  inOrder := by
    rw [List.map_append]
    exact hl.inOrder.append hl'.inOrder

theorem mono (hl : InLegs c d deadline kinds h legs) (hk : kinds.Sublist kinds') :
    InLegs c d deadline kinds' h legs :=
  { hl with inOrder := hl.inOrder.trans hk }

/-- Between two legs no lock is held. -/
theorem after (hl : ∀ x ∈ legs, x.1.Performs c d deadline x.2) :
    lockDiscipline.after none legs.history.sights = some none := by
  induction legs with
  | nil => rfl
  | cons x legs ih =>
    have hx : lockDiscipline.after none x.2.sights = some none := (hl x (by simp)).after
    have hrest : lockDiscipline.after none (Legs.history legs).sights = some none :=
      ih fun y hy => hl y (by simp [hy])
    show lockDiscipline.after none (History.sights (x.2 ++ Legs.history legs)) = some none
    rw [History.sights_append, Monitor.after_append, hx]
    exact hrest

/-- **At no point of a leg that takes no lock is one held.** -/
theorem free_of_isUnlocked (hl : InLegs c d deadline kinds h legs) {before after : Legs}
    {leg : Leg} {part : History Request (Except Fault Response)}
    (hlegs : legs = before ++ (leg, part) :: after) (hleg : leg.isUnlocked)
    {l : History Request (Except Fault Response)} (hpart : l <+: part) (domain : Domain) :
    Sight.holds domain (before.history ++ l).sights = false := by
  have hbefore : lockDiscipline.after none before.history.sights = some none :=
    InLegs.after fun x hx => hl.performs x (by simp [hlegs, hx])
  have hperforms : leg.Performs c d deadline part := hl.performs (leg, part) (by simp [hlegs])
  have hl : lockDiscipline.after none l.sights = some none := by
    refine Leg.after_of_asked fun x hx => hperforms.asked_of_isUnlocked hleg x ?_
    obtain ⟨rest, rfl⟩ := hpart
    rw [History.sights_append]
    exact List.mem_append_left _ hx
  have hafter : lockDiscipline.after none (before.history ++ l).sights = some none := by
    rw [History.sights_append, Monitor.after_append, hbefore]
    exact hl
  rw [holds_eq_of_after hafter]
  rfl

end InLegs

namespace Client

/-- A machine boots in two waits, and gets its data disk. -/
theorem exists_inLegs_awaitMachine {d' : Descriptor} {o : Except Fault Machine}
    (hr : Runs (c.awaitMachine d' service deadline) h o) :
    ∃ legs, InLegs c d deadline [.running, .ready, .disk] h legs := by
  rw [awaitMachine_eq] at hr
  obtain ⟨_, h₁, h₂, rfl, hrunning, hr⟩ | ⟨fault, -, hrunning⟩ := runs_bind.1 hr
  · have hl₁ := InLegs.single (d := d) .running ⟨_, _, _, hrunning⟩
    obtain ⟨deployment, h₃, h₄, rfl, hready, hr⟩ | ⟨fault, -, hready⟩ := runs_bind.1 hr
    · have hl₂ := InLegs.single (d := d) .ready ⟨_, _, _, _, hready⟩
      cases hdisk : d'.dataDiskGb with
      | none =>
        simp only [hdisk, runs_ofExcept] at hr
        obtain ⟨rfl, -⟩ := hr
        exact ⟨_, (hl₁.append (hl₂.append .nil))⟩
      | some sizeGb =>
        simp only [hdisk] at hr
        obtain ⟨_, h₅, h₆, rfl, hadd, hr⟩ | ⟨fault, -, hadd⟩ := runs_bind.1 hr
        · obtain ⟨rfl, -⟩ := runs_ofExcept.1 hr
          have hl₃ := InLegs.single (d := d) .disk ⟨_, _, _, _, _, _, hadd⟩
          rw [List.append_nil]
          exact ⟨_, hl₁.append (hl₂.append hl₃)⟩
        · have hl₃ := InLegs.single (d := d) .disk ⟨_, _, _, _, _, _, hadd⟩
          exact ⟨_, hl₁.append (hl₂.append hl₃)⟩
    · have hl₂ := InLegs.single (d := d) .ready ⟨_, _, _, _, hready⟩
      exact ⟨_, (hl₁.append hl₂).mono (by simp)⟩
  · have hl₁ := InLegs.single (d := d) .running ⟨_, _, _, hrunning⟩
    exact ⟨_, hl₁.mono (by simp)⟩

/-- A clean-up is one leg, or nothing. -/
theorem exists_inLegs_compensate {created : Option String} {o : Except Fault Unit}
    (hr : Runs (c.compensate created deadline) h o) :
    ∃ legs, InLegs c d deadline [.cleanup] h legs := by
  cases created with
  | none =>
    obtain ⟨rfl, -⟩ := runs_done.1 hr
    exact ⟨_, .nil⟩
  | some service =>
    obtain ⟨-, r, hdelete⟩ := runs_regardless.1 hr
    exact ⟨_, .single _ ⟨_, _, hdelete⟩⟩

/-- Up to a fault that is compensated there is the submission, and the machine. -/
theorem exists_inLegs_attempted {o : Except Fault (Except Fault Machine × Progress)}
    (hr : Runs (c.attempted d deadline) h o) :
    ∃ t rest legs, h = ⟨.now, t⟩ :: rest ∧
      InLegs c d deadline [.submission, .running, .ready, .disk] rest legs := by
  obtain ⟨start, rest, rfl, hstart⟩ := runs_now_bind.1 hr
  split at hstart
  · -- the headroom does not fit, and nothing is begun
    obtain ⟨rfl, -⟩ := runs_done.1 hstart
    exact ⟨start, [], [], rfl, .nil⟩
  next budget _ =>
    obtain ⟨x, h₁, h₂, rfl, hsubmit, hrest⟩ := runs_attempt_bind.1 hstart
    have hl₁ := InLegs.single .submission ⟨budget, x, hsubmit⟩
    obtain fault | ⟨fault | service, progress⟩ := x
    · obtain ⟨rfl, -⟩ := runs_done.1 hrest
      exact ⟨start, _, _, rfl, hl₁.append .nil⟩
    · obtain ⟨rfl, -⟩ := runs_done.1 hrest
      exact ⟨start, _, _, rfl, hl₁.append .nil⟩
    · obtain ⟨r, h₃, h₄, rfl, hmachine, hend⟩ := runs_attempt_bind.1 hrest
      obtain ⟨rfl, -⟩ := runs_done.1 hend
      obtain ⟨legs, hl₂⟩ := exists_inLegs_awaitMachine hmachine
      rw [List.append_nil]
      exact ⟨start, _, _, rfl, hl₁.append hl₂⟩

/-- **Every run of provisioning is in legs.** -/
theorem exists_inLegs_provision {o : Except Fault (Except Fault Machine × Descriptor)}
    (hr : Runs (c.provision d deadline) h o) :
    ∃ t rest legs, h = ⟨.now, t⟩ :: rest ∧ InLegs c d deadline Leg.all rest legs := by
  rw [provision_eq] at hr
  obtain ⟨⟨r, p⟩, h₁, h₂, rfl, hattempt, hr⟩ | ⟨fault, -, hattempt⟩ := runs_bind.1 hr
  · obtain ⟨t, rest, legs, rfl, hl₁⟩ := exists_inLegs_attempted hattempt
    cases r with
    | ok machine =>
      obtain ⟨rfl, -⟩ := runs_done.1 hr
      exact ⟨t, _, _, rfl, hl₁.append .nil⟩
    | error fault =>
      obtain ⟨_, h₃, h₄, rfl, hclean, hr⟩ | ⟨fault, -, hclean⟩ := runs_bind.1 hr
      · obtain ⟨rfl, -⟩ := runs_done.1 hr
        obtain ⟨legs', hl₂⟩ := exists_inLegs_compensate hclean
        rw [List.append_nil]
        exact ⟨t, _, _, rfl, hl₁.append hl₂⟩
      · obtain ⟨legs', hl₂⟩ := exists_inLegs_compensate hclean
        exact ⟨t, _, _, rfl, hl₁.append hl₂⟩
  · obtain ⟨t, rest, legs, rfl, hl⟩ := exists_inLegs_attempted hattempt
    exact ⟨t, rest, legs, rfl, hl.mono (by simp [Leg.all])⟩

end Client

end CloudOrchestration
