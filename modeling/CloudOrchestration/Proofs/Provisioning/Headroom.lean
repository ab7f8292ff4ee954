import CloudOrchestration.Proofs.Client.Scripts
import CloudOrchestration.Proofs.Provisioning.Saga
import CloudOrchestration.Proofs.Schedule.Opening
/-!
# The headroom of a machine that boots

Of the time up to its deadline, provisioning keeps back what a machine needs to
boot: it waits for the general lock only as long as that is left, and asks for
nothing before it has the lock. So its first request leaves the headroom, or it
gives up and has asked for nothing (`boot_headroom_is_reserved`); how many others
hold the lock, or wait for it and for how long, makes no difference.
-/

namespace CloudOrchestration

open Workflow Channel Schedule

variable {c : Client} {deadline : Deadline} {d : Descriptor} {t : Instant} {budget : Nat}

/-- Where there is a budget the headroom fits, and the rest is the budget. -/
theorem Deadline.lt_and_eq_of_budgetAfter {headroom : Nat}
    (h : deadline.budgetAfter t headroom = some budget) :
    t < deadline.instant ∧ t + headroom + budget = deadline.instant := by
  obtain ⟨hexpired, -, hsum⟩ := budgetAfter_eq_some_iff.1 h
  have hlt : t < deadline.instant := isExpired_eq_false_iff.1 hexpired
  refine ⟨hlt, ?_⟩
  rw [Nat.add_assoc, Nat.add_comm headroom, hsum, remaining,
    Nat.add_sub_cancel' (Nat.le_of_lt hlt)]

/-! ## The first request -/

/-- A read begins with a request. -/
theorem Channel.asksFirst_fetch {c : Channel} {path : String} :
    (c.fetch path deadline).AsksFirst := by
  unfold Channel.fetch
  cases c.attempts - 1 <;> exact ⟨_, _, rfl⟩

namespace Saga

variable {α β : Type} {p : Progress}

theorem asksFirst_step {w : Call α} (h : w.AsksFirst) : ((step w).resume p).AsksFirst :=
  h.attempt.bind _

theorem asksFirst_bind {s : Saga α} {f : α → Saga β} (h : (s.resume p).AsksFirst) :
    ((s >>= f).resume p).AsksFirst := by
  rw [resume_bind]
  exact h.bind _

/-- What is known of the machine is there at once. -/
theorem asksFirst_descriptor_bind {f : Descriptor → Saga β}
    (h : ((f p.descriptor).resume p).AsksFirst) : ((descriptor >>= f).resume p).AsksFirst := h

end Saga

namespace Client

/-- What is kept back of the time for a machine to boot. -/
def headroom (c : Client) : Nat := c.settings.cadence.headroom.toNat

theorem asksFirst_cloudService? {name : String} {detail : Bool} :
    (c.cloudService? name detail deadline).AsksFirst :=
  (asksFirst_fetch.bind _).bind _

/-- **Provisioning begins with a request** once it has the lock: it looks for the
cloud service. -/
theorem asksFirst_resolveAndSubmit : ((c.resolveAndSubmit deadline).start d).AsksFirst := by
  refine Saga.asksFirst_descriptor_bind (Saga.asksFirst_bind ?_)
  refine Saga.asksFirst_descriptor_bind (Saga.asksFirst_bind ?_)
  exact Saga.asksFirst_step asksFirst_cloudService?

/-- The headroom fits between an instant and the deadline. -/
def Fits (c : Client) (deadline : Deadline) (start : Instant) : Prop :=
  start < deadline.instant ∧ start + c.headroom ≤ deadline.instant

/-- An instant at which a call that began at a start may ask: the headroom fitted
then, and it does now. -/
def InTime (c : Client) (deadline : Deadline) (start t : Instant) : Prop :=
  c.Fits deadline start ∧ t + c.headroom ≤ deadline.instant

/-- **A machine was given up** for want of time: the descriptor is as it was, and
if the headroom did not fit, no time has passed. -/
def GaveUp (c : Client) (d : Descriptor) (deadline : Deadline) (start finish : Instant)
    (o : Except Fault (Except Fault Machine × Descriptor)) : Prop :=
  (∃ why, o = .ok (.error (.lockTimeout why), d)) ∧ (¬ c.Fits deadline start → finish = start)

/-- **Provisioning opens in time**, or gives the machine up. -/
theorem opens_provision (c : Client) (d : Descriptor) (deadline : Deadline) (start : Instant) :
    (c.provision d deadline).Opens (c.InTime deadline start) (c.GaveUp d deadline start) start := by
  refine opens_now_bind ?_
  cases hbudget : deadline.budgetAfter start c.settings.cadence.headroom.toNat with
  | none => exact ⟨⟨_, rfl⟩, fun _ => rfl⟩
  | some budget =>
    obtain ⟨hstart, hend⟩ := Deadline.lt_and_eq_of_budgetAfter hbudget
    have hfits : c.Fits deadline start := ⟨hstart, hend ▸ Nat.le_add_right _ _⟩
    refine opens_holding_bind asksFirst_resolveAndSubmit (fun t _ ht => ⟨hfits, ?_⟩) ?_
    · calc t + c.headroom ≤ start + budget + c.headroom := Nat.add_le_add_right ht _
        _ = start + c.headroom + budget := Nat.add_right_comm _ _ _
        _ = deadline.instant := hend
    · exact fun t _ _ => ⟨⟨_, rfl⟩, fun hnot => absurd hfits hnot⟩

/-- **How the strand of a number that provisioned a machine has used its time.**
Its outcome was put in the form of all outcomes by a function. -/
structure KeptHeadroom {σ α : Type} (c : Client) (d : Descriptor) (deadline : Deadline)
    (f : Except Fault Machine × Descriptor → α) (i : Nat) (start : Instant)
    (s : Schedule σ Request (Except Fault Response) α) : Prop where
  ended : ∃ finish o, s.strands[i]? = some (.ended finish o)
  /-- If it has asked for anything, then first at an instant that left the
  headroom. -/
  asked (hasked : s.requests i ≠ []) :
    ∃ t q rest, s.requests i = (t, q) :: rest ∧ t + c.headroom ≤ deadline.instant
  /-- Otherwise it has not obtained the lock, and the descriptor is as it was. -/
  unasked (hnone : s.requests i = []) : ∃ finish why,
    s.strands[i]? = some (.ended finish (.ok (f (.error (.lockTimeout why), d))))
  /-- If the headroom did not fit at the start, it has asked for nothing and ended
  at once. -/
  atOnce (hnot : ¬ c.Fits deadline start) : s.requests i = [] ∧ ∃ why,
    s.strands[i]? = some (.ended start (.ok (f (.error (.lockTimeout why), d))))

/-- **The headroom is reserved under any contention**: a call that provisions a
machine and is about to start, beside any other strands and at any point of what
they do with the lock, ends, and has then used its time so. -/
theorem boot_headroom_is_reserved (c : Client) (d : Descriptor) {σ α : Type}
    {server : Server σ Request (Except Fault Response)}
    {f : Except Fault Machine × Descriptor → α} {i : Nat}
    {s : Schedule σ Request (Except Fault Response) α}
    (hi : s.strands[i]? = some (.running t (f <$> c.provision d deadline)))
    (hlog : ∀ e ∈ s.log, e.strand ≠ i) :
    Inevitably server (c.KeptHeadroom d deadline f i (max s.world.clock t)) s := by
  have hopens : (f <$> c.provision d deadline).Opens (c.InTime deadline (max s.world.clock t))
      (fun finish o => ∃ o', o = o'.map f ∧ c.GaveUp d deadline (max s.world.clock t) finish o')
      (max s.world.clock t) :=
    opens_map (c.opens_provision d deadline _) fun _ o hpost => ⟨o, rfl, hpost⟩
  refine (inevitably_opened hopens hi hlog).mono ?_
  rintro s' ⟨finish, o, hended, hasked | ⟨hnone, o', rfl, ⟨why, rfl⟩, hatOnce⟩⟩
  · obtain ⟨t', q, rest, hrequests, hfits, hintime⟩ := hasked
    refine ⟨⟨finish, o, hended⟩, fun _ => ⟨t', q, rest, hrequests, hintime⟩, fun hnone => ?_,
      fun hnot => absurd hfits hnot⟩
    rw [hrequests] at hnone
    cases hnone
  · refine ⟨⟨finish, _, hended⟩, fun hasked => absurd hnone hasked,
      fun _ => ⟨finish, why, hended⟩, fun hnot => ⟨hnone, why, ?_⟩⟩
    rw [← hatOnce hnot]
    exact hended

/-- A provider that takes its time to refuse to tell of a cloud service. -/
def reticentScript : Script := [((.get, Path.cloudService "w"), [.refuses 400 600])]

/-- Three machines with a second to spare beyond the headroom, and one with too
little time. -/
def hopefuls : List (Descriptor × Deadline) :=
  [("a", 301000), ("b", 301000), ("c", 301000), ("d", 299999)].map fun (role, instant) =>
    (plainDescriptor role (some "w"), ⟨instant⟩)

/-- All of them about to start. -/
def hoping : Schedule Script Request (Except Fault Response) (Except Fault Machine × Descriptor) :=
  Schedule.start { server := reticentScript }
    (hopefuls.map fun x => id <$> plainClient.provision x.1 x.2)

/-- The first machine asks at once, the second when it obtains the lock, the
third waits for it in vain, and the last does not wait at all. -/
theorem headroom_kept_hoping :
    (∃ n, plainClient.KeptHeadroom (plainDescriptor "b" (some "w")) ⟨301000⟩ id 1 0
      (hoping.advance Script.respond n)) ∧
    (∃ n, plainClient.KeptHeadroom (plainDescriptor "c" (some "w")) ⟨301000⟩ id 2 0
      (hoping.advance Script.respond n)) ∧
    (∃ n, plainClient.KeptHeadroom (plainDescriptor "d" (some "w")) ⟨299999⟩ id 3 0
      (hoping.advance Script.respond n)) ∧
    (List.range 4).map (fun i => ((hoping.advance Script.respond 60).requests i).map (·.1)) =
      [[0], [600], [], []] ∧
    (hoping.advance Script.respond 60).outcomes.map (·.1) = [600, 1200, 1000, 0] := by
  have hlog : ∀ i, ∀ e ∈ hoping.log, e.strand ≠ i := fun _ _ he => nomatch he
  refine ⟨?_, ?_, ?_, by decide +kernel, by decide +kernel⟩
  · exact (boot_headroom_is_reserved plainClient (plainDescriptor "b" (some "w")) (i := 1) rfl
      (hlog 1)).exists_advance
  · exact (boot_headroom_is_reserved plainClient (plainDescriptor "c" (some "w")) (i := 2) rfl
      (hlog 2)).exists_advance
  · exact (boot_headroom_is_reserved plainClient (plainDescriptor "d" (some "w")) (i := 3) rfl
      (hlog 3)).exists_advance

end Client

end CloudOrchestration
