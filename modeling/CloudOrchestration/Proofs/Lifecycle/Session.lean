import CloudOrchestration.Proofs.Lifecycle.Register
import CloudOrchestration.Proofs.Lifecycle.Upkeep
/-!
# Sessions

Calls of the lifecycle one after the other are operations on the sets of names
that a provider keeps (`Upkeep.refines`). What is tracked at the end can be told
from the answers alone: an account is, if its latest change has made it. This
rests on an invariant, that what is tracked is held; a deletion that finds nothing
to do drops only what was not tracked.
-/

namespace CloudOrchestration

open Workflow

variable {σ : Type} {server : Server σ Request (Except Fault Response)} {names : σ → Names}
variable {w : World σ} {c : Client} {calls : List (Upkeep × Deadline)}
variable {account name : String} {accounts : List String}

/-! ## Tracked accounts -/

theorem mem_insertName :
    name ∈ insertName account accounts ↔ name = account ∨ name ∈ accounts := by
  induction accounts with
  | nil => simp [insertName]
  | cons x rest ih =>
    rw [insertName]
    split
    next heq => subst heq; simp
    next =>
      split
      · exact List.mem_cons
      · rw [List.mem_cons, ih, List.mem_cons]
        exact or_left_comm

/-- An insertion keeps the order, and each name once. -/
theorem pairwise_insertName (h : accounts.Pairwise (· < ·)) :
    (insertName account accounts).Pairwise (· < ·) := by
  induction accounts with
  | nil => exact List.pairwise_singleton ..
  | cons x rest ih =>
    obtain ⟨hhead, hrest⟩ := List.pairwise_cons.1 h
    rw [insertName]
    split
    · exact h
    next hne =>
      split
      next hlt =>
        refine List.pairwise_cons.2 ⟨fun y hy => ?_, h⟩
        rcases List.mem_cons.1 hy with rfl | hy
        · exact hlt
        · exact String.lt_trans hlt (hhead y hy)
      next hge =>
        have hlt : x < account := Std.lt_of_le_of_ne (String.not_lt.1 hge) (Ne.symm hne)
        refine List.pairwise_cons.2 ⟨fun y hy => ?_, ih hrest⟩
        rcases mem_insertName.1 hy with rfl | hy
        · exact hlt
        · exact hhead y hy

namespace Upkeep

variable {u : Upkeep} {ns : Names}

theorem latestChange_cons (x : Upkeep × Action) (rest : List (Upkeep × Action)) :
    latestChange account (x :: rest) =
      (latestChange account rest).or (if changesAccount account x then some x.2 else none) := by
  simp only [latestChange, List.filter_cons]
  split
  · rw [List.getLast?_cons]
    cases (rest.filter (changesAccount account)).getLast? <;> rfl
  · rw [Option.or_none]

/-- What is tracked is held. -/
def Tracks (accounts : List String) (ns : Names) : Prop :=
  ∀ name ∈ accounts, name ∈ ns .storageAccount

theorem tracks_nil (ns : Names) : Tracks [] ns := fun _ hname => absurd hname List.not_mem_nil

/-- A call keeps it so. -/
theorem Tracks.settle (h : Tracks accounts ns) (u : Upkeep) :
    Tracks (u.settle (u.answer ns) accounts) (u.apply ns) := by
  intro name hname
  cases u with
  | ensure kind n place =>
    refine Names.mem_insert.2 ?_
    cases kind with
    | affinityGroup | cloudService => exact .inr (h name hname)
    | storageAccount =>
      rw [answer_ensure] at hname
      split at hname
      · exact .inr (h name hname)
      · exact (mem_insertName.1 hname).imp (⟨rfl, ·⟩) (h name)
  | delete kind n =>
    refine Names.mem_erase.2 ?_
    cases kind with
    | affinityGroup | cloudService => exact ⟨nofun, h name hname⟩
    | storageAccount =>
      obtain ⟨hmem, hne⟩ := List.mem_filter.1 hname
      exact ⟨fun heq => by simp [heq.2] at hne, h name hmem⟩

/-- **What a call does to one account.** -/
theorem mem_settle_iff (h : Tracks accounts ns) :
    name ∈ u.settle (u.answer ns) accounts ↔
      if changesAccount name (u, u.answer ns) then u.answer ns = .create else name ∈ accounts := by
  cases u with
  | ensure kind n place =>
    cases kind with
    | affinityGroup | cloudService => rfl
    | storageAccount =>
      rw [answer_ensure]
      split
      · simp [changesAccount, Action.isChange, Upkeep.settle]
      · have hsettle : name ∈ insertName n accounts ↔ n = name ∨ name ∈ accounts :=
          mem_insertName.trans (or_congr_left eq_comm)
        rcases eq_or_ne n name with rfl | hne
        · simp [changesAccount, Action.isChange, Upkeep.settle, kind, Upkeep.name, hsettle]
        · simp [changesAccount, Upkeep.settle, kind, Upkeep.name, hsettle, hne]
  | delete kind n =>
    cases kind with
    | affinityGroup | cloudService => rfl
    | storageAccount =>
      rw [answer_delete]
      split
      · rcases eq_or_ne n name with rfl | hne
        · simp [changesAccount, Action.isChange, Upkeep.settle, kind, Upkeep.name]
        · simp [changesAccount, Upkeep.settle, kind, Upkeep.name, hne, hne.symm]
      next hgone =>
        -- it was not held, so it was not tracked before either
        have hne : name ∈ accounts → name ≠ n := fun hname heq => hgone (heq ▸ h name hname)
        simpa [changesAccount, Action.isChange, Upkeep.settle] using hne

/-- **An account is tracked if its latest change has made it.** -/
theorem mem_foldl_settle_iff {us : List Upkeep} (h : Tracks accounts ns) :
    name ∈ (us.zip (answers ns us)).foldl (fun accounts x => x.1.settle x.2 accounts) accounts ↔
      latestChange name (us.zip (answers ns us)) = some .create ∨
        latestChange name (us.zip (answers ns us)) = none ∧ name ∈ accounts := by
  induction us generalizing ns accounts with
  | nil => simp [latestChange]
  | cons u rest ih =>
    rw [answers, List.zip_cons_cons, List.foldl_cons, ih (h.settle u), latestChange_cons,
      mem_settle_iff h]
    generalize latestChange name (rest.zip (answers (u.apply ns) rest)) = later
    cases later with
    | some action => simp
    | none => by_cases hchanges : changesAccount name (u, u.answer ns) <;> simp [hchanges]

theorem pairwise_settle (u : Upkeep) (action : Action) (h : accounts.Pairwise (· < ·)) :
    (u.settle action accounts).Pairwise (· < ·) := by
  unfold settle
  split
  · exact pairwise_insertName h
  · exact h.filter _
  · exact h

/-- **The tracked accounts are in order**, each of them once. -/
theorem pairwise_foldl_settle (done : List (Upkeep × Action)) (h : accounts.Pairwise (· < ·)) :
    (done.foldl (fun accounts x => x.1.settle x.2 accounts) accounts).Pairwise (· < ·) := by
  induction done generalizing accounts with
  | nil => exact h
  | cons x rest ih => exact ih (pairwise_settle x.1 x.2 h)

/-! ## Calls one after the other -/

/-- **Calls do their work one after the other.** -/
theorem exists_yields_calls (hkeeps : KeepsNames server names) (hwire : c.wire = .json)
    (hsegments : ∀ x ∈ calls, Path.IsSegment x.1.name) :
    ∃ w', Yields server w (calls.mapM fun x => x.1.call.run c x.2)
        ((answers (names w.server) (calls.map (·.1))).countP Action.isChange)
        (answers (names w.server) (calls.map (·.1))) w' ∧
      names w'.server = applyAll (names w.server) (calls.map (·.1)) ∧
      w'.accounts = ((calls.map (·.1)).zip (answers (names w.server) (calls.map (·.1)))).foldl
        (fun accounts x => x.1.settle x.2 accounts) w.accounts := by
  induction calls generalizing w with
  | nil => exact ⟨w, yields_done [], rfl, rfl⟩
  | cons x rest ih =>
    obtain ⟨w₁, hfirst, hnames₁, haccounts₁⟩ := does_call (w := w) hkeeps hwire
      (hsegments x List.mem_cons_self) x.2 x.1 rfl
    obtain ⟨w₂, hrest, hnames₂, haccounts₂⟩ := ih (w := w₁) fun y hy =>
      hsegments y (List.mem_cons_of_mem x hy)
    rw [hnames₁] at hrest hnames₂ haccounts₂
    rw [haccounts₁] at haccounts₂
    refine ⟨w₂, ?_, hnames₂, haccounts₂⟩
    have hlater : Yields server w₁
        (Workflow.bind (rest.mapM fun x => x.1.call.run c x.2) fun actions =>
          done (x.1.answer (names w.server) :: actions)) _ _ w₂ := hrest.bind_look (yields_done _)
    have hall := hfirst.bind (f := fun action =>
      Workflow.bind (rest.mapM fun x => x.1.call.run c x.2) fun actions =>
        done (action :: actions)) hlater
    have hcount (action : Action) : action.isChange.toNat = if action.isChange then 1 else 0 := by
      cases action <;> rfl
    rw [hcount, Nat.add_comm, ← List.countP_cons] at hall
    rw [List.mapM_cons]
    exact hall

/-- **Calls are operations on sets.** Let a client with calls of the lifecycle, one
after the other, be alone with a provider that keeps sets of names. Each call
answers that it has made or deleted something just if it changes the sets; these
are at the end what insertions and removals make of them; there were as many
requests for a change as there are such answers; and the tracked accounts are
those whose latest change has made them, in order and each of them once. No
deadline plays a part, for everything comes at the first try. -/
theorem refines (hkeeps : KeepsNames server names) (hwire : c.wire = .json)
    (haccounts : w.accounts = []) (hsegments : ∀ x ∈ calls, Path.IsSegment x.1.name) :
    ∃ t accounts,
      ((Schedule.start w [session c calls]).run server).outcomes =
        [(t, .ok (answers (names w.server) (calls.map (·.1)), accounts))] ∧
      names ((Schedule.start w [session c calls]).run server).world.server =
        applyAll (names w.server) (calls.map (·.1)) ∧
      (((Schedule.start w [session c calls]).run server).requests 0).countP (·.2.isMutating) =
        (answers (names w.server) (calls.map (·.1))).countP Action.isChange ∧
      accounts.Pairwise (· < ·) ∧
      ∀ name, name ∈ accounts ↔ latestChange name
        ((calls.map (·.1)).zip (answers (names w.server) (calls.map (·.1)))) = some .create := by
  obtain ⟨w', hcalls, hnames, htracked⟩ := exists_yields_calls (w := w) hkeeps hwire hsegments
  have hlook : Yields server w' (tracked.bind fun accounts =>
      done (answers (names w.server) (calls.map (·.1)), accounts)) 0 _ w' :=
    (yields_effect .tracked rfl).look_bind (yields_done _)
  have hsession : Yields server w (session c calls) _ _ w' := hcalls.bind_look (f := fun actions =>
    tracked.bind fun accounts => done (actions, accounts)) hlook
  obtain ⟨hworld, houtcomes, hcount⟩ := hsession.run
  refine ⟨_, _, houtcomes, hworld ▸ hnames, hcount, ?_, fun name => ?_⟩
  · rw [htracked, haccounts]
    exact pairwise_foldl_settle _ .nil
  · rw [htracked, haccounts, mem_foldl_settle_iff (tracks_nil _)]
    simp

end Upkeep

/-! ## A session with a register -/

namespace Register

/-- A register with an account and a cloud service in it. -/
def stocked : Register
  | .affinityGroup => []
  | .storageAccount => ["old"]
  | .cloudService => ["web"]

/-- Calls of which some have nothing to do. -/
def errands : List (Upkeep × Deadline) := [
  (.ensure .storageAccount "data" "eu", ⟨60000⟩),
  (.ensure .cloudService "web" "eu", ⟨60000⟩),
  (.ensure .storageAccount "logs" "eu", ⟨60000⟩),
  (.delete .storageAccount "data", ⟨60000⟩),
  (.delete .storageAccount "data", ⟨60000⟩),
  (.delete .cloudService "web", ⟨60000⟩),
  (.ensure .affinityGroup "web" "west", ⟨60000⟩),
  (.delete .storageAccount "old", ⟨60000⟩),
  (.ensure .storageAccount "old" "eu", ⟨60000⟩)]

/-- What they answer. -/
def expected : List Action :=
  [.create, .unchanged, .create, .delete, .unchanged, .delete, .create, .delete, .create]

/-- The session comes to its end; the account that was deleted last is not tracked,
the one that was deleted and made again is. -/
theorem refines_stocked : (∀ x ∈ errands, Path.IsSegment x.1.name) ∧
    ∃ t accounts,
      ((Schedule.start { server := stocked } [Upkeep.session plainClient errands]).run
        respond).outcomes = [(t, .ok (expected, accounts))] ∧
      (((Schedule.start { server := stocked } [Upkeep.session plainClient errands]).run
        respond).requests 0).countP (·.2.isMutating) = 7 ∧
      "data" ∉ accounts ∧ "logs" ∈ accounts ∧ "old" ∈ accounts := by
  have hsegments : ∀ x ∈ errands, Path.IsSegment x.1.name := by decide +kernel
  have hanswers : Upkeep.answers stocked.names (errands.map (·.1)) = expected := by
    simp [errands, expected, Upkeep.answers, Upkeep.answer_ensure, Upkeep.answer_delete,
      Upkeep.apply, Names.mem_insert, Names.mem_erase, names, stocked]
  obtain ⟨t, accounts, houtcomes, -, hcount, -, haccounts⟩ :=
    Upkeep.refines (w := { server := stocked }) keepsNames (c := plainClient) rfl rfl hsegments
  rw [hanswers] at houtcomes hcount haccounts
  refine ⟨hsegments, t, accounts, houtcomes, hcount, ?_⟩
  simp only [haccounts]
  decide +kernel

end Register

end CloudOrchestration
