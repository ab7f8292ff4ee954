import CloudOrchestration.Proofs.Client.Rules
import CloudOrchestration.Proofs.Client.Scripts
import CloudOrchestration.Proofs.Lifecycle.Session
import CloudOrchestration.Proofs.Schedule.Accounts
import CloudOrchestration.Proofs.Schedule.Conclusions
import CloudOrchestration.Proofs.Teardown.Removal
/-!
# What is tracked follows the outcomes

Let any calls be made of a client, one after the other, whatever the provider answers
and whatever comes of each of them. The accounts that the client tracks can be told at
every point from the outcomes of its calls on storage accounts: an account is tracked
if some call has made it, and none after that was to delete it and ended well
(`Operation.tracked_follow_outcomes`). Such calls are made by whoever uses the client,
or by the client itself when it takes down a machine.

The calls that a teardown makes are in its text, but what comes of them is passed over.
So a call is told from what it comes to along with what came of them
(`Operation.tell`), and to tell them makes no difference (`Operation.map_fst_tell`).
-/

namespace CloudOrchestration

open Workflow Channel

/-! ## Calls on accounts -/

/-- **A call on a storage account, and what came of it**: it was to have the account
there, or to have it gone. -/
inductive AccountCall where
  | ensured (name : String) (outcome : Except Fault Action)
  | deleted (name : String) (outcome : Except Fault Action)

namespace AccountCall

/-- The account that a call is on. -/
def name : AccountCall → String
  | ensured name _ | deleted name _ => name

variable {account : String} {accounts : List String} {calls : List AccountCall}
variable {x : AccountCall}

/-- What a call leaves of the tracked accounts: one that it has made is tracked, one
that it was to delete is not, unless it has failed. -/
def settle (accounts : List String) : AccountCall → List String
  | ensured name (.ok .create) => insertName name accounts
  | deleted name (.ok _) => accounts.filter (· != name)
  | ensured _ _ | deleted _ (.error _) => accounts

/-- Each of some accounts is to be deleted, in their order. -/
def TriesEach (accounts : List String) (calls : List AccountCall) : Prop :=
  List.Forall₂ (fun account x => ∃ o, x = deleted account o) accounts calls

/-- **An account was made, and not deleted since.** -/
def Remains (account : String) (calls : List AccountCall) : Prop :=
  ∃ earlier later, calls = earlier ++ .ensured account (.ok .create) :: later ∧
    ∀ action, .deleted account (.ok action) ∉ later

theorem not_remains_nil : ¬ Remains account [] := by
  rintro ⟨earlier, later, h, -⟩
  have hlength := congrArg List.length h
  simp at hlength

/-- **One call more**: it has made the account, or it leaves it be. -/
theorem remains_append_one :
    Remains account (calls ++ [x]) ↔ x = .ensured account (.ok .create) ∨
      Remains account calls ∧ ∀ action, x ≠ .deleted account (.ok action) := by
  constructor
  · rintro ⟨earlier, later, h, hlater⟩
    rcases List.eq_nil_or_concat' later with rfl | ⟨later, y, rfl⟩
    · obtain ⟨rfl, hx⟩ := List.append_inj' h rfl
      exact .inl (List.singleton_inj.1 hx)
    · have hsplit : calls ++ [x] = (earlier ++ .ensured account (.ok .create) :: later) ++ [y] := by
        rw [h]
        simp
      obtain ⟨rfl, hx⟩ := List.append_inj' hsplit rfl
      cases List.singleton_inj.1 hx
      refine .inr ⟨⟨earlier, later, rfl, fun action hmem => ?_⟩, fun action hx => ?_⟩
      · exact hlater action (List.mem_append_left _ hmem)
      · exact hlater action (by simp [hx])
  · rintro (rfl | ⟨⟨earlier, later, rfl, hlater⟩, hx⟩)
    · exact ⟨calls, [], rfl, fun _ => List.not_mem_nil⟩
    · refine ⟨earlier, later ++ [x], by simp, fun action hmem => ?_⟩
      rcases List.mem_append.1 hmem with hmem | hmem
      · exact hlater action hmem
      · exact hx action (List.mem_singleton.1 hmem).symm

theorem mem_settle_iff :
    account ∈ x.settle accounts ↔ x = .ensured account (.ok .create) ∨
      account ∈ accounts ∧ ∀ action, x ≠ .deleted account (.ok action) := by
  cases x with
  | ensured n o =>
    cases o with
    | error fault => simp [settle]
    | ok action =>
      have hmade : account ∈ insertName n accounts ↔ n = account ∨ account ∈ accounts :=
        mem_insertName.trans (or_congr_left eq_comm)
      cases action <;> simp [settle, hmade]
  | deleted n o =>
    cases o with
    | error fault => simp [settle]
    | ok action =>
      have hkept : account ∈ accounts.filter (· != n) ↔ account ∈ accounts ∧ ¬ n = account := by
        rw [List.mem_filter, bne_iff_ne, ne_comm]
      simp [settle, hkept]

/-- **What calls leave of no accounts** are those that they have made and that remain. -/
theorem mem_foldl_settle_iff : account ∈ calls.foldl settle [] ↔ Remains account calls := by
  induction calls using List.reverseRecOn with
  | nil => simp [not_remains_nil]
  | append_singleton calls x ih =>
    rw [List.foldl_append, List.foldl_cons, List.foldl_nil, mem_settle_iff, remains_append_one, ih]

theorem pairwise_settle (h : accounts.Pairwise (· < ·)) : (x.settle accounts).Pairwise (· < ·) := by
  unfold settle
  split
  · exact pairwise_insertName h
  · exact h.filter _
  · exact h
  · exact h

/-- The tracked accounts stay in order, each of them once. -/
theorem pairwise_foldl_settle (h : accounts.Pairwise (· < ·)) :
    (calls.foldl settle accounts).Pairwise (· < ·) := by
  induction calls generalizing accounts with
  | nil => exact h
  | cons x rest ih => exact ih (pairwise_settle h)

/-- Calls on other accounts make no difference to one. -/
theorem mem_foldl_settle_of_ne (hcalls : ∀ x ∈ calls, x.name ≠ account) :
    account ∈ calls.foldl settle accounts ↔ account ∈ accounts := by
  induction calls generalizing accounts with
  | nil => rfl
  | cons x rest ih =>
    obtain ⟨hx, hrest⟩ := List.forall_mem_cons.1 hcalls
    rw [List.foldl_cons, ih hrest, mem_settle_iff]
    constructor
    · rintro (rfl | ⟨hmem, -⟩)
      · exact absurd rfl hx
      · exact hmem
    · refine fun hmem => .inr ⟨hmem, ?_⟩
      rintro action rfl
      exact hx rfl

end AccountCall

/-! ## Telling what came of them -/

/-- Delete storage accounts, whatever comes of each, and tell what did. -/
def Client.tellAccounts (c : Client) (accounts : List String) (deadline : Deadline) :
    Call (List AccountCall) :=
  accounts.mapM fun account =>
    .deleted account <$> (c.deleteStorageAccount account deadline).attempt

/-- **Delete the machine that owns an address**, and tell what came of the accounts that
were to go with it. -/
def Client.tellMachineAt (c : Client) (address : String) (deadline : Deadline) :
    Call (List AccountCall) := do
  let (d, service, role) ← c.machineOwning address deadline
  let _ ← c.removeMachine d service role deadline
  let _ ← c.deleteCloudService service deadline
  role.diskNames.forM fun disk => regardless (c.deleteReleasedDisk disk deadline)
  if 2 ≤ d.roles.length then pure []
  else c.tellAccounts (← tracked) deadline

/-- **A call, told with the calls on storage accounts that it makes**: what it comes to,
and what came of them. -/
def Operation.tell (c : Client) (deadline : Deadline) :
    (op : Operation) → Call (Except Fault op.Answer × List AccountCall)
  | lifecycle (.ensureStorageAccount affinityGroup name) => do
    let outcome ← (c.ensureStorageAccount affinityGroup name deadline).attempt
    return (outcome, [.ensured name outcome])
  | lifecycle (.deleteStorageAccount name) => do
    let outcome ← (c.deleteStorageAccount name deadline).attempt
    return (outcome, [.deleted name outcome])
  | deleteMachineAt address => do
    match ← (c.tellMachineAt address deadline).attempt with
    | .ok calls => return (.ok (), calls)
    | .error fault => return (.error fault, [])
  | op => do return (← (op.run c deadline).attempt, [])

variable {c : Client} {deadline : Deadline} {accounts : List String} {t : Instant}

theorem Client.tellAccounts_cons {account : String} :
    c.tellAccounts (account :: accounts) deadline =
      (c.deleteStorageAccount account deadline).attempt.bind fun o =>
        (c.tellAccounts accounts deadline).bind fun calls => done (.deleted account o :: calls) := by
  rw [tellAccounts, List.mapM_cons]
  simp only [map_eq_pure_bind, bind_eq, pure_eq, Workflow.bind_assoc, done_bind, tellAccounts]

theorem Client.map_tellAccounts (accounts : List String) :
    (fun _ => ()) <$> c.tellAccounts accounts deadline =
      accounts.forM fun account => regardless (c.deleteStorageAccount account deadline) := by
  induction accounts with
  | nil => rfl
  | cons account rest ih =>
    have hforM : ∀ f : String → Call Unit, (account :: rest).forM f =
        f account >>= fun _ => rest.forM f := fun _ => rfl
    rw [tellAccounts_cons, hforM, ← ih, regardless]
    simp only [map_eq_pure_bind, bind_eq, pure_eq, Workflow.bind_assoc, done_bind]

/-- **A teardown is the same**, told or not. -/
theorem Client.map_tellMachineAt {address : String} :
    (fun _ => ()) <$> c.tellMachineAt address deadline = c.deleteMachineAt address deadline := by
  have hend : ∀ d : Deployment,
      (if 2 ≤ d.roles.length then done []
        else tracked.bind fun accounts => c.tellAccounts accounts deadline).bind (fun _ => done ()) =
      if 2 ≤ d.roles.length then done ()
        else tracked.bind fun accounts => accounts.forM fun account =>
          regardless (c.deleteStorageAccount account deadline) := by
    intro d
    by_cases hshared : 2 ≤ d.roles.length
    · rw [if_pos hshared, if_pos hshared, done_bind]
    · rw [if_neg hshared, if_neg hshared, Workflow.bind_assoc]
      simp only [← map_tellAccounts, map_eq_pure_bind, bind_eq, pure_eq]
  rw [deleteMachineAt_eq, tellMachineAt]
  simp only [clearAway, map_eq_pure_bind, bind_eq, pure_eq, Workflow.bind_assoc, hend]

/-- What is made of a value is made of it in an attempt. -/
theorem attempt_map {α β : Type} (w : Call α) (f : α → β) :
    (f <$> w).attempt = Except.map f <$> w.attempt := by
  induction w with
  | done a => rfl
  | fail fault => rfl
  | perform e next ih => exact congrArg (perform e) (funext ih)

/-- **Telling makes no difference** to what a call does and comes to. -/
theorem Operation.map_fst_tell (op : Operation) :
    Prod.fst <$> op.tell c deadline = (op.run c deadline).attempt := by
  have hpass : ∀ {α β : Type} (w : Call α) (f : Except Fault α → β), Prod.fst <$> (do
      let o ← w.attempt
      return (o, f o)) = w.attempt := by
    intro α β w f
    simp only [map_eq_pure_bind, bind_eq, pure_eq, Workflow.bind_assoc, done_bind, bind_done]
  unfold tell
  split
  case h_3 address =>
    have hsame : (c.deleteMachineAt address deadline).attempt =
        Except.map (fun _ => ()) <$> (c.tellMachineAt address deadline).attempt := by
      rw [← Client.map_tellMachineAt, attempt_map]
    show _ = (c.deleteMachineAt address deadline).attempt
    rw [hsame]
    simp only [map_eq_pure_bind, bind_eq, pure_eq, Workflow.bind_assoc]
    congr 1
    funext o
    cases o <;> rfl
  all_goals exact hpass _ _

/-! ## What a call leaves -/

namespace Client

variable {name : String}

/-- **An account is tracked once it is made.** -/
theorem leaves_ensureStorageAccount {affinityGroup : String} :
    (c.ensureStorageAccount affinityGroup name deadline).Leaves
      (fun o _ accounts' => accounts' = AccountCall.settle accounts (.ensured name o))
      t accounts := by
  refine Leaves.sparing_bind heeds_get (fun _ _ => rfl) fun listed t' => ?_
  cases listed.contains name with
  | true => rfl
  | false =>
    have hmade : ∀ t, (Workflow.bind (track name) fun _ => (done .create : Call Action)).Leaves
        (fun o _ accounts' => accounts' = AccountCall.settle accounts (.ensured name o))
        t accounts := fun _ => Leaves.track_bind fun _ => rfl
    simp only [unlessDone, Bool.false_eq_true, if_false, bind_eq, Workflow.bind_assoc]
    exact Leaves.sparing_bind heeds_create (fun _ _ => rfl) fun _ => hmade

/-- **It is not tracked once it is deleted**, or found to be gone. -/
theorem leaves_deleteStorageAccount :
    (c.deleteStorageAccount name deadline).Leaves
      (fun o _ accounts' => accounts' = AccountCall.settle accounts (.deleted name o))
      t accounts := by
  refine Leaves.sparing_bind heeds_get (fun _ _ => rfl) fun listed t' => ?_
  refine Leaves.sparing_bind (heeds_unlessDone heeds_remove) (fun _ _ => rfl) fun action t'' => ?_
  exact Leaves.untrack_bind fun _ => rfl

/-- **Each account is tried**, and the tracked ones follow what comes of it. -/
theorem leaves_tellAccounts (names : List String) :
    (c.tellAccounts names deadline).Leaves (fun o _ accounts' => ∃ calls, o = .ok calls ∧
      AccountCall.TriesEach names calls ∧ accounts' = calls.foldl AccountCall.settle accounts)
      t accounts := by
  induction names generalizing t accounts with
  | nil => exact ⟨[], rfl, .nil, rfl⟩
  | cons name rest ih =>
    rw [tellAccounts_cons]
    refine Leaves.bind (Leaves.attempt (leaves_deleteStorageAccount.mono ?_))
    rintro o t' _ rfl
    refine Leaves.bind (ih.mono ?_)
    rintro _ t'' _ ⟨calls, rfl, htries, rfl⟩
    exact ⟨.deleted name o :: calls, rfl, .cons ⟨o, rfl⟩ htries, rfl⟩

theorem heeds_removeMachine {rule : Rule deadline Request (Except Fault Response)} {d : Deployment}
    {service : String} {role : Role} : (c.removeMachine d service role deadline).Heeds rule := by
  unfold removeMachine
  split
  · exact heeds_deleteRole
  · exact heeds_deleteDeployment

/-- **A teardown comes to the accounts last**: it tries those that are tracked then,
and goes on whatever comes of them. -/
theorem leaves_tellMachineAt {address : String} :
    (c.tellMachineAt address deadline).Leaves (fun o _ accounts' =>
      accounts' = (o.toOption.getD []).foldl AccountCall.settle accounts ∧
        ∀ calls, o = .ok calls → calls = [] ∨ AccountCall.TriesEach accounts calls)
      t accounts := by
  have hfailed : ∀ fault (t : Instant), accounts =
      ((.error fault : Except Fault (List AccountCall)).toOption.getD []).foldl
        AccountCall.settle accounts ∧ ∀ calls, .error fault = Except.ok calls →
          calls = [] ∨ AccountCall.TriesEach accounts calls := fun _ _ => ⟨rfl, nofun⟩
  refine Leaves.sparing_bind heeds_machineOwning hfailed fun x t' => ?_
  obtain ⟨d, service, role⟩ := x
  refine Leaves.sparing_bind heeds_removeMachine hfailed fun _ t' => ?_
  refine Leaves.sparing_bind heeds_deleteCloudService hfailed fun _ t' => ?_
  refine Leaves.sparing_bind (heeds_forM fun _ => heeds_regardless heeds_deleteReleasedDisk)
    hfailed fun _ t' => ?_
  split
  · refine ⟨rfl, fun calls hcalls => .inl ?_⟩
    exact (Except.ok.inj hcalls).symm
  · refine Leaves.tracked_bind fun t'' => (leaves_tellAccounts accounts).mono ?_
    rintro _ _ _ ⟨calls, rfl, htries, rfl⟩
    refine ⟨rfl, fun calls' hcalls => .inr ?_⟩
    rwa [← Except.ok.inj hcalls]

end Client

namespace Operation

/-- **The calls on storage accounts that a call makes**, of the tracked ones and with
what it comes to. -/
inductive Makes (accounts : List String) :
    (op : Operation) → Except Fault op.Answer → List AccountCall → Prop where
  | ensured (affinityGroup name : String) (o : Except Fault Action) :
      Makes accounts (.lifecycle (.ensureStorageAccount affinityGroup name)) o [.ensured name o]
  | deleted (name : String) (o : Except Fault Action) :
      Makes accounts (.lifecycle (.deleteStorageAccount name)) o [.deleted name o]
  /-- A teardown that fails, or of a machine among others. -/
  | keeping (address : String) (o : Except Fault Unit) :
      Makes accounts (.deleteMachineAt address) o []
  /-- A teardown tries every account that was tracked when it came to them. -/
  | trying (address : String) {calls : List AccountCall}
      (htries : AccountCall.TriesEach accounts calls) :
      Makes accounts (.deleteMachineAt address) (.ok ()) calls
  | none {op : Operation} (hspares : op.tendsAccounts = false) (o : Except Fault op.Answer) :
      Makes accounts op o []

/-- **What a call leaves** is what its calls on accounts make of the tracked ones. -/
structure Settles (op : Operation) (accounts : List String) (outcome : Except Fault op.Answer)
    (calls : List AccountCall) (accounts' : List String) : Prop where
  makes : op.Makes accounts outcome calls
  settled : accounts' = calls.foldl AccountCall.settle accounts

variable {op : Operation} {outcome : Except Fault op.Answer} {calls : List AccountCall}
variable {accounts' : List String}

/-- A call that fails leaves the tracked accounts as they are. -/
theorem Settles.eq_of_error {fault : Fault}
    (h : op.Settles accounts outcome calls accounts') (hfault : outcome = .error fault) :
    accounts' = accounts := by
  obtain ⟨hmakes, rfl⟩ := h
  subst hfault
  cases hmakes <;> rfl

/-- So does every call that has nothing to do with accounts. -/
theorem Settles.eq_of_spares (h : op.Settles accounts outcome calls accounts')
    (hspares : op.tendsAccounts = false) : accounts' = accounts := by
  obtain ⟨hmakes, rfl⟩ := h
  cases hmakes with
  | none => rfl
  | ensured | deleted | keeping | trying => cases hspares

/-- **A call leaves the accounts so**, whatever it is answered. -/
theorem leaves_tell (op : Operation) :
    (op.tell c deadline).Leaves (fun o _ accounts' => ∃ outcome calls, o = .ok (outcome, calls) ∧
      op.Settles accounts outcome calls accounts') t accounts := by
  unfold tell
  split
  case h_1 affinityGroup name =>
    refine Leaves.bind (Leaves.attempt (Client.leaves_ensureStorageAccount.mono ?_))
    rintro o t' _ rfl
    exact ⟨o, _, rfl, .ensured affinityGroup name o, rfl⟩
  case h_2 name =>
    refine Leaves.bind (Leaves.attempt (Client.leaves_deleteStorageAccount.mono ?_))
    rintro o t' _ rfl
    exact ⟨o, _, rfl, .deleted name o, rfl⟩
  case h_3 address =>
    refine Leaves.bind (Leaves.attempt (Client.leaves_tellMachineAt.mono ?_))
    rintro o t' _ ⟨rfl, htries⟩
    cases o with
    | ok calls =>
      refine ⟨.ok (), calls, rfl, ?_, rfl⟩
      rcases htries calls rfl with rfl | htries
      · exact .keeping address _
      · exact .trying address htries
    | error fault => exact ⟨.error fault, [], rfl, .keeping address _, rfl⟩
  case h_4 hensure hdelete hteardown =>
    -- the other operations are told to spare the accounts by their text
    have hspares : op.tendsAccounts = false := by
      unfold tendsAccounts
      split
      · exact absurd rfl (hensure _ _)
      · exact absurd rfl (hdelete _)
      · exact absurd rfl (hteardown _)
      · rfl
    refine Leaves.bind (Leaves.attempt (Leaves.of_sparing
      (Client.sparing_operation hspares t) fun o t' => ?_))
    exact ⟨o, [], rfl, .none hspares o, rfl⟩

end Operation

/-! ## One call after the other -/

/-- **What is known of a call that was made**: what it came to, the calls on storage
accounts that it made, and what was tracked after it. -/
structure Report where
  op : Operation
  outcome : Except Fault op.Answer
  calls : List AccountCall
  tracked : List String

/-- What is seen of a call by who makes it, and then looks at the tracked accounts. -/
abbrev Observation := ((op : Operation) × Except Fault op.Answer) × List String

/-- What a report tells that is seen anyway. -/
def Report.observation (r : Report) : Observation := (⟨r.op, r.outcome⟩, r.tracked)

namespace Operation

/-- Make a call, and look at the tracked accounts. -/
def observe (c : Client) (x : Operation × Deadline) : Call Observation := do
  let outcome ← (x.1.run c x.2).attempt
  return (⟨x.1, outcome⟩, ← tracked)

/-- The same, with the call told. -/
def report (c : Client) (x : Operation × Deadline) : Call Report := do
  let (outcome, calls) ← x.1.tell c x.2
  return { op := x.1, outcome, calls, tracked := ← tracked }

/-- **A session**: calls one after the other, whatever comes of each. -/
def session (c : Client) (ops : List (Operation × Deadline)) : Call (List Observation) :=
  ops.mapM (observe c)

/-- The same session, with its calls told. -/
def reports (c : Client) (ops : List (Operation × Deadline)) : Call (List Report) :=
  ops.mapM (report c)

variable {x : Operation × Deadline} {ops : List (Operation × Deadline)}

theorem reports_cons :
    reports c (x :: ops) = (report c x).bind fun r =>
      (reports c ops).bind fun rs => done (r :: rs) := by
  rw [reports, List.mapM_cons]
  rfl

theorem map_report : Report.observation <$> report c x = observe c x := by
  rw [observe, ← map_fst_tell]
  simp only [report, map_eq_pure_bind, bind_eq, pure_eq, Workflow.bind_assoc, done_bind]
  rfl

theorem map_reports : List.map Report.observation <$> reports c ops = session c ops := by
  induction ops with
  | nil => rfl
  | cons x rest ih =>
    rw [session, List.mapM_cons, ← map_report]
    rw [session] at ih
    rw [← ih, reports_cons]
    simp only [map_eq_pure_bind, bind_eq, pure_eq, Workflow.bind_assoc, done_bind, List.map_cons]

end Operation

namespace Report

/-- The accounts that are tracked after calls, of those that were before. -/
def trackedAfter (accounts : List String) (rs : List Report) : List String :=
  (rs.getLast?.map (·.tracked)).getD accounts

/-- **Each call leaves what its report tells**, of what the one before has left. -/
inductive Chain : List String → List Report → Prop where
  | nil (accounts : List String) : Chain accounts []
  | cons {accounts : List String} {r : Report} {rs : List Report}
      (hsettles : r.op.Settles accounts r.outcome r.calls r.tracked)
      (hrest : Chain r.tracked rs) : Chain accounts (r :: rs)

variable {r : Report} {rs before after : List Report}

theorem trackedAfter_cons : trackedAfter accounts (r :: rs) = trackedAfter r.tracked rs := by
  rw [trackedAfter, trackedAfter, List.getLast?_cons]
  cases rs.getLast? <;> rfl

theorem Chain.settles (h : Chain accounts (before ++ r :: after)) :
    r.op.Settles (trackedAfter accounts before) r.outcome r.calls r.tracked := by
  induction before generalizing accounts with
  | nil =>
    cases h with
    | cons hsettles _ => exact hsettles
  | cons r' rest ih =>
    cases h with
    | cons _ hrest =>
      rw [trackedAfter_cons]
      exact ih hrest

theorem Chain.of_append (h : Chain accounts (before ++ after)) : Chain accounts before := by
  induction before generalizing accounts with
  | nil => exact .nil accounts
  | cons r rest ih =>
    cases h with
    | cons hsettles hrest => exact .cons hsettles (ih hrest)

/-- What is tracked after calls is what all their calls on accounts leave. -/
theorem Chain.trackedAfter_eq (h : Chain accounts rs) :
    trackedAfter accounts rs = (rs.flatMap (·.calls)).foldl AccountCall.settle accounts := by
  induction h with
  | nil => rfl
  | cons hsettles _ ih =>
    rw [trackedAfter_cons, ih, hsettles.settled, List.flatMap_cons, List.foldl_append]

/-- **What is tracked at a call** is what all calls on accounts up to it leave. -/
theorem Chain.tracked_eq (h : Chain accounts (before ++ r :: after)) :
    r.tracked = ((before ++ [r]).flatMap (·.calls)).foldl AccountCall.settle accounts := by
  rw [List.append_cons] at h
  rw [← h.of_append.trackedAfter_eq, trackedAfter, List.getLast?_concat]
  rfl

end Report

/-- **The calls of a session leave a chain of reports.** -/
theorem Operation.leaves_reports {ops : List (Operation × Deadline)} :
    (reports c ops).Leaves (fun o _ accounts' => ∃ rs, o = .ok rs ∧
      rs.map (·.op) = ops.map (·.1) ∧ Report.Chain accounts rs ∧
      accounts' = Report.trackedAfter accounts rs) t accounts := by
  induction ops generalizing t accounts with
  | nil => exact ⟨[], rfl, rfl, .nil accounts, rfl⟩
  | cons x rest ih =>
    rw [reports_cons, report]
    simp only [bind_eq, pure_eq, Workflow.bind_assoc, done_bind]
    -- what the first call leaves is what the others start from
    refine Leaves.bind ((leaves_tell x.1).mono ?_)
    rintro _ t' accounts' ⟨outcome, calls, rfl, hsettles⟩
    refine Leaves.tracked_bind fun t'' => Leaves.bind (ih.mono ?_)
    rintro _ t₃ accounts'' ⟨rs, rfl, hops, hchain, rfl⟩
    refine ⟨⟨x.1, outcome, calls, accounts'⟩ :: rs, rfl, ?_, .cons hsettles hchain, ?_⟩
    · rw [List.map_cons, List.map_cons, hops]
    · rw [Report.trackedAfter_cons]

/-- **The tracked accounts follow the outcomes** at every call of a session. -/
structure Report.TracksOutcomes (rs : List Report) : Prop where
  /-- An account is tracked if some call has made it, and none after that has deleted
  it, or found it gone. -/
  tracked_iff : ∀ {before r after}, rs = before ++ r :: after → ∀ account,
    account ∈ r.tracked ↔ AccountCall.Remains account ((before ++ [r]).flatMap (·.calls))
  /-- The calls on accounts are those that the call makes by its text. -/
  makes : ∀ {before r after}, rs = before ++ r :: after →
    r.op.Makes (trackedAfter [] before) r.outcome r.calls
  failed : ∀ {before r after}, rs = before ++ r :: after →
    ∀ fault, r.outcome = .error fault → r.tracked = trackedAfter [] before
  spared : ∀ {before r after}, rs = before ++ r :: after →
    r.op.tendsAccounts = false → r.tracked = trackedAfter [] before
  /-- Calls on other accounts make no difference to one. -/
  others : ∀ {before r after}, rs = before ++ r :: after → ∀ account,
    (∀ x ∈ r.calls, x.name ≠ account) → (account ∈ r.tracked ↔ account ∈ trackedAfter [] before)
  /-- They are shown in order, each of them once. -/
  ordered : ∀ r ∈ rs, r.tracked.Pairwise (· < ·)

theorem Report.Chain.tracksOutcomes {rs : List Report} (h : Chain [] rs) : TracksOutcomes rs where
  tracked_iff := by
    rintro before r after rfl account
    rw [h.tracked_eq]
    exact AccountCall.mem_foldl_settle_iff
  makes := by
    rintro before r after rfl
    exact h.settles.makes
  failed := by
    rintro before r after rfl fault hfault
    exact h.settles.eq_of_error hfault
  spared := by
    rintro before r after rfl hspares
    exact h.settles.eq_of_spares hspares
  others := by
    rintro before r after rfl account hcalls
    rw [h.settles.settled]
    exact AccountCall.mem_foldl_settle_of_ne hcalls
  ordered := by
    intro r hr
    obtain ⟨before, after, rfl⟩ := List.append_of_mem hr
    rw [h.tracked_eq]
    exact AccountCall.pairwise_foldl_settle .nil

/-- **What is tracked follows the outcomes.** Let a client that tracks nothing yet be
called any number of times, one call after the other, whatever the provider answers.
The session comes to its end, whatever becomes of the calls, and what is tracked after
each of them can be told from the outcomes of the calls on storage accounts; to tell
those makes no difference to the session. -/
theorem Operation.tracked_follow_outcomes {σ : Type}
    {server : Server σ Request (Except Fault Response)} {w : World σ} (haccounts : w.accounts = [])
    (c : Client) (ops : List (Operation × Deadline)) :
    ∃ t rs, ((Schedule.start w [session c ops]).run server).outcomes =
        [(t, .ok (rs.map Report.observation))] ∧
      ((Schedule.start w [reports c ops]).run server).outcomes = [(t, .ok rs)] ∧
      ((Schedule.start w [session c ops]).run server).world.accounts =
        Report.trackedAfter [] rs ∧
      rs.map (·.op) = ops.map (·.1) ∧ Report.TracksOutcomes rs := by
  obtain ⟨t, _, hended, rs, rfl, hops, hchain, haccounts'⟩ :=
    Schedule.exists_ended_of_leaves server w (leaves_reports (c := c))
  rw [haccounts] at hchain haccounts'
  have hsame : (Schedule.start w [session c ops]).run server =
      ((Schedule.start w [reports c ops]).run server).conclude fun _ =>
        Except.map (List.map Report.observation) := by
    rw [← Schedule.run_conclude, ← map_reports, Workflow.map_eq_conclude]
    rfl
  refine ⟨t, rs, ?_, ?_, ?_, hops, hchain.tracksOutcomes⟩
  · rw [hsame, Schedule.outcomes, Schedule.conclude, hended]
    rfl
  · rw [Schedule.outcomes, hended]
    rfl
  · rw [hsame]
    exact haccounts'

/-- A provider with a machine that is alone in its deployment. Of two storage accounts
it deletes only the first. -/
def hoardingScript : Script :=
  let accounts (names : List String) : ScriptedReply :=
    .shows (.obj [("StorageServices", .arr (names.map fun name =>
      .obj [("ServiceName", .str name)]))])
  let deployment : Json := .obj [("Name", .str "b"),
    ("RoleList", .arr [.obj [("RoleName", .str "r")]]),
    ("RoleInstanceList", .arr [.obj [("RoleName", .str "r"), ("IpAddress", .str "a")]])]
  [((.get, Path.storageAccounts), [accounts [], accounts ["s"], accounts ["s", "t"]]),
    ((.post, Path.storageAccounts), [.accepts "1"]),
    ((.delete, Path.storageAccount "s"), [.accepts "1"]),
    ((.delete, Path.storageAccount "t"), [.refuses 500]),
    ((.get, Path.cloudServices),
      [Script.listing ["w"], Script.listing ["w"], Script.listing []]),
    ((.get, Path.cloudServiceDetail "w"),
      [.shows (.obj [("ServiceName", .str "w"), ("Deployments", .arr [deployment])])]),
    ((.get, Path.deployment "w" "b"), [.shows (.obj [("Name", .str "b")])]),
    ((.delete, Path.deployment "w" "b"), [.accepts "1"]),
    Script.operationDone "1"]

/-- The accounts are made and go with the machine. A deletion fails before that, and so
does the teardown of a machine that is not there. -/
def hoarding : List (Operation × Deadline) := [
  (.lifecycle (.ensureStorageAccount "g" "s"), ⟨60000⟩),
  (.lifecycle (.ensureStorageAccount "g" "t"), ⟨60000⟩),
  (.lifecycle (.deleteStorageAccount "t"), ⟨60000⟩),
  (.deleteMachineAt "z", ⟨60000⟩),
  (.deleteMachineAt "a", ⟨60000⟩)]

/-- The session, about to start. -/
def hoardingSession : Schedule Script Request (Except Fault Response) (List Observation) :=
  Schedule.start { server := hoardingScript } [Operation.session plainClient hoarding]

/-- The deletion that was refused leaves its account tracked, in the teardown as before. -/
theorem Operation.tracked_follow_outcomes_hoarding :
    (∃ t rs, (hoardingSession.run Script.respond).outcomes =
        [(t, .ok (rs.map Report.observation))] ∧
      ((Schedule.start { server := hoardingScript } [reports plainClient hoarding]).run
        Script.respond).outcomes = [(t, .ok rs)] ∧
      (hoardingSession.run Script.respond).world.accounts = Report.trackedAfter [] rs ∧
      rs.map (·.op) = hoarding.map (·.1) ∧ Report.TracksOutcomes rs) ∧
    ((hoardingSession.advance Script.respond 60).outcomes.map
      fun x => (x.1, x.2.toOption.map (List.map (·.2)))) =
      [(0, some [["s"], ["s", "t"], ["s", "t"], ["s", "t"], ["t"]])] := by
  refine ⟨?_, by decide +kernel⟩
  exact tracked_follow_outcomes (w := { server := hoardingScript }) rfl plainClient hoarding

end CloudOrchestration
