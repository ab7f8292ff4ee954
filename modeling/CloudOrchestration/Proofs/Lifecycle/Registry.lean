import CloudOrchestration.Proofs.Channel.Yields
import CloudOrchestration.Proofs.Lifecycle.Effects
import Mathlib.Data.Finset.Basic
import Mathlib.Data.Fintype.Pi
/-!
# Names that are kept

Resources of three kinds are kept by name: affinity groups, storage accounts
and cloud services. To those who only create and delete them a provider is three
sets of names (`KeepsNames`), and a call is an insertion or a removal
(`Upkeep.apply`). What the call answers follows from these: its action if the
sets change, and that nothing was to do if they do not (`Upkeep.answer`).
-/

namespace CloudOrchestration

/-- A name that can stand in a path by itself. -/
def Path.IsSegment (name : String) : Prop := name ≠ "" ∧ ∀ ch ∈ name.toList, ch ≠ '/' ∧ ch ≠ '?'

instance {name : String} : Decidable (Path.IsSegment name) :=
  decidable_of_iff (name ≠ "" ∧ name.toList.all fun ch => ch != '/' && ch != '?')
    (by simp [Path.IsSegment])

/-! ## Kinds of resources -/

/-- What is kept by name. -/
inductive ResourceKind where
  | affinityGroup
  | storageAccount
  | cloudService
  deriving DecidableEq, Repr

namespace ResourceKind

instance : Fintype ResourceKind :=
  ⟨{affinityGroup, storageAccount, cloudService}, fun kind => by cases kind <;> simp⟩

/-- Where the resources of a kind are listed, and new ones are ordered. -/
def listing : ResourceKind → String
  | affinityGroup => Path.affinityGroups
  | storageAccount => Path.storageAccounts
  | cloudService => Path.cloudServices

/-- Where a resource lies. -/
def path : ResourceKind → String → String
  | affinityGroup => Path.affinityGroup
  | storageAccount => Path.storageAccount
  | cloudService => Path.cloudService

/-- The names in a listing. -/
def listed (kind : ResourceKind) (body : ByteArray) : Except Fault (List String) :=
  match kind with
  | affinityGroup =>
    (Wire.json.read body).map fun groups : AffinityGroups => groups.items.map (·.name)
  | storageAccount =>
    (Wire.json.read body).map fun accounts : StorageAccounts => accounts.items.map (·.name)
  | cloudService =>
    (Wire.json.read body).map fun services : CloudServices => services.items.map (·.name)

/-- The name in an order for a new resource. -/
def ordered (kind : ResourceKind) (body : ByteArray) : Except Fault String :=
  match kind with
  | affinityGroup => (Wire.json.read body).map fun group : AffinityGroup => group.name
  | storageAccount | cloudService =>
    (Wire.json.read body).map fun order : ServiceOrder => order.name

/-- The request that orders a new resource. -/
def order (kind : ResourceKind) (body : ByteArray) : Request :=
  { method := .post, path := kind.listing, body := some body, contentType := .json }

/-- The request that deletes a resource. -/
def deletion (kind : ResourceKind) (name : String) : Request :=
  { method := .delete, path := kind.path name }

end ResourceKind

/-- The names of what is there, by kind. -/
abbrev Names := ResourceKind → Finset String

namespace Names

def insert (names : Names) (kind : ResourceKind) (name : String) : Names :=
  Function.update names kind (Insert.insert name (names kind))

def erase (names : Names) (kind : ResourceKind) (name : String) : Names :=
  Function.update names kind ((names kind).erase name)

variable {names : Names} {kind : ResourceKind} {name : String}

theorem mem_insert {k : ResourceKind} {n : String} :
    n ∈ names.insert kind name k ↔ k = kind ∧ n = name ∨ n ∈ names k := by
  by_cases hk : k = kind
  · subst hk
    simp [insert]
  · simp [insert, hk]

theorem mem_erase {k : ResourceKind} {n : String} :
    n ∈ names.erase kind name k ↔ ¬ (k = kind ∧ n = name) ∧ n ∈ names k := by
  by_cases hk : k = kind
  · subst hk
    simp [erase]
  · simp [erase, hk]

theorem insert_eq_self_iff : names.insert kind name = names ↔ name ∈ names kind := by
  rw [insert, Function.update_eq_self_iff, Finset.insert_eq_self]

theorem erase_eq_self_iff : names.erase kind name = names ↔ name ∉ names kind := by
  rw [erase, Function.update_eq_self_iff, Finset.erase_eq_self]

end Names

/-! ## Providers -/

/-- **A provider that keeps sets of names.** Its listings show them. An order for
a name that is not held, or the deletion of one that is, is accepted and carried
out at once. Cloud services are set up and hold no deployment. -/
structure KeepsNames {σ : Type} (server : Server σ Request (Except Fault Response))
    (names : σ → Names) : Prop where
  /-- Reading changes nothing. -/
  kept (s : σ) (path : String) : names (server s (.read path)).server = names s
  lists (s : σ) (kind : ResourceKind) :
    ∃ r listed, (server s (.read kind.listing)).answer = .ok r ∧ r.isSuccess ∧
      kind.listed r.body = .ok listed ∧ ∀ name, name ∈ listed ↔ name ∈ names s kind
  inserts {s : σ} {kind : ResourceKind} {body : ByteArray} {name : String}
    (hordered : kind.ordered body = .ok name) (hsegment : Path.IsSegment name)
    (hnew : name ∉ names s kind) :
    Wire.json.Accepts server s (kind.order body) ∧
      names (server s (kind.order body)).server = (names s).insert kind name
  erases {s : σ} {kind : ResourceKind} {name : String} (hsegment : Path.IsSegment name)
    (hheld : name ∈ names s kind) :
    Wire.json.Accepts server s (kind.deletion name) ∧
      names (server s (kind.deletion name)).server = (names s).erase kind name
  created {s : σ} {name : String} (hsegment : Path.IsSegment name)
    (hheld : name ∈ names s .cloudService) :
    Wire.json.Shows server s (Path.cloudService name)
      fun service : CloudService => service.status = CloudService.created
  vacant {s : σ} {name slot : String} (hsegment : Path.IsSegment name)
    (hheld : name ∈ names s .cloudService)
    (hslot : slot ∈ [Deployment.production, Deployment.staging]) :
    Wire.json.Lacks server s (Path.slot name slot)

/-! ## Calls -/

/-- A call that is to have a resource there, or not there. -/
inductive Upkeep where
  /-- A new one is made at a location, or else in an affinity group. -/
  | ensure (kind : ResourceKind) (name place : String)
  | delete (kind : ResourceKind) (name : String)
  deriving DecidableEq, Repr

namespace Upkeep

def kind : Upkeep → ResourceKind
  | ensure kind _ _ | delete kind _ => kind

def name : Upkeep → String
  | ensure _ name _ | delete _ name => name

/-- The call itself. -/
def call : Upkeep → LifecycleCall
  | ensure .affinityGroup name place => .ensureAffinityGroup name place
  | ensure .storageAccount name place => .ensureStorageAccount place name
  | ensure .cloudService name place => .ensureCloudService place name
  | delete .affinityGroup name => .deleteAffinityGroup name
  | delete .storageAccount name => .deleteStorageAccount name
  | delete .cloudService name => .deleteCloudService name

/-- What a call makes of the names. -/
def apply : Upkeep → Names → Names
  | ensure kind name _, names => names.insert kind name
  | delete kind name, names => names.erase kind name

/-- What a call answers that changes something. -/
def action : Upkeep → Action
  | ensure _ _ _ => .create
  | delete _ _ => .delete

/-- **What a call answers**: its action if it changes the names. -/
def answer (u : Upkeep) (names : Names) : Action :=
  if u.apply names = names then .unchanged else u.action

theorem apply_ensure_eq_iff {kind : ResourceKind} {name place : String} {names : Names} :
    (ensure kind name place).apply names = names ↔ name ∈ names kind := Names.insert_eq_self_iff

theorem apply_delete_eq_iff {kind : ResourceKind} {name : String} {names : Names} :
    (delete kind name).apply names = names ↔ name ∉ names kind := Names.erase_eq_self_iff

theorem answer_ensure {kind : ResourceKind} {name place : String} {names : Names} :
    (ensure kind name place).answer names = if name ∈ names kind then .unchanged else .create :=
  if_congr apply_ensure_eq_iff rfl rfl

theorem answer_delete {kind : ResourceKind} {name : String} {names : Names} :
    (delete kind name).answer names = if name ∈ names kind then .delete else .unchanged := by
  rw [← ite_not]
  exact if_congr apply_delete_eq_iff rfl rfl

/-- What a call with an answer makes of the tracked accounts: an account that it
has made is tracked, one that it was to delete is not. -/
def settle : Upkeep → Action → List String → List String
  | ensure .storageAccount name _, .create, accounts => insertName name accounts
  | delete .storageAccount name, _, accounts => accounts.filter (· != name)
  | _, _, accounts => accounts

/-- What calls make of the names, one after the other. -/
def applyAll (names : Names) (calls : List Upkeep) : Names :=
  calls.foldl (fun names u => u.apply names) names

/-- What calls answer, one after the other. -/
def answers : Names → List Upkeep → List Action
  | _, [] => []
  | names, u :: rest => u.answer names :: answers (u.apply names) rest

/-- Whether a call with an answer has changed a storage account. -/
def changesAccount (account : String) (x : Upkeep × Action) : Bool :=
  x.1.kind = .storageAccount && x.1.name = account && x.2.isChange

/-- **The latest change** of a storage account, of calls and their answers. -/
def latestChange (account : String) (done : List (Upkeep × Action)) : Option Action :=
  (done.filter (changesAccount account)).getLast?.map (·.2)

/-- **Calls one after the other**, each with its deadline, and what they answer;
at the end a look at the accounts that are tracked. -/
def session (c : Client) (calls : List (Upkeep × Deadline)) :
    Call (List Action × List String) := do
  let actions ← calls.mapM fun x => x.1.call.run c x.2
  let accounts ← Workflow.tracked
  pure (actions, accounts)

end Upkeep

end CloudOrchestration
