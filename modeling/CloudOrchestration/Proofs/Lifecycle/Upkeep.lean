import CloudOrchestration.Proofs.Document.Resources
import CloudOrchestration.Proofs.Lifecycle.Registry
/-!
# Calls as operations on sets

Alone with a provider that keeps sets of names, every call that is to have a
resource there, or not there, comes to its end (`Upkeep.does_call`). It looks at
the listing, asks for the one change that is missing, if one is, and then only
looks again. The three kinds share the look, the creation and the removal; what is
particular to one is that accounts are tracked, that a new cloud service is waited
for, and that the slots of one that is to go are looked at first.
-/

namespace CloudOrchestration

open Workflow Channel Document

variable {σ α : Type} {server : Server σ Request (Except Fault Response)} {names : σ → Names}
variable {w w' : World σ} {c : Client} {deadline : Deadline} {kind : ResourceKind}
variable {name place : String}

/-! ## Requests and the names -/

/-- A search of a listing for a name. -/
theorem any_name_eq_decide {items : List α} {nameOf : α → String} {held : Finset String}
    (h : ∀ name, name ∈ items.map nameOf ↔ name ∈ held) (name : String) :
    items.any (nameOf · == name) = decide (name ∈ held) := by
  rw [Bool.eq_iff_iff, List.any_eq_true, decide_eq_true_iff, ← h, List.mem_map]
  simp

/-- **An order is read as it was meant.** -/
theorem ResourceKind.exists_ordered [Document α] {depth : Nat} {a : α} (h : Survives depth a)
    (hle : depth ≤ Json.maxDepth) (nameOf : α → String)
    (hordered : ∀ body, kind.ordered body = (Wire.json.read body).map nameOf) :
    ∃ body, Wire.json.write a = .ok body ∧ kind.ordered body = .ok (nameOf a) := by
  obtain ⟨body, hwrite, hread⟩ := h.json hle
  exact ⟨body, hwrite, by rw [hordered, hread]; rfl⟩

namespace KeepsNames

/-- **A listing shows the names that are held**, then and afterwards. -/
theorem shows_listing {key : String} [Document α] {nameOf : α → String}
    (hkeeps : KeepsNames server names) (kind : ResourceKind) (s : σ)
    (hlisted : ∀ body, kind.listed body =
      (Wire.json.read body).map fun l : Listing key α => l.items.map nameOf) :
    Wire.json.Shows server s kind.listing fun l : Listing key α =>
      ∀ name, l.items.any (nameOf · == name) =
        decide (name ∈ names (server s (.read kind.listing)).server kind) := by
  obtain ⟨r, listed, hanswer, hsuccess, hbody, hnames⟩ := hkeeps.lists s kind
  rw [hlisted] at hbody
  cases hread : (Wire.json.read r.body : Except Fault (Listing key α)) with
  | error fault => simp [hread, Except.map] at hbody
  | ok l =>
    simp only [hread, Except.map, Except.ok.injEq] at hbody
    subst hbody
    rw [hkeeps.kept]
    exact ⟨r, l, hanswer, hsuccess, hread, any_name_eq_decide hnames⟩

variable (hkeeps : KeepsNames server names)
include hkeeps

/-- Reading leaves the names as they are. -/
theorem names_asking_read (path : String) :
    names (w.asking server (.read path)).server = names w.server := hkeeps.kept _ _

/-! ## Looks -/

section Looks

variable (hwire : c.wire = .json) (w deadline)
include hwire

/-- A look at a listing. -/
theorem exists_yields_listing {key : String} [Document α] {nameOf : α → String}
    (kind : ResourceKind)
    (hlisted : ∀ body, kind.listed body =
      (Wire.json.read body).map fun l : Listing key α => l.items.map nameOf) :
    ∃ l : Listing key α,
      Yields server w (c.channel.get kind.listing deadline) 0 l
        (w.asking server (.read kind.listing)) ∧
      ∀ name, l.items.any (nameOf · == name) =
        decide (name ∈ names (w.asking server (.read kind.listing)).server kind) := by
  have hshows := hkeeps.shows_listing kind w.server hlisted
  rw [← hwire] at hshows
  obtain ⟨l, hshown, hget⟩ := exists_yields_get (c := c.channel) hshows
  exact ⟨l, hget, hshown⟩

/-- A cloud service that is held is set up. -/
theorem yields_awaitCreated (hsegment : Path.IsSegment name)
    (hheld : name ∈ names w.server .cloudService) :
    Yields server w (c.awaitCreated name deadline) 0 ()
      (w.asking server (.read (Path.cloudService name))) := by
  have hshows := hkeeps.created hsegment hheld
  rw [← hwire] at hshows
  obtain ⟨service, hstatus, hget⟩ := exists_yields_getOptional (c := c.channel) hshows
  refine yields_awaitState (hget.look_bind (yields_done _)) ?_
  have hlabelled : service.labelled.status = service.status := rfl
  simp [Client.createdReadiness, hlabelled, hstatus]

/-- A cloud service that is held has empty slots. -/
theorem exists_yields_isOccupied (hsegment : Path.IsSegment name)
    (hheld : name ∈ names w.server .cloudService) {slots : List String}
    (hslots : ∀ slot ∈ slots, slot ∈ [Deployment.production, Deployment.staging]) :
    ∃ w', Yields server w (c.isOccupied name deadline slots) 0 false w' ∧
      names w'.server = names w.server ∧ w'.accounts = w.accounts := by
  induction slots generalizing w with
  | nil => exact ⟨w, yields_done false, rfl, rfl⟩
  | cons slot rest ih =>
    have hlacks := hkeeps.vacant hsegment hheld (hslots slot List.mem_cons_self)
    rw [← hwire] at hlacks
    have hnames := hkeeps.names_asking_read (w := w) (Path.slot name slot)
    obtain ⟨w', hyields, hnames', haccounts⟩ := ih (w.asking server (.read (Path.slot name slot)))
      (hnames ▸ hheld) fun s hs => hslots s (List.mem_cons_of_mem _ hs)
    refine ⟨w', ?_, hnames'.trans hnames, haccounts⟩
    have hslot : Yields server w (c.deploymentInSlot? name slot deadline) 0 none
        (w.asking server (.read (Path.slot name slot))) :=
      (yields_getOptional_none (c := c.channel) hlacks).look_bind (yields_done none)
    exact hslot.look_bind hyields

end Looks

/-! ## Changes -/

section Changes

variable (hwire : c.wire = .json) (hsegment : Path.IsSegment name)
include hwire hsegment

/-- **What is ordered is there.** -/
theorem exists_yields_create [Document α] {a : α} (kind : ResourceKind)
    (hnew : name ∉ names w.server kind)
    (hordered : ∃ body, Wire.json.write a = .ok body ∧ kind.ordered body = .ok name) :
    ∃ w', Yields server w (c.channel.create kind.listing a deadline) 1 () w' ∧
      names w'.server = (names w.server).insert kind name ∧ w'.accounts = w.accounts := by
  obtain ⟨settings, wire⟩ := c
  cases hwire
  obtain ⟨body, hwrite, hordered⟩ := hordered
  obtain ⟨haccepts, hnames⟩ := hkeeps.inserts hordered hsegment hnew
  obtain ⟨id, hyields⟩ := Channel.exists_yields_create (c := (Client.mk settings .json).channel)
    hwrite haccepts
  exact ⟨_, hyields, (hkeeps.names_asking_read _).trans hnames, rfl⟩

/-- **What is deleted is not there.** -/
theorem exists_yields_remove (kind : ResourceKind) (hheld : name ∈ names w.server kind) :
    ∃ w', Yields server w (c.channel.remove (kind.path name) deadline) 1 () w' ∧
      names w'.server = (names w.server).erase kind name ∧ w'.accounts = w.accounts := by
  obtain ⟨settings, wire⟩ := c
  cases hwire
  obtain ⟨haccepts, hnames⟩ := hkeeps.erases hsegment hheld
  obtain ⟨id, hyields⟩ := Channel.exists_yields_remove (c := (Client.mk settings .json).channel)
    haccepts
  exact ⟨_, hyields, (hkeeps.names_asking_read _).trans hnames, rfl⟩

end Changes

end KeepsNames

/-! ## Calls -/

namespace Upkeep

variable {u : Upkeep} {look : Call α} {accounts : List String}

/-- **A call does its work**: it answers as it should, with a request for a change
just if the names change, and leaves these and the tracked accounts so. -/
def Does (u : Upkeep) (server : Server σ Request (Except Fault Response)) (names : σ → Names)
    (w : World σ) (call : Call Action) (accounts : List String) : Prop :=
  ∃ w', Yields server w call (u.answer (names w.server)).isChange.toNat
      (u.answer (names w.server)) w' ∧
    names w'.server = u.apply (names w.server) ∧ w'.accounts = accounts

/-- Nothing is to do. -/
theorem does_unchanged (hsame : u.apply (names w.server) = names w.server) :
    u.Does server names w (done .unchanged) w.accounts := by
  have hanswer : u.answer (names w.server) = .unchanged := if_pos hsame
  rw [Does, hanswer]
  exact ⟨w, yields_done _, hsame.symm, rfl⟩

/-- What is to be done is done, unless it is done already. -/
theorem does_unlessDone {isDone : Bool} {change : Call Unit}
    (hdone : isDone = decide (u.apply (names w.server) = names w.server))
    (hsame : u.apply (names w.server) = names w.server → w.accounts = accounts)
    (hchange : u.apply (names w.server) ≠ names w.server → ∃ w', Yields server w change 1 () w' ∧
      names w'.server = u.apply (names w.server) ∧ w'.accounts = accounts) :
    u.Does server names w (Client.unlessDone isDone u.action change) accounts := by
  subst hdone
  by_cases heq : u.apply (names w.server) = names w.server
  · rw [decide_eq_true heq, ← hsame heq]
    exact does_unchanged heq
  · have hanswer : u.answer (names w.server) = u.action := if_neg heq
    have hcount : u.action.isChange.toNat = 1 := by cases u <;> rfl
    obtain ⟨w', hyields, hnames, haccounts⟩ := hchange heq
    rw [Does, hanswer, hcount]
    refine ⟨w', ?_, hnames, haccounts⟩
    simpa [Client.unlessDone, heq] using hyields.bind_look (yields_done u.action)

/-- A look first. -/
theorem does_look {f : α → Call Action} {a : α} (hlook : Yields server w look 0 a w')
    (hnames : names w'.server = names w.server) (hf : u.Does server names w' (f a) accounts) :
    u.Does server names w (look.bind f) accounts := by
  obtain ⟨w'', hyields, hnames', haccounts⟩ := hf
  rw [hnames] at hyields hnames'
  exact ⟨w'', hlook.look_bind hyields, hnames', haccounts⟩

/-- More that asks for no change and answers the same. -/
theorem Does.followed {call : Call Action} {f : Action → Call Action} {accounts' : List String}
    (hcall : u.Does server names w call accounts)
    (hf : ∀ w', names w'.server = u.apply (names w.server) → w'.accounts = accounts →
      ∃ w'', Yields server w' (f (u.answer (names w.server))) 0 (u.answer (names w.server)) w'' ∧
        names w''.server = names w'.server ∧ w''.accounts = accounts') :
    u.Does server names w (call.bind f) accounts' := by
  obtain ⟨w', hyields, hnames, haccounts⟩ := hcall
  obtain ⟨w'', hyields', hnames', haccounts'⟩ := hf w' hnames haccounts
  exact ⟨w'', hyields.bind_look hyields', hnames'.trans hnames, haccounts'⟩

section Calls

variable (hkeeps : KeepsNames server names) (hwire : c.wire = .json)
variable (hsegment : Path.IsSegment name)
include hkeeps hwire hsegment

/-- A resource is made, unless it is there. -/
theorem does_create [Document α] (kind : ResourceKind) {a : α} {isDone : Bool}
    (hdone : isDone = decide (name ∈ names w.server kind))
    (hordered : ∃ body, Wire.json.write a = .ok body ∧ kind.ordered body = .ok name) :
    (ensure kind name place).Does server names w
      (Client.unlessDone isDone .create (c.channel.create kind.listing a deadline)) w.accounts := by
  refine does_unlessDone ?_ (fun _ => rfl) fun hchange => ?_
  · simpa only [apply_ensure_eq_iff] using hdone
  · exact hkeeps.exists_yields_create hwire hsegment kind (mt apply_ensure_eq_iff.2 hchange)
      hordered

/-- A resource is deleted, unless it is not there. -/
theorem does_remove (kind : ResourceKind) {isDone : Bool}
    (hdone : isDone = !decide (name ∈ names w.server kind)) :
    (delete kind name).Does server names w
      (Client.unlessDone isDone .delete (c.channel.remove (kind.path name) deadline))
      w.accounts := by
  refine does_unlessDone ?_ (fun _ => rfl) fun hchange => ?_
  · simpa only [apply_delete_eq_iff, decide_not] using hdone
  · exact hkeeps.exists_yields_remove hwire hsegment kind
      (Decidable.not_not.1 (mt apply_delete_eq_iff.2 hchange))

theorem does_ensureAffinityGroup :
    (ensure .affinityGroup name place).Does server names w
      (c.ensureAffinityGroup name place deadline) w.accounts := by
  obtain ⟨groups, hlook, hgroups⟩ :=
    hkeeps.exists_yields_listing w deadline hwire .affinityGroup fun _ => rfl
  refine does_look hlook (hkeeps.names_asking_read _) ?_
  exact does_create hkeeps hwire hsegment .affinityGroup (hgroups name)
    (ResourceKind.exists_ordered (AffinityGroup.faithful.survives _) (by decide)
      AffinityGroup.name fun _ => rfl)

theorem does_deleteAffinityGroup :
    (delete .affinityGroup name).Does server names w (c.deleteAffinityGroup name deadline)
      w.accounts := by
  obtain ⟨groups, hlook, hgroups⟩ :=
    hkeeps.exists_yields_listing w deadline hwire .affinityGroup fun _ => rfl
  refine does_look hlook (hkeeps.names_asking_read _) ?_
  exact does_remove hkeeps hwire hsegment .affinityGroup (congrArg (! ·) (hgroups name))

/-- An account that was made is tracked. -/
theorem does_ensureStorageAccount :
    (ensure .storageAccount name place).Does server names w
      (c.ensureStorageAccount place name deadline)
      ((ensure .storageAccount name place).settle
        ((ensure .storageAccount name place).answer (names w.server)) w.accounts) := by
  obtain ⟨accounts, hlook, haccounts⟩ :=
    hkeeps.exists_yields_listing w deadline hwire .storageAccount fun _ => rfl
  have hnames := hkeeps.names_asking_read (w := w) ResourceKind.storageAccount.listing
  refine does_look hlook hnames (does_unlessDone ?_ (fun hsame => ?_) fun hchange => ?_)
  · refine (haccounts name).trans ?_
    simp only [apply_ensure_eq_iff]
  · rw [hnames] at hsame
    rw [answer, if_pos hsame]
    rfl
  · obtain ⟨w', hyields, hnames', htracked⟩ :=
      hkeeps.exists_yields_create hwire hsegment .storageAccount
        (mt apply_ensure_eq_iff.2 hchange)
        (ResourceKind.exists_ordered (ServiceOrder.faithful.survives ⟨name, name, place⟩)
          (by decide) ServiceOrder.name fun _ => rfl)
    rw [hnames] at hchange
    refine ⟨_, hyields.bind_look (yields_effect (.track name) rfl), hnames', ?_⟩
    rw [answer, if_neg hchange]
    exact congrArg (insertName name) htracked

/-- An account that was to be deleted is not tracked, whether it was there or
not. -/
theorem does_deleteStorageAccount :
    (delete .storageAccount name).Does server names w (c.deleteStorageAccount name deadline)
      (w.accounts.filter (· != name)) := by
  obtain ⟨accounts, hlook, haccounts⟩ :=
    hkeeps.exists_yields_listing w deadline hwire .storageAccount fun _ => rfl
  refine does_look hlook (hkeeps.names_asking_read _) ?_
  refine (does_remove hkeeps hwire hsegment .storageAccount
    (congrArg (! ·) (haccounts name))).followed fun w' _ htracked => ?_
  refine ⟨_, (yields_effect (.untrack name) rfl).bind_look (yields_done _), rfl, ?_⟩
  rw [htracked]
  rfl

theorem does_submitCloudService :
    (ensure .cloudService name place).Does server names w
      (c.submitCloudService place name deadline) w.accounts := by
  obtain ⟨services, hlook, hservices⟩ :=
    hkeeps.exists_yields_listing w deadline hwire .cloudService fun _ => rfl
  refine does_look hlook (hkeeps.names_asking_read _) ?_
  exact does_create hkeeps hwire hsegment .cloudService (hservices name)
    (ResourceKind.exists_ordered (ServiceOrder.faithful.survives _) (by decide)
      ServiceOrder.name fun _ => rfl)

/-- A cloud service that was made is set up. -/
theorem does_ensureCloudService :
    (ensure .cloudService name place).Does server names w
      (c.ensureCloudService place name deadline) w.accounts := by
  refine (does_submitCloudService hkeeps hwire hsegment).followed fun w' hnames haccounts => ?_
  split
  · have hheld : name ∈ names w'.server .cloudService := by
      rw [hnames]
      exact Names.mem_insert.2 (.inl ⟨rfl, rfl⟩)
    exact ⟨_, (hkeeps.yields_awaitCreated w' deadline hwire hsegment hheld).bind_look
      (yields_done _), hkeeps.names_asking_read _, haccounts⟩
  · exact ⟨w', yields_done _, rfl, haccounts⟩

/-- A cloud service that is held is deleted, for its slots are empty. -/
theorem does_deleteCloudService :
    (delete .cloudService name).Does server names w (c.deleteCloudService name deadline)
      w.accounts := by
  obtain ⟨services, hlook, hservices⟩ :=
    hkeeps.exists_yields_listing w deadline hwire .cloudService fun _ => rfl
  refine does_look hlook (hkeeps.names_asking_read _) ?_
  change Does _ server names _ _
    (w.asking server (.read ResourceKind.cloudService.listing)).accounts
  generalize w.asking server (.read ResourceKind.cloudService.listing) = w at hservices ⊢
  have hlisted : CloudServices.contains services name =
      decide (name ∈ names w.server .cloudService) := hservices name
  by_cases hheld : name ∈ names w.server .cloudService
  · obtain ⟨w', hvacant, hnames, haccounts⟩ := hkeeps.exists_yields_isOccupied w deadline hwire
      hsegment hheld fun _ hslot => hslot
    have hdone : false = !decide (name ∈ names w'.server .cloudService) := by simp [hnames, hheld]
    simp only [hlisted, decide_eq_true hheld]
    refine does_look hvacant hnames ?_
    rw [← haccounts]
    exact does_remove hkeeps hwire hsegment .cloudService hdone
  · simp only [hlisted, decide_eq_false hheld]
    exact does_unchanged (apply_delete_eq_iff.2 hheld)

/-- **Every call does its work.** -/
theorem does_call (deadline : Deadline) (u : Upkeep) (hname : u.name = name) :
    u.Does server names w (u.call.run c deadline)
      (u.settle (u.answer (names w.server)) w.accounts) := by
  subst hname
  cases u with
  | ensure kind name place =>
    cases kind with
    | affinityGroup => exact does_ensureAffinityGroup hkeeps hwire hsegment
    | storageAccount => exact does_ensureStorageAccount hkeeps hwire hsegment
    | cloudService => exact does_ensureCloudService hkeeps hwire hsegment
  | delete kind name =>
    cases kind with
    | affinityGroup => exact does_deleteAffinityGroup hkeeps hwire hsegment
    | storageAccount => exact does_deleteStorageAccount hkeeps hwire hsegment
    | cloudService => exact does_deleteCloudService hkeeps hwire hsegment

end Calls

end Upkeep

end CloudOrchestration
