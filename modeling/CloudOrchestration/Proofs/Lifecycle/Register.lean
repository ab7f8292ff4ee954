import CloudOrchestration.Proofs.Client.Paths
import CloudOrchestration.Proofs.Client.Scripts
import CloudOrchestration.Proofs.Document.Deployments
import CloudOrchestration.Proofs.Document.Reports
import CloudOrchestration.Proofs.Document.Resources
import CloudOrchestration.Proofs.Lifecycle.Registry
/-!
# A register

A provider that has lists of names, shows them, adds what is ordered and drops
what is deleted. It is one that keeps sets of names (`Register.keepsNames`), for
the path of a resource tells its kind and its name.
-/

namespace CloudOrchestration

open Document

/-! ## Paths of resources -/

namespace ResourceKind

variable {kind kind' : ResourceKind} {name name' : String}

theorem path_eq (kind : ResourceKind) (name : String) :
    kind.path name = kind.listing ++ "/" ++ name := by
  cases kind <;> rfl

/-- The letter by which the paths of the kinds can be told apart. -/
def letter (kind : ResourceKind) : Option Char := kind.listing.toList[10]?

theorem letter_injective (h : kind.letter = kind'.letter) : kind = kind' := by
  revert h
  cases kind <;> cases kind' <;> decide

theorem getElem?_path : (kind.path name).toList[10]? = kind.letter := by
  have hlong : 10 < kind.listing.toList.length := by cases kind <;> decide
  rw [path_eq, String.toList_append, String.toList_append, List.append_assoc,
    List.getElem?_append_left hlong, letter]

/-- **The path of a resource tells its kind and its name.** -/
theorem path_eq_path_iff : kind.path name = kind'.path name' ↔ kind = kind' ∧ name = name' := by
  constructor
  · intro h
    have hkind : kind = kind' := letter_injective (by rw [← getElem?_path, h, getElem?_path])
    subst hkind
    rw [path_eq, path_eq] at h
    exact ⟨rfl, (String.append_right_inj _).1 h⟩
  · rintro ⟨rfl, rfl⟩
    rfl

/-- No resource lies where others are listed. -/
theorem listing_ne_path : kind.listing ≠ kind'.path name := by
  intro h
  have hkind : kind = kind' := letter_injective (by rw [letter, h, getElem?_path])
  subst hkind
  have hlength := congrArg String.length h
  rw [path_eq, String.length_append, String.length_append] at hlength
  have hslash : "/".length = 1 := rfl
  omega

/-- The kind that is listed at a path. -/
def listedAt? (path : String) : Option ResourceKind :=
  [affinityGroup, storageAccount, cloudService].find? (·.listing == path)

theorem listedAt?_listing : listedAt? kind.listing = some kind := by
  cases kind <;> decide

theorem listedAt?_path (kind : ResourceKind) (name : String) :
    listedAt? (kind.path name) = none := by
  simp [listedAt?, listing_ne_path]

end ResourceKind

/-- A slot of a cloud service lies below it. -/
theorem Path.slot_eq (service slot : String) :
    Path.slot service slot = Path.cloudService (service ++ ("/deploymentslots/" ++ slot)) := by
  show "/services/hostedservices/" ++ service ++ "/deploymentslots/" ++ slot = _
  simp only [String.append_assoc]
  rfl

/-- What has a slash in it is no segment. -/
theorem Path.not_isSegment_below (service slot : String) :
    ¬ Path.IsSegment (service ++ ("/deploymentslots/" ++ slot)) := by
  rintro ⟨-, hall⟩
  exact (hall '/' (by simp)).1 rfl

/-! ## The register -/

/-- The names that are kept, by kind. -/
abbrev Register := ResourceKind → List String

namespace Register

variable {α : Type} [Document α]

def names (s : Register) : Names := fun kind => (s kind).toFinset

/-- An answer that shows a document. -/
def showing (a : α) : Except Fault Response := (ScriptedReply.shows (encode a)).answer

/-- A cloud service that is set up. -/
def service (name : String) : CloudService :=
  { name, properties := { status := CloudService.created }, deployments := [] }

/-- What is shown of a kind. -/
def listing (s : Register) : ResourceKind → Except Fault Response
  | .affinityGroup =>
    showing (Listing.mk ((s .affinityGroup).map fun name => ⟨name, name, ""⟩) : AffinityGroups)
  | .storageAccount =>
    showing (Listing.mk ((s .storageAccount).map fun name => ⟨name, none⟩) : StorageAccounts)
  | .cloudService => showing (Listing.mk ((s .cloudService).map service) : CloudServices)

/-- The cloud service at a path. -/
def serviceAt? (s : Register) (path : String) : Option String :=
  (s .cloudService).find? fun name => Path.IsSegment name && Path.cloudService name == path

/-- The report on an operation; all operations go by one name. -/
def report : OperationReport :=
  { id := "1", state := .succeeded, httpStatus := none, error := none }

/-- What is shown at a path. -/
def look (s : Register) (path : String) : Except Fault Response :=
  match ResourceKind.listedAt? path with
  | some kind => s.listing kind
  | none =>
    if path = Channel.operationPath "1" then showing report
    else
      match s.serviceAt? path with
      | some name => showing (service name)
      | none => .ok Script.missing

/-- A new name is added. -/
def add (s : Register) (kind : ResourceKind) (name : String) : Register :=
  Function.update s kind (name :: s kind)

/-- What lies at a path is dropped. -/
def drop (s : Register) (path : String) : Register := fun kind =>
  (s kind).filter fun name => kind.path name ≠ path

/-- Changes take their time. -/
def respond : Server Register Request (Except Fault Response) := fun s q =>
  match q.method with
  | .get => ⟨s, 0, s.look q.path⟩
  | .post =>
    match ResourceKind.listedAt? q.path, q.body with
    | some kind, some body =>
      match kind.ordered body with
      | .ok name => ⟨s.add kind name, 1000, (ScriptedReply.accepts "1").answer⟩
      | .error _ => ⟨s, 0, (ScriptedReply.refuses 400).answer⟩
    | _, _ => ⟨s, 0, .ok Script.missing⟩
  | .delete => ⟨s.drop q.path, 1000, (ScriptedReply.accepts "1").answer⟩
  | .put => ⟨s, 0, .ok Script.missing⟩

variable {s : Register} {kind : ResourceKind} {name path : String}

theorem names_add : (s.add kind name).names = s.names.insert kind name := by
  funext k
  by_cases hk : k = kind
  · subst hk
    simp [add, names, Names.insert]
  · simp [add, names, Names.insert, hk]

/-- Nothing else lies at the path of a resource. -/
theorem names_drop : (s.drop (kind.path name)).names = s.names.erase kind name := by
  funext k
  ext n
  simp only [names, drop, Names.mem_erase, List.mem_toFinset, List.mem_filter,
    decide_eq_true_eq, Ne, ResourceKind.path_eq_path_iff]
  exact and_comm

theorem shows_of_answer {depth : Nat} {a : α} (h : Survives depth a) (hle : depth ≤ Json.maxDepth)
    {p : α → Prop} (hp : p a) (hlook : s.look path = showing a) :
    Wire.json.Shows respond s path p :=
  ⟨_, a, hlook, rfl, Wire.json_read_toBytes (h.writable.mono hle) h.decode_encode, hp⟩

/-- Operations are reported to have succeeded. -/
theorem shows_operation (s : Register) :
    Wire.json.Shows respond s (Channel.operationPath "1")
      fun report : OperationReport => report.state = .succeeded := by
  have hnone : ResourceKind.listedAt? (Channel.operationPath "1") = none := by decide
  exact shows_of_answer (OperationReport.faithful.survives report) (by decide) rfl
    (by simp [look, hnone])

/-- At the path of a cloud service there is nothing else. -/
theorem look_cloudService : s.look (Path.cloudService name) =
    match s.serviceAt? (Path.cloudService name) with
    | some n => showing (service n)
    | none => .ok Script.missing := by
  have hnone : ResourceKind.listedAt? (Path.cloudService name) = none :=
    ResourceKind.listedAt?_path .cloudService name
  simp [look, hnone, (Path.operationPath_ne_cloudService "1" name).symm]

theorem survives_service (name : String) : Survives 9 (service name) :=
  CloudService.survives fun _ hd => absurd hd List.not_mem_nil

/-- A listing of the names that are kept is read as such. -/
theorem lists_of_survives {key : String} {depth : Nat} {l : Listing key α} {nameOf : α → String}
    (h : Survives depth l) (hle : depth ≤ Json.maxDepth) (hlisting : s.listing kind = showing l)
    (hlisted : ∀ body, kind.listed body =
      (Wire.json.read body).map fun l : Listing key α => l.items.map nameOf)
    (hitems : l.items.map nameOf = s kind) :
    ∃ r listed, s.look kind.listing = .ok r ∧ r.isSuccess ∧ kind.listed r.body = .ok listed ∧
      ∀ name, name ∈ listed ↔ name ∈ s.names kind := by
  have hlook : s.look kind.listing = showing l := by
    rw [look, ResourceKind.listedAt?_listing]
    exact hlisting
  refine ⟨_, s kind, hlook, rfl, ?_, fun name => List.mem_toFinset.symm⟩
  rw [hlisted, Wire.json_read_toBytes (h.writable.mono hle) h.decode_encode, ← hitems]
  rfl

/-- **The listings show what is kept.** -/
theorem lists (s : Register) (kind : ResourceKind) :
    ∃ r listed, s.look kind.listing = .ok r ∧ r.isSuccess ∧ kind.listed r.body = .ok listed ∧
      ∀ name, name ∈ listed ↔ name ∈ s.names kind := by
  cases kind with
  | affinityGroup =>
    exact lists_of_survives (AffinityGroup.faithful.listing.survives _) (by decide) rfl
      (fun _ => rfl) (by simp [Function.comp_def])
  | storageAccount =>
    exact lists_of_survives (StorageAccount.faithful.listing.survives _) (by decide) rfl
      (fun _ => rfl) (by simp [Function.comp_def])
  | cloudService =>
    have hall : ∀ x ∈ (s .cloudService).map service, Survives 9 x := by
      intro x hx
      obtain ⟨name, -, rfl⟩ := List.mem_map.1 hx
      exact survives_service name
    exact lists_of_survives (survives_listing hall) (by decide) rfl (fun _ => rfl)
      (by simp [Function.comp_def, service])

theorem keepsNames : KeepsNames respond names where
  kept _ _ := rfl
  lists := lists
  inserts {s kind body name} hordered _ _ := by
    have hrespond : respond s (kind.order body) =
        ⟨s.add kind name, 1000, (ScriptedReply.accepts "1").answer⟩ := by
      simp only [respond, ResourceKind.order, ResourceKind.listedAt?_listing, hordered]
    rw [Wire.Accepts, hrespond]
    exact ⟨⟨_, "1", rfl, rfl, rfl, shows_operation _⟩, names_add⟩
  erases _ _ := ⟨⟨_, "1", rfl, rfl, rfl, shows_operation _⟩, names_drop⟩
  created {s name} hsegment hheld := by
    have hthere : (s.serviceAt? (Path.cloudService name)).isSome :=
      List.find?_isSome.2 ⟨name, List.mem_toFinset.1 hheld, by simp [hsegment]⟩
    obtain ⟨n, hn⟩ := Option.isSome_iff_exists.1 hthere
    exact shows_of_answer (survives_service n) (by decide) rfl (by rw [look_cloudService, hn])
  vacant {s name slot} _ _ _ := by
    have hnone : s.serviceAt? (Path.slot name slot) = none := by
      rw [serviceAt?, Path.slot_eq, List.find?_eq_none]
      intro n _ hn
      simp only [Bool.and_eq_true, decide_eq_true_eq, beq_iff_eq] at hn
      exact Path.not_isSegment_below name slot (Path.cloudService_injective hn.2 ▸ hn.1)
    have hlook : s.look (Path.slot name slot) = .ok Script.missing := by
      rw [Path.slot_eq] at hnone ⊢
      rw [look_cloudService, hnone]
    exact ⟨_, hlook, .inl rfl⟩

end Register

end CloudOrchestration
