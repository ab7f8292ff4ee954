import CloudOrchestration.Proofs.DataDisks.Exclusion
import CloudOrchestration.Proofs.Document.Roles
import CloudOrchestration.Proofs.Teardown.Steps
/-!
# Making a disk

A disk that is attached to no role is made by attaching it at the scratch unit, reading
the name that it was given, and detaching it again, all under the storage lock. The unit
is looked at first, and what is detached from it was attached there by the same call
(`Client.detaches_only_what_it_attached`).
-/

namespace CloudOrchestration

open Workflow Channel Schedule

/-- What a disk is made with. -/
structure NewDisk where
  service : String
  deployment : String
  role : String
  account : String
  file : String
  sizeGb : UInt32
  deriving DecidableEq, Repr

namespace NewDisk

/-- Where the scratch unit lies. -/
def unit (d : NewDisk) : String :=
  Path.dataDisk d.service d.deployment d.role DataDisk.scratchLun

/-- What is attached there. -/
def disk (d : NewDisk) : DataDisk := .empty DataDisk.scratchLun d.sizeGb d.account d.file

/-- The request that attaches it. -/
def attachment (c : Client) (d : NewDisk) : Request :=
  c.channel.sending .post (Path.dataDisks d.service d.deployment d.role) d.disk
    c.channel.wire.contentType

/-- The request that detaches it. -/
def removal (d : NewDisk) : Request :=
  removalAt d.service d.deployment d.role DataDisk.scratchLun

/-- The call that makes it. -/
def call (c : Client) (d : NewDisk) (deadline : Deadline) : Call String :=
  c.createDataDisk d.service d.deployment d.role d.account d.file d.sizeGb deadline

end NewDisk

namespace Client

variable {c : Client} {d : NewDisk} {deadline : Deadline}
variable {h : History Request (Except Fault Response)} {o : Except Fault String}
variable {asked before after : List Asked} {q : Request} {answer : Except Fault Response}

/-! ## The course -/

/-- What a look at the scratch unit makes of an answer. -/
def shownUnit (c : Client) (d : NewDisk) (answer : Except Fault Response) :
    Except Fault (Option DataDisk) :=
  c.channel.fetched d.unit answer >>= c.channel.optionalDocument

/-- **The course of a detachment** from the scratch unit, and its end. -/
inductive DetachesScratch (c : Client) (d : NewDisk) : List Asked → Except Fault Action → Prop where
  /-- The unit could not be looked at. -/
  | unseen {looked : List Asked} {answer : Except Fault Response} {fault : Fault}
      (hreads : Reads d.unit looked answer) (hfault : c.shownUnit d answer = .error fault) :
      DetachesScratch c d looked (.error fault)
  | vacant {looked : List Asked} {r : Response} (hreads : Reads d.unit looked (.ok r))
      (hfound : c.channel.optionalDocument r = .ok (none : Option DataDisk)) :
      DetachesScratch c d looked (.ok .unchanged)
  /-- The removal failed. -/
  | kept {looked removing : List Asked} {r : Response} {disk : DataDisk} {fault : Fault}
      (hreads : Reads d.unit looked (.ok r))
      (hfound : c.channel.optionalDocument r = .ok (some disk))
      (hp : c.channel.Performs d.removal removing (.error fault)) :
      DetachesScratch c d (looked ++ removing) (.error fault)
  /-- Removed, and a disk with a name is waited for. -/
  | removed {looked removing waiting : List Asked} {r : Response} {disk : DataDisk}
      {o : Except Fault Unit} (hreads : Reads d.unit looked (.ok r))
      (hfound : c.channel.optionalDocument r = .ok (some disk))
      (hp : c.channel.Performs d.removal removing (.ok ()))
      (hwaits : ∀ x ∈ waiting, x.1 = .read Path.disks)
      (hreleased : o = .ok () → ∀ name, disk.diskName = some name →
        c.ShowsReleased name waiting) :
      DetachesScratch c d (looked ++ (removing ++ waiting)) (o.map fun _ => .delete)

/-- The attachment of the disk, and the wait until it is seen. -/
abbrev AttachesScratch (c : Client) (d : NewDisk) : List Asked → Except Fault DataDisk → Prop :=
  c.channel.BringsAbout (d.attachment c) d.unit
    s!"data disk at LUN {DataDisk.scratchLun} of role {d.role}" attachedReadiness

/-- **The course of a call that makes a disk**, and its end. -/
inductive Makes (c : Client) (d : NewDisk) : List Asked → Except Fault String → Prop where
  /-- The lock was not obtained. -/
  | lockedOut (fault : Fault) : Makes c d [] (.error fault)
  /-- The unit could not be looked at. -/
  | unseen {looked : List Asked} {answer : Except Fault Response} {fault : Fault}
      (hreads : Reads d.unit looked answer) (hfault : c.shownUnit d answer = .error fault) :
      Makes c d looked (.error fault)
  /-- Something is attached there. -/
  | taken {looked : List Asked} {r : Response} {disk : DataDisk} {fault : Fault}
      (hreads : Reads d.unit looked (.ok r))
      (hfound : c.channel.optionalDocument r = .ok (some disk)) : Makes c d looked (.error fault)
  /-- The disk was not seen attached. -/
  | unattached {looked attaching : List Asked} {r : Response} {fault : Fault}
      (hreads : Reads d.unit looked (.ok r))
      (hfound : c.channel.optionalDocument r = .ok (none : Option DataDisk))
      (hattaches : c.AttachesScratch d attaching (.error fault)) :
      Makes c d (looked ++ attaching) (.error fault)
  /-- It was seen, but without a name. -/
  | unnamed {looked attaching : List Asked} {r : Response} {disk : DataDisk} {fault : Fault}
      (hreads : Reads d.unit looked (.ok r))
      (hfound : c.channel.optionalDocument r = .ok (none : Option DataDisk))
      (hattaches : c.AttachesScratch d attaching (.ok disk)) :
      Makes c d (looked ++ attaching) (.error fault)
  | detached {looked attaching detaching : List Asked} {r : Response} {disk : DataDisk}
      {name : String} {o : Except Fault Action} (hreads : Reads d.unit looked (.ok r))
      (hfound : c.channel.optionalDocument r = .ok (none : Option DataDisk))
      (hattaches : c.AttachesScratch d attaching (.ok disk)) (hname : disk.diskName = some name)
      (hdetaches : c.DetachesScratch d detaching o) :
      Makes c d (looked ++ attaching ++ detaching) (o.map fun _ => name)

/-- A detachment sends its removal, and reads. -/
theorem DetachesScratch.request_eq {o : Except Fault Action}
    (hdetaches : c.DetachesScratch d asked o) {x : Asked} (hx : x ∈ asked)
    (hq : x.1.isMutating) : x.1 = d.removal := by
  have hlooked : ∀ {looked answer}, Reads d.unit looked answer → x ∉ looked :=
    fun hreads hx => hreads.not_mutates ⟨x, hx, hq⟩
  cases hdetaches with
  | unseen hreads => exact absurd hx (hlooked hreads)
  | vacant hreads => exact absurd hx (hlooked hreads)
  | kept hreads _ hp =>
    exact hp.request_eq_of_isMutating ((List.mem_append.1 hx).resolve_left (hlooked hreads)) hq
  | removed hreads _ hp hwaits =>
    rcases List.mem_append.1 ((List.mem_append.1 hx).resolve_left (hlooked hreads)) with hx | hx
    · exact hp.request_eq_of_isMutating hx hq
    · rw [hwaits x hx] at hq
      cases hq

/-- **A disk that was attached, and read back with its name.** -/
def ReadsBack (c : Client) (d : NewDisk) (name : String) (asked : List Asked) : Prop :=
  ∃ (attaching waiting : List Asked) (disk : DataDisk), asked = attaching ++ waiting ∧
    c.channel.CarriesOut (d.attachment c) attaching ∧
      c.channel.WaitsFor d.unit (· = none) (some disk) waiting ∧ disk.diskName = some name

/-- What was attached and has a name was read back. -/
theorem AttachesScratch.readsBack {looked : List Asked} {disk : DataDisk} {name : String}
    (hattaches : c.AttachesScratch d asked (.ok disk)) (hname : disk.diskName = some name) :
    c.ReadsBack d name (looked ++ asked) := by
  cases hattaches with
  | @awaited changing waiting _ hp hw =>
    obtain ⟨found, hready, hwaits⟩ := hw.waitsFor
    cases found with
    | none => cases hready
    | some found =>
      cases hready
      exact ⟨looked ++ changing, waiting, disk, by simp, hp.carriesOut.prepend,
        hwaits.mono fun _ => eq_none_of_attachedReadiness, hname⟩

/-- **What a call changes comes in two places**: the attachment after a look that finds
the unit empty, and the removal after the disk was read back. -/
theorem Makes.split_cases (hm : c.Makes d asked o)
    (hs : asked = before ++ (q, answer) :: after) (hq : q.isMutating) :
    c.channel.SeenFirst d.unit (none : Option DataDisk) before ∧
      (q = d.attachment c ∨ q = d.removal ∧
        ∃ made between name, before = made ++ between ∧ c.ReadsBack d name made) := by
  have hlooked : ∀ {looked answer'}, Reads d.unit looked answer' → (q, answer) ∉ looked :=
    fun hreads hx => hreads.not_mutates ⟨_, hx, hq⟩
  cases hm with
  | lockedOut => simp at hs
  | unseen hreads => exact absurd (by simp [hs]) (hlooked hreads)
  | taken hreads => exact absurd (by simp [hs]) (hlooked hreads)
  | unattached hreads hfound hattaches =>
    obtain ⟨l, rfl, rfl⟩ := split_of_not_mem_left (hlooked hreads) hs
    exact ⟨(hreads.seenFirst hfound).append,
      .inl (BringsAbout.request_eq_of_isMutating hattaches (x := (q, answer)) (by simp) hq)⟩
  | unnamed hreads hfound hattaches =>
    obtain ⟨l, rfl, rfl⟩ := split_of_not_mem_left (hlooked hreads) hs
    exact ⟨(hreads.seenFirst hfound).append,
      .inl (BringsAbout.request_eq_of_isMutating hattaches (x := (q, answer)) (by simp) hq)⟩
  | detached hreads hfound hattaches hname hdetaches =>
    rw [List.append_assoc] at hs
    obtain ⟨l, rfl, hl⟩ := split_of_not_mem_left (hlooked hreads) hs
    refine ⟨(hreads.seenFirst hfound).append, ?_⟩
    obtain ⟨l', rfl⟩ | ⟨l', rfl, rfl⟩ := append_cons_eq_append hl.symm
    · exact .inl (BringsAbout.request_eq_of_isMutating hattaches (x := (q, answer)) (by simp) hq)
    · exact .inr ⟨hdetaches.request_eq (x := (q, answer)) (by simp) hq, _, l', _,
        (List.append_assoc ..).symm, AttachesScratch.readsBack hattaches hname⟩

/-! ## How often -/

/-- The removal is accepted at most once. -/
theorem DetachesScratch.length_acceptedOf_le {o : Except Fault Action}
    (hdetaches : c.DetachesScratch d asked o) {p : Request → Prop} [DecidablePred p]
    (hread : ∀ path, ¬ p (.read path)) : (acceptedOf p asked).length ≤ 1 := by
  cases hdetaches with
  | unseen hreads => simp [hreads.acceptedOf_eq_nil hread]
  | vacant hreads => simp [hreads.acceptedOf_eq_nil hread]
  | kept hreads _ hp =>
    rw [acceptedOf_append, hreads.acceptedOf_eq_nil hread]
    exact hp.length_acceptedOf_le hread
  | removed hreads _ hp hwaits =>
    have hwaiting := acceptedOf_of_forall_not fun x hx => hwaits x hx ▸ hread Path.disks
    rw [acceptedOf_append, hreads.acceptedOf_eq_nil hread, acceptedOf_append, hwaiting,
      List.append_nil]
    exact hp.length_acceptedOf_le hread

/-- **Neither change is accepted twice.** -/
theorem Makes.length_acceptedOf_le (hm : c.Makes d asked o) {method : Method}
    (hmethod : method.isMutating) :
    (acceptedOf (fun q => q.method = method) asked).length ≤ 1 := by
  have hread : ∀ path, ¬ (Request.read path).method = method := by
    rintro path rfl
    cases hmethod
  have hnone : ∀ {looked answer}, Reads d.unit looked answer →
      acceptedOf (fun q => q.method = method) looked = [] :=
    fun hreads => hreads.acceptedOf_eq_nil hread
  cases hm with
  | lockedOut => simp [acceptedOf]
  | unseen hreads => simp [hnone hreads]
  | taken hreads => simp [hnone hreads]
  | unattached hreads _ hattaches =>
    rw [acceptedOf_append, hnone hreads]
    exact hattaches.length_acceptedOf_le (p := fun q => q.method = method) hread
  | unnamed hreads _ hattaches =>
    rw [acceptedOf_append, hnone hreads]
    exact hattaches.length_acceptedOf_le (p := fun q => q.method = method) hread
  | detached hreads _ hattaches _ hdetaches =>
    rw [acceptedOf_append, acceptedOf_append, hnone hreads, List.nil_append]
    -- the attachment and the removal are of different methods
    by_cases hpost : method = .post
    · have hdetaching := acceptedOf_of_forall_not
        (p := fun q => q.method = method) fun x hx hx' => by
          rw [hdetaches.request_eq hx (Request.isMutating_of_method hx' hmethod), hpost] at hx'
          cases hx'
      rw [hdetaching, List.append_nil]
      exact hattaches.length_acceptedOf_le (p := fun q => q.method = method) hread
    · have hattaching := acceptedOf_of_forall_not
        (p := fun q => q.method = method) fun x hx hx' => by
          rw [BringsAbout.request_eq_of_isMutating hattaches hx
            (Request.isMutating_of_method hx' hmethod)] at hx'
          exact hpost hx'.symm
      rw [hattaching, List.nil_append]
      exact hdetaches.length_acceptedOf_le hread

/-! ## What is sent -/

/-- **The unit was seen free in the end**: its last look found nothing, or what it found
was removed after that, and a disk with a name then seen to be attached nowhere. -/
def FreesUnit (c : Client) (d : NewDisk) (asked : List Asked) : Prop :=
  ∃ (earlier later : List Asked) (r : Response) (found : Option DataDisk),
    asked = earlier ++ (.read d.unit, .ok r) :: later ∧ (∀ x ∈ later, x.1 ≠ .read d.unit) ∧
      c.channel.optionalDocument r = .ok found ∧
        ∀ disk, found = some disk → ∃ removing releasing,
          later = removing ++ releasing ∧ c.channel.CarriesOut d.removal removing ∧
            ∀ name, disk.diskName = some name → c.ShowsReleased name releasing

theorem DetachesScratch.freesUnit {action : Action}
    (hdetaches : c.DetachesScratch d asked (.ok action)) : c.FreesUnit d asked := by
  generalize hend : (Except.ok action : Except Fault Action) = o at hdetaches
  cases hdetaches with
  | unseen => cases hend
  | kept => cases hend
  | @vacant looked r hreads hfound =>
    obtain ⟨failures, rfl⟩ := hreads
    exact ⟨_, [], r, none, rfl, by simp, hfound, fun _ hx => nomatch hx⟩
  | @removed looked removing waiting r disk result hreads hfound hp hwaits hreleased =>
    obtain ⟨failures, rfl⟩ := hreads
    have hok : result = .ok () := by
      cases result with
      | error fault => cases hend
      | ok u => rfl
    refine ⟨_, removing ++ waiting, r, some disk, List.append_assoc .., fun x hx heq => ?_, hfound,
      ?_⟩
    · rcases List.mem_append.1 hx with hx | hx
      · obtain hremoval | ⟨id, hread⟩ := hp.request_eq hx
        · cases congrArg Request.method (hremoval.symm.trans heq)
        · exact Path.operationPath_ne_dataDisk id _ _ _ _
            (congrArg Request.path (hread.symm.trans heq))
      · exact Path.disks_ne_dataDisk _ _ _ _
          (congrArg Request.path ((hwaits x hx).symm.trans heq))
    · rintro _ ⟨⟩
      exact ⟨removing, waiting, rfl, hp.carriesOut, hreleased hok⟩

/-- **A name that is answered** is that of the disk that was read back, and the unit was
then freed. -/
theorem Makes.named {name : String} (hm : c.Makes d asked (.ok name)) :
    ∃ made detaching, asked = made ++ detaching ∧ c.ReadsBack d name made ∧
      c.FreesUnit d detaching := by
  generalize hend : (Except.ok name : Except Fault String) = o at hm
  cases hm with
  | lockedOut => cases hend
  | unseen => cases hend
  | taken => cases hend
  | unattached => cases hend
  | unnamed => cases hend
  | @detached looked attaching detaching _ _ name' result _ _ hattaches hname hdetaches =>
    cases result with
    | error fault => cases hend
    | ok action =>
      cases hend
      exact ⟨looked ++ attaching, detaching, rfl, AttachesScratch.readsBack hattaches hname,
        hdetaches.freesUnit⟩

/-! ## The call as a whole -/

/-- A disk of a role. -/
def scratchDisk : NewDisk where
  service := "s"
  deployment := "d"
  role := "r"
  account := "a"
  file := "f.vhd"
  sizeGb := 10

/-- What a listing says of the disk that is made for it. -/
def listedDisk (members : List (String × Json)) : ScriptedReply :=
  .shows (.obj [("Disks", .arr [.obj (("Name", .str "n") :: members)])])

/-- A provider at which the unit is free. The disk is not seen at once after its
attachment, and still attached at the first listing after its removal. -/
def makingScript : Script := [
  ((.get, scratchDisk.unit), [.refuses 404, .refuses 404,
    .shows (encode ({ diskName := some "n", lun := 15 } : DataDisk))]),
  ((.post, Path.dataDisks "s" "d" "r"), [.postpones, .accepts "1"]),
  Script.operationDone "1",
  ((.delete, scratchDisk.unit), [.accepts "2"]),
  Script.operationDone "2",
  ((.get, Path.disks), [
    listedDisk [("AttachedTo", encode (⟨"s", "d", "r"⟩ : Attachment))], listedDisk []])]

/-- The run of a call against it. -/
def made : History Request (Except Fault Response) × Except Fault String :=
  (scratchDisk.call plainClient ⟨400000⟩).alone Script.respond makingScript 0

end Client

end CloudOrchestration
