import CloudOrchestration.Client.Lifecycle
/-!
# Data disks

Disks are attached to roles under the storage lock. The provider makes no
disk without attaching it, so a disk of its own is made by attaching it at a
scratch unit, reading the name that it was given, and detaching it again.
-/

namespace CloudOrchestration

namespace DataDisk

/-- The unit of a disk that comes with a new machine. -/
def defaultLun : UInt8 := 0

/-- The unit at which disks are made. -/
def scratchLun : UInt8 := maxLun

/-- The label of every new disk. -/
def newLabel : String := "Data"

/-- A role has units up to the greatest. -/
def checkLun (lun : UInt8) : Except Fault Unit :=
  if maxLun < lun then .error (.invalidState (.lunOutOfRange lun)) else .ok ()

/-- Where the file of a disk lies. -/
def mediaAddress (account file : String) : String :=
  s!"https://{account}.blob.core.windows.net/vhds/{file}"

/-- A new file name for a disk of a role. -/
def fileName (service role : String) (number : Draw) : String :=
  s!"{service}-{role}-data-{String.ofList (Json.hexDigits number)}.vhd"

/-- A new, empty disk with its file. -/
def empty (lun : UInt8) (sizeGb : UInt32) (account file : String) : DataDisk :=
  { lun, sizeGb := some sizeGb, mediaLink := some (mediaAddress account file),
    label := some newLabel }

end DataDisk

namespace Client

open Workflow

/-- The disk at a unit of a role. -/
def dataDisk? (c : Client) (service deployment role : String) (lun : UInt8)
    (deadline : Deadline) : Call (Option DataDisk) := do
  ofExcept (DataDisk.checkLun lun)
  c.channel.getOptional (Path.dataDisk service deployment role lun) deadline

/-- Attach a disk and wait until it can be seen. -/
def submitDataDisk (c : Client) (service deployment role : String) (disk : DataDisk)
    (deadline : Deadline) : Call DataDisk := do
  c.channel.create (Path.dataDisks service deployment role) disk deadline
  c.awaitAttached service deployment role disk.lun deadline

/-- Detach what sits at a unit, and wait until it is free. A disk without a
name is not waited for. -/
def detachDataDiskUnlocked (c : Client) (service deployment role : String) (lun : UInt8)
    (deadline : Deadline) : Call Action := do
  match ← c.dataDisk? service deployment role lun deadline with
  | none => pure .unchanged
  | some disk =>
    c.channel.remove (Path.dataDisk service deployment role lun) deadline
    match disk.diskName with
    | some name => c.awaitDetached name deadline
    | none => pure ()
    pure .delete

/-- Detach what sits at a unit. No lock is taken for that. -/
def detachDataDisk (c : Client) (service deployment role : String) (lun : UInt8)
    (deadline : Deadline) : Call Action := do
  ofExcept (DataDisk.checkLun lun)
  c.detachDataDiskUnlocked service deployment role lun deadline

/-- The unit is checked again when it is looked at, so the first check changes
nothing. -/
theorem detachDataDisk_eq (c : Client) (service deployment role : String) (lun : UInt8)
    (deadline : Deadline) :
    c.detachDataDisk service deployment role lun deadline =
      c.detachDataDiskUnlocked service deployment role lun deadline := by
  rw [detachDataDisk, detachDataDiskUnlocked, dataDisk?]
  cases DataDisk.checkLun lun <;> rfl

/-- Attach a new, empty disk at the default unit. -/
def addDataDisk (c : Client) (service deployment role account : String) (sizeGb : UInt32)
    (deadline : Deadline) : Call DataDisk :=
  exclusively .storage deadline do
    let file := DataDisk.fileName service role (← draw)
    c.submitDataDisk service deployment role
      (.empty DataDisk.defaultLun sizeGb account file) deadline

/-- Attach a disk that exists. -/
def attachDataDisk (c : Client) (service deployment role disk : String) (lun : UInt8)
    (deadline : Deadline) : Call DataDisk := do
  ofExcept (DataDisk.checkLun lun)
  exclusively .storage deadline do
    c.submitDataDisk service deployment role { diskName := some disk, lun } deadline

/-- **Make a disk that is attached to no role**, and answer its name. -/
def createDataDisk (c : Client) (service deployment role account file : String)
    (sizeGb : UInt32) (deadline : Deadline) : Call String :=
  exclusively .storage deadline do
    let lun := DataDisk.scratchLun
    if (← c.dataDisk? service deployment role lun deadline).isSome then
      fail (.invalidState (.lunInUse lun role))
    else
      let attached ← c.submitDataDisk service deployment role
        (.empty lun sizeGb account file) deadline
      match attached.diskName with
      | none => fail (.protocol (.unnamedDisk lun role))
      | some name =>
        let _ ← c.detachDataDiskUnlocked service deployment role lun deadline
        pure name

end Client

end CloudOrchestration
