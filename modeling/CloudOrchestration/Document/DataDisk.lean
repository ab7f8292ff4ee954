import CloudOrchestration.Document.Basic
/-!
# Disks of a role

A role has one system disk and up to sixteen data disks, each at a logical
unit number of its own.
-/

namespace CloudOrchestration

/-- The disk a role boots from. -/
structure SystemDisk where
  diskName : Option String
  mediaLink : Option String
  image : Option String
  deriving DecidableEq, Repr

instance : Document SystemDisk where
  encode d := .object [
    Document.memberIfSome "DiskName" d.diskName,
    Document.memberIfSome "MediaLink" d.mediaLink,
    Document.memberIfSome "SourceImageName" d.image]
  decode v := do
    let ms ← v.fields? ["DiskName", "MediaLink", "SourceImageName"]
    return {
      diskName := ← ms.optional "DiskName"
      mediaLink := ← ms.optional "MediaLink"
      image := ← ms.optional "SourceImageName" }

/-- A disk at a logical unit number of a role. -/
structure DataDisk where
  diskName : Option String := none
  lun : UInt8
  sizeGb : Option UInt32 := none
  mediaLink : Option String := none
  label : Option String := none
  deriving DecidableEq, Repr

namespace DataDisk

instance : Document DataDisk where
  encode d := .object [
    Document.memberIfSome "DiskName" d.diskName,
    Document.member "Lun" d.lun,
    Document.memberIfSome "LogicalDiskSizeInGB" d.sizeGb,
    Document.memberIfSome "MediaLink" d.mediaLink,
    Document.memberIfSome "DiskLabel" d.label]
  decode v := do
    let ms ← v.fields? ["DiskName", "Lun", "LogicalDiskSizeInGB", "MediaLink", "DiskLabel"]
    return {
      diskName := ← ms.optional "DiskName"
      lun := ← ms.defaulted "Lun" 0
      sizeGb := ← ms.optional "LogicalDiskSizeInGB"
      mediaLink := ← ms.optional "MediaLink"
      label := ← ms.optional "DiskLabel" }

/-- The greatest logical unit number of a role. -/
def maxLun : UInt8 := 15

end DataDisk

end CloudOrchestration
