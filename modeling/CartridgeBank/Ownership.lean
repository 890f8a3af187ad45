import CartridgeBank.Fault
import CartridgeBank.Geometry

namespace CartridgeBank

/-- Which open file owns each frame of a bank. -/
structure Ownership where
  geometry : Geometry
  /-- The owners by place in the scan order. A place without an owner is free. -/
  owners : Std.ExtTreeMap Nat Handle := ∅
  /-- How many frames have no owner, kept up to date with every change of the owners. -/
  free : Nat
deriving DecidableEq, Repr

namespace Ownership

/-- All frames of the bank, owned by nobody. -/
def ofGeometry (geometry : Geometry) : Ownership := { geometry, free := geometry.totalFrames }

def total (table : Ownership) : Nat := table.geometry.totalFrames

/-- How many frames have an owner. -/
def used (table : Ownership) : Nat := table.total - table.free

/-- The owner at a place of the scan order. -/
def ownerAt (table : Ownership) (index : Nat) : Option Handle := table.owners[index]?

def owner? (table : Ownership) (location : FrameLocation) : Option Handle :=
  (table.geometry.index? location).bind table.ownerAt

/-- Gives a free frame of the bank to a file. -/
def claim (table : Ownership) (location : FrameLocation) (handle : Handle) :
    Except Fault Ownership :=
  match table.geometry.index? location with
  | none => .error (.outsideGeometry location)
  | some index =>
    if (table.ownerAt index).isSome then .error (.alreadyOwned location)
    else .ok { table with owners := table.owners.insert index handle, free := table.free - 1 }

/-- Takes a frame of the bank from its owner, who is returned. A free frame stays free. -/
def release (table : Ownership) (location : FrameLocation) :
    Except Fault (Option Handle × Ownership) :=
  match table.geometry.index? location with
  | none => .error (.outsideGeometry location)
  | some index =>
    let previous := table.ownerAt index
    .ok (previous, { table with
      owners := table.owners.erase index
      free := if previous.isSome then table.free + 1 else table.free })

/-- The first `wanted` places from `index` on that have no owner. -/
def scanFree (table : Ownership) (index wanted : Nat) : List Nat :=
  match wanted with
  | 0 => []
  | more + 1 =>
    if index < table.total then
      match table.ownerAt index with
      | none => index :: table.scanFree (index + 1) more
      | some _ => table.scanFree (index + 1) (more + 1)
    else []
termination_by table.total - index

/-- The first `wanted` free frames in scan order. -/
def firstFree (table : Ownership) (wanted : Nat) : List FrameLocation :=
  (table.scanFree 0 wanted).map table.geometry.locationAt

/-- All free frames in scan order. -/
def freeFrames (table : Ownership) : List FrameLocation := table.firstFree table.total

/-- The frames of a file in scan order. -/
def ownedBy (table : Ownership) (handle : Handle) : List FrameLocation :=
  (table.owners.toList.filter fun entry => entry.2 == handle).map fun entry =>
    table.geometry.locationAt entry.1

/-- Takes all its frames from a file, and tells how many they were. -/
def releaseAll (table : Ownership) (handle : Handle) : Nat × Ownership :=
  let kept := table.owners.filter fun _ owner => owner != handle
  let released := table.owners.size - kept.size
  (released, { table with owners := kept, free := table.free + released })

/-- Frees every frame. -/
def reset (table : Ownership) : Ownership := { table with owners := ∅, free := table.total }

end Ownership

end CartridgeBank
