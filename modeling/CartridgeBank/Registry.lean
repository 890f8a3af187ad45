import CartridgeBank.Fault

namespace CartridgeBank

/-- A named byte string laid over frames, with a cursor. -/
structure OpenFile where
  name : String
  length : Nat := 0
  position : Nat := 0
  /-- The frames that hold the content, in order. -/
  frames : List FrameLocation := []
deriving DecidableEq, Repr

/-- What is told about an open file. -/
structure FileInfo where
  handle : Handle
  name : String
  length : Nat
  position : Nat
  frames : List FrameLocation
deriving DecidableEq, Repr

/-- The open files: by handle in slots, and by name. There is always at least one slot. -/
structure Registry where
  slots : List (Option OpenFile) := [none]
  names : Std.ExtTreeMap String Handle := ∅
deriving DecidableEq, Repr

namespace Registry

def get? (registry : Registry) (handle : Handle) : Option OpenFile :=
  registry.slots[handle.slot]?.join

def get (registry : Registry) (handle : Handle) : Except Fault OpenFile :=
  match registry.get? handle with
  | none => .error (.invalidHandle handle)
  | some file => .ok file

def lookup? (registry : Registry) (name : String) : Option Handle := registry.names[name]?

/-- The lowest empty slot; the one behind the last if all are taken. -/
def vacancy (registry : Registry) : Nat := registry.slots.findIdx Option.isNone

/-- Puts a file into a slot, or behind the last slot. -/
def place (slots : List (Option OpenFile)) (slot : Nat) (file : OpenFile) :
    List (Option OpenFile) :=
  if slot < slots.length then slots.set slot (some file) else slots ++ [some file]

/-- Opens a new, empty file under a name that is not in use. -/
def insert (registry : Registry) (name : String) : Except Fault (Handle × Registry) :=
  if name = "" then .error .emptyName
  else if registry.names.contains name then .error (.duplicateFile name)
  else
    let slot := registry.vacancy
    .ok (⟨slot⟩, {
      slots := place registry.slots slot { name }
      names := registry.names.insert name ⟨slot⟩ })

/-- Closes a file; its name and its slot are free again. -/
def erase (registry : Registry) (handle : Handle) : Except Fault (OpenFile × Registry) :=
  match registry.get? handle with
  | none => .error (.invalidHandle handle)
  | some file => .ok (file, {
      slots := registry.slots.set handle.slot none
      names := registry.names.erase file.name })

/-- Replaces an open file. -/
def update (registry : Registry) (handle : Handle) (file : OpenFile) : Registry :=
  { registry with slots := registry.slots.set handle.slot (some file) }

def info (registry : Registry) (handle : Handle) : Except Fault FileInfo := do
  let file ← registry.get handle
  return {
    handle
    name := file.name
    length := file.length
    position := file.position
    frames := file.frames }

/-- The handles in use, in increasing order. -/
def handles (registry : Registry) : List Handle :=
  ((List.range registry.slots.length).filter fun slot =>
    (registry.get? ⟨slot⟩).isSome).map Handle.mk

/-- All open files, by increasing handle. -/
def infos (registry : Registry) : List FileInfo :=
  registry.handles.filterMap fun handle => (registry.info handle).toOption

def openCount (registry : Registry) : Nat := registry.names.size

def slotCount (registry : Registry) : Nat := registry.slots.length

end Registry

end CartridgeBank
