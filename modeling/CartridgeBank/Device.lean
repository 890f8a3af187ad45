import CartridgeBank.Geometry
import CartridgeBank.Transport

namespace CartridgeBank

/-- How many requests of each outcome a device has seen. -/
structure DeviceStats where
  inits : Nat := 0
  loads : Nat := 0
  zeroes : Nat := 0
  reads : Nat := 0
  writes : Nat := 0
  powerOffs : Nat := 0
  failures : Nat := 0
deriving DecidableEq, Repr

/-- For each command, how many requests are left until one is refused on purpose. -/
structure Countdowns where
  initms : Option Nat := none
  bzero : Option Nat := none
  ldcart : Option Nat := none
  rdfrme : Option Nat := none
  wrfrme : Option Nat := none
  powoff : Option Nat := none
deriving DecidableEq, Repr

namespace Countdowns

def get (counts : Countdowns) : Command → Option Nat
  | .initms => counts.initms
  | .bzero => counts.bzero
  | .ldcart => counts.ldcart
  | .rdfrme => counts.rdfrme
  | .wrfrme => counts.wrfrme
  | .powoff => counts.powoff

def set (counts : Countdowns) (command : Command) (count : Option Nat) : Countdowns :=
  match command with
  | .initms => { counts with initms := count }
  | .bzero => { counts with bzero := count }
  | .ldcart => { counts with ldcart := count }
  | .rdfrme => { counts with rdfrme := count }
  | .wrfrme => { counts with wrfrme := count }
  | .powoff => { counts with powoff := count }

@[simp] theorem get_set (counts : Countdowns) (command other : Command) (count : Option Nat) :
    (counts.set command count).get other = if command = other then count else counts.get other := by
  cases command <;> cases other <;> rfl

/-- Counts one request of a command, and tells whether it is the one to refuse. -/
def tick (counts : Countdowns) (command : Command) : Bool × Countdowns :=
  match counts.get command with
  | none => (false, counts)
  | some left =>
    if left - 1 = 0 then (true, counts.set command none)
    else (false, counts.set command (some (left - 1)))

end Countdowns

/-- A bank of cartridges in memory. Frames that were never written read as zeros. -/
structure Device where
  geometry : Geometry
  frames : Std.ExtTreeMap FrameLocation Bytes := ∅
  initialized : Bool := false
  active : Option UInt16 := none
  stats : DeviceStats := {}
  faults : Countdowns := {}
deriving DecidableEq, Repr

namespace Device

/-- The stored bytes of a frame, if it was written. -/
def frame? (device : Device) (location : FrameLocation) : Option Bytes := device.frames[location]?

/-- What reading a frame returns. -/
def content (device : Device) (location : FrameLocation) : Bytes :=
  (device.frame? location).getD (List.replicate device.geometry.frameSize 0)

/-- How many frames are stored. -/
def storedFrames (device : Device) : Nat := device.frames.size

/-- From now on, refuse the given request of a command, counted from one. -/
def failNth (device : Device) (command : Command) (n : Nat) : Device :=
  { device with faults := device.faults.set command (some (max n 1)) }

def clearFaults (device : Device) : Device := { device with faults := {} }

/-- Refuses a request. -/
def refuse (device : Device) (opcode : Opcode) : Answer × Device :=
  (Answer.failure opcode,
    { device with stats := { device.stats with failures := device.stats.failures + 1 } })

/-- The frame that a request addresses on the loaded cartridge. -/
def addressed? (device : Device) (opcode : Opcode) : Option FrameLocation := do
  let cartridge ← device.active
  let location : FrameLocation := ⟨cartridge, opcode.frame⟩
  if device.geometry.contains location then some location else none

/-- Carries out a known command. Until it is initialized, the device refuses all others. -/
def execute (device : Device) (command : Command) (opcode : Opcode) (frame : Option Bytes) :
    Answer × Device :=
  let done : Answer := { opcode := opcode.withRet false }
  let stats := device.stats
  if command ≠ .initms ∧ ¬device.initialized then device.refuse opcode
  else match command with
  | .initms =>
    (done, { device with
      initialized := true, active := none, stats := { stats with inits := stats.inits + 1 } })
  | .ldcart =>
    if device.geometry.cartridges ≤ opcode.cartridge.toNat then device.refuse opcode
    else (done, { device with
      active := some opcode.cartridge, stats := { stats with loads := stats.loads + 1 } })
  | .bzero =>
    match device.active with
    | none => device.refuse opcode
    | some cartridge => (done, { device with
        frames := device.frames.filter fun location _ => location.cartridge != cartridge
        stats := { stats with zeroes := stats.zeroes + 1 } })
  | .rdfrme =>
    match device.addressed? opcode with
    | none => device.refuse opcode
    | some location => ({ done with frame := some (device.content location) },
        { device with stats := { stats with reads := stats.reads + 1 } })
  | .wrfrme =>
    match device.addressed? opcode, frame with
    | some location, some data =>
      if data.length = device.geometry.frameSize then
        (done, { device with
          frames := device.frames.insert location data
          stats := { stats with writes := stats.writes + 1 } })
      else device.refuse opcode
    | _, _ => device.refuse opcode
  | .powoff =>
    (done, { device with
      frames := ∅, initialized := false, active := none
      stats := { stats with powerOffs := stats.powerOffs + 1 } })

/-- Answers a request. Unknown commands and those marked by `failNth` are refused. -/
def respond (device : Device) (opcode : Opcode) (frame : Option Bytes) : Answer × Device :=
  match opcode.command? with
  | none => device.refuse opcode
  | some command =>
    let (refused, faults) := device.faults.tick command
    let device := { device with faults }
    if refused then device.refuse opcode else device.execute command opcode frame

instance : Transport Device where
  send opcode frame device :=
    let (answer, device) := device.respond opcode frame
    .ok answer device

end Device

end CartridgeBank
