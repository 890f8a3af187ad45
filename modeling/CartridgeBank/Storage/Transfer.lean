import CartridgeBank.Storage.Basic

namespace CartridgeBank.Storage

variable {σ : Type} [Transport σ]

/-- Sends a request over the transport, whatever comes back. -/
def send (opcode : Opcode) (frame : Option Bytes) : Operation σ Answer := fun storage =>
  match Transport.send opcode frame storage.transport with
  | .ok answer transport => .ok answer { storage with transport }
  | .error fault transport => .error fault { storage with transport }

/-- Sends a request and insists that the answer names the same command and reports success. -/
def execute (command : Command) (cartridge frame : UInt16) (payload : Option Bytes) :
    Operation σ Answer := do
  let answer ← send (Opcode.request command cartridge frame) payload
  if answer.opcode.field .ky1 ≠ command.number then
    throw (.unexpectedAnswer command answer.opcode)
  if ¬answer.opcode.isSuccess then throw (.deviceFailure command answer.opcode)
  return answer

/-- Has the device load a cartridge, unless it is known to be loaded. -/
def loadCartridge (cartridge : UInt16) : Operation σ Unit := do
  unless (← get).active = some cartridge do
    modify fun storage => { storage with active := none }
    let _ ← execute .ldcart cartridge 0 none
    modify fun storage => { storage with active := some cartridge }

/-- Looks a frame up in the cache, which counts as a use of it. -/
def cached? (location : FrameLocation) : Operation σ (Option Bytes) := fun storage =>
  match storage.cache with
  | none => .ok none storage
  | some cache =>
    let (frame, cache) := cache.get location
    .ok frame { storage with cache := some cache }

/-- Reads a frame from the device into the cache. -/
def fetchFrame (location : FrameLocation) : Operation σ Bytes := do
  loadCartridge location.cartridge
  let answer ← execute .rdfrme 0 location.frame none
  let frame := answer.frame.getD []
  let size := (← get).frameSize
  if frame.length ≠ size then throw (.unexpectedPayload size frame.length)
  modifyCache (·.put location frame)
  return frame

/-- Reads a frame from the cache, or else from the device. -/
def readFrame (location : FrameLocation) : Operation σ Bytes := do
  match ← cached? location with
  | some frame => return frame
  | none => fetchFrame location

/-- Writes a frame to the device and into the cache. -/
def writeFrame (location : FrameLocation) (frame : Bytes) : Operation σ Unit := do
  loadCartridge location.cartridge
  let _ ← execute .wrfrme 0 location.frame (some frame)
  modifyCache (·.put location frame)

/-- Drops a frame from the cache. -/
def invalidate (location : FrameLocation) : Operation σ Unit :=
  modifyCache fun cache => (cache.invalidate location).2

/-- Reads frames one after the other. -/
def readFrames : List FrameLocation → Operation σ (List Bytes)
  | [] => return []
  | location :: rest => do
    let frame ← readFrame location
    return frame :: (← readFrames rest)

end CartridgeBank.Storage
