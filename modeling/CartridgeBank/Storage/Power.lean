import CartridgeBank.Storage.Transfer

namespace CartridgeBank.Storage

variable {σ : Type} [Transport σ]

/-- The same storage without a cache, an open file, an owned frame or a loaded cartridge. -/
def cleared (storage : Storage σ) : Storage σ :=
  { storage with cache := none, files := {}, table := storage.table.reset, active := none }

/-- Loads a cartridge and zeroes all its frames. -/
def zeroCartridge (cartridge : UInt16) : Operation σ Unit := do
  loadCartridge cartridge
  let _ ← execute .bzero 0 0 none

/-- Initializes the device and zeroes every cartridge, in order. -/
def initializeDevice : Operation σ Unit := do
  let _ ← execute .initms 0 0 none
  (List.range (← get).config.geometry.cartridges).forM fun cartridge =>
    zeroCartridge (UInt16.ofNat cartridge)

/-- Starts a session on a zeroed bank with an empty cache. On a fault the storage stays off. -/
def powerOn : Operation σ Unit := do
  if (← get).poweredOn then throw .alreadyPoweredOn
  let cache ← require (FrameCache.ofCapacity (← get).config.cacheFrames)
  modify fun storage => { storage.cleared with cache := some cache }
  try initializeDevice
  catch fault =>
    modify fun storage => { storage with cache := none, active := none }
    throw fault
  modify fun storage => { storage with poweredOn := true }

/-- Ends the session: everything is forgotten, the device is told so, and the transport is
disconnected even if the device objects. -/
def powerOff : Operation σ Unit := do
  unless (← get).poweredOn do throw .notPoweredOn
  modify fun storage => { storage.cleared with poweredOn := false }
  let hangUp : Operation σ Unit :=
    modify fun storage => { storage with transport := Transport.disconnect storage.transport }
  try let _ ← execute .powoff 0 0 none
  catch fault =>
    hangUp
    throw fault
  hangUp

end CartridgeBank.Storage
