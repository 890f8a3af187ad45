import CartridgeBank.Config
import CartridgeBank.FrameCache
import CartridgeBank.Ownership
import CartridgeBank.Registry
import CartridgeBank.Transport

namespace CartridgeBank

/-- Files on a bank of cartridges that is reached over a transport. -/
structure Storage (σ : Type) where
  config : Config
  transport : σ
  /-- Present exactly while the storage is powered on, except during power-on itself. -/
  cache : Option FrameCache := none
  table : Ownership
  files : Registry := {}
  /-- The cartridge that the device is known to have loaded. -/
  active : Option UInt16 := none
  poweredOn : Bool := false

/-- The state of a storage at a glance. -/
structure StorageStats where
  poweredOn : Bool
  totalFrames : Nat
  freeFrames : Nat
  usedFrames : Nat
  openFiles : Nat
  cache : Option CacheStats
deriving DecidableEq, Repr

/-- A step on a storage. A failing step may still have changed the storage. -/
abbrev Operation (σ : Type) := EStateM Fault (Storage σ)

namespace Storage

variable {σ : Type}

/-- A powered-off storage, if the configuration is valid. -/
def create (config : Config) (transport : σ) : Except Fault (Storage σ) := do
  config.validate
  return { config, transport, table := Ownership.ofGeometry config.geometry }

def frameSize (storage : Storage σ) : Nat := storage.config.geometry.frameSize

def cacheStats (storage : Storage σ) : Option CacheStats := storage.cache.map FrameCache.stats

def stats (storage : Storage σ) : StorageStats where
  poweredOn := storage.poweredOn
  totalFrames := storage.table.total
  freeFrames := storage.table.free
  usedFrames := storage.table.used
  openFiles := storage.files.openCount
  cache := storage.cacheStats

/-- The handle of the open file of that name. -/
def lookup? (storage : Storage σ) (name : String) : Option Handle := storage.files.lookup? name

/-- All open files. -/
def openFiles (storage : Storage σ) : List FileInfo := storage.files.infos

/-- Fails unless the storage is powered on. -/
def ensurePowered : Operation σ Unit := do
  unless (← get).poweredOn do throw .notPoweredOn

/-- Passes a result on, or its fault. -/
def require {α : Type} : Except Fault α → Operation σ α
  | .ok value => pure value
  | .error fault => throw fault

/-- Changes the cache, if there is one. -/
def modifyCache (change : FrameCache → FrameCache) : Operation σ Unit :=
  modify fun storage => { storage with cache := storage.cache.map change }

/-- Changes the cache size for the next power-on. -/
def setCacheFrames (frames : Nat) : Operation σ Unit := do
  if (← get).cache.isSome then throw .cacheInUse
  if frames = 0 ∨ maxCacheFrames < frames then throw (.invalidCacheSize frames)
  modify fun storage => { storage with config := { storage.config with cacheFrames := frames } }

end Storage

end CartridgeBank
