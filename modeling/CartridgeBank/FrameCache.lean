import CartridgeBank.Fault

namespace CartridgeBank

/-- One cached frame, with the clock reading at its last use. -/
structure CachedFrame where
  location : FrameLocation
  frame : Bytes
  stamp : Nat
deriving DecidableEq, Repr

structure CacheStats where
  hits : Nat
  misses : Nat
  evictions : Nat
  occupied : Nat
  capacity : Nat
deriving DecidableEq, Repr

/-- A cache of frames in a fixed number of slots. When all slots are taken, the frame unused for
longest makes room. -/
structure FrameCache where
  slots : List (Option CachedFrame)
  clock : Nat := 0
  /-- The last frame that was removed or evicted. -/
  overflow : Option Bytes := none
  hits : Nat := 0
  misses : Nat := 0
  evictions : Nat := 0
deriving DecidableEq, Repr

namespace FrameCache

/-- An empty cache of between 1 and `maxCacheFrames` slots. -/
def ofCapacity (capacity : Nat) : Except Fault FrameCache :=
  if capacity = 0 ∨ maxCacheFrames < capacity then .error (.invalidCacheSize capacity)
  else .ok { slots := List.replicate capacity none }

def capacity (cache : FrameCache) : Nat := cache.slots.length

/-- The cached frames in slot order. -/
def entries (cache : FrameCache) : List CachedFrame := cache.slots.filterMap id

def size (cache : FrameCache) : Nat := cache.entries.length

/-- The tags of the cached frames in slot order. -/
def tags (cache : FrameCache) : List CacheTag := cache.entries.map fun entry => entry.location.tag

def stats (cache : FrameCache) : CacheStats where
  hits := cache.hits
  misses := cache.misses
  evictions := cache.evictions
  occupied := cache.size
  capacity := cache.capacity

def tick (cache : FrameCache) : FrameCache := { cache with clock := cache.clock + 1 }

/-- Whether a slot holds the frame of the given location. -/
def holds (location : FrameLocation) (slot : Option CachedFrame) : Bool :=
  slot.any fun entry => entry.location == location

/-- The slot of a location. -/
def position? (cache : FrameCache) (location : FrameLocation) : Option Nat :=
  cache.slots.findIdx? (holds location)

/-- The lowest empty slot. -/
def vacancy? (cache : FrameCache) : Option Nat := cache.slots.findIdx? Option.isNone

def contains (cache : FrameCache) (location : FrameLocation) : Bool :=
  (cache.position? location).isSome

/-- The smallest stamp in use. -/
def oldestStamp? (cache : FrameCache) : Option Nat := (cache.entries.map (·.stamp)).min?

/-- The slot unused for longest; of equal ones the lowest. -/
def oldest? (cache : FrameCache) : Option Nat := do
  let stamp ← cache.oldestStamp?
  cache.slots.findIdx? fun slot => slot.any fun entry => entry.stamp == stamp

/-- Takes a frame out of its slot and keeps it as the overflow. -/
def remove (cache : FrameCache) (location : FrameLocation) : Option Bytes × FrameCache :=
  let cache := cache.tick
  match cache.position? location with
  | none => (none, cache)
  | some slot =>
    let frame := cache.slots[slot]?.join.map (·.frame)
    (frame, { cache with slots := cache.slots.set slot none, overflow := frame })

/-- Forgets a frame; the overflow stays as it is. -/
def invalidate (cache : FrameCache) (location : FrameLocation) : Bool × FrameCache :=
  let cache := cache.tick
  match cache.position? location with
  | none => (false, cache)
  | some slot => (true, { cache with slots := cache.slots.set slot none })

/-- Looks a frame up and marks it as just used. -/
def get (cache : FrameCache) (location : FrameLocation) : Option Bytes × FrameCache :=
  let cache := cache.tick
  match cache.position? location with
  | none => (none, { cache with misses := cache.misses + 1 })
  | some slot =>
    let entry := cache.slots[slot]?.join
    (entry.map (·.frame),
      { cache with
        slots := cache.slots.set slot (entry.map fun entry => { entry with stamp := cache.clock })
        hits := cache.hits + 1 })

/-- Removes the frame unused for longest, and tells which slot that leaves empty. -/
def evict (cache : FrameCache) : Nat × FrameCache :=
  let slot := cache.oldest?.getD 0
  match cache.slots[slot]?.join with
  | none => (slot, cache)
  | some entry =>
    let cache := (cache.remove entry.location).2
    (slot, { cache with evictions := cache.evictions + 1 })

/-- Puts a frame into a slot, stamped with the present clock reading. -/
def fill (cache : FrameCache) (slot : Nat) (location : FrameLocation) (frame : Bytes) :
    FrameCache :=
  { cache with slots := cache.slots.set slot (some ⟨location, frame, cache.clock⟩) }

/-- Stores a frame: in the slot of its location, else in the lowest empty slot, else in the slot of
the frame unused for longest. -/
def put (cache : FrameCache) (location : FrameLocation) (frame : Bytes) : FrameCache :=
  let cache := cache.tick
  match cache.position? location <|> cache.vacancy? with
  | some slot => cache.fill slot location frame
  | none => let (slot, cache) := cache.evict; cache.fill slot location frame

end FrameCache

end CartridgeBank
