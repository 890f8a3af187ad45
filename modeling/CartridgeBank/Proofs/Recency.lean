import CartridgeBank.Proofs.FrameCache

namespace CartridgeBank

/-- A call of a frame cache. -/
inductive CacheCall where
  | put (location : FrameLocation) (frame : Bytes)
  | get (location : FrameLocation)
  | remove (location : FrameLocation)
  | invalidate (location : FrameLocation)
  | contains (location : FrameLocation)
  | lastEvicted
deriving DecidableEq, Repr

/-- What a call of a frame cache returns. -/
inductive CacheReply where
  | done
  | frame (frame : Option Bytes)
  | flag (value : Bool)
deriving DecidableEq, Repr

namespace FrameCache

def respond (call : CacheCall) (cache : FrameCache) : CacheReply × FrameCache :=
  match call with
  | .put location frame => (.done, cache.put location frame)
  | .get location => (.frame (cache.get location).1, (cache.get location).2)
  | .remove location => (.frame (cache.remove location).1, (cache.remove location).2)
  | .invalidate location => (.flag (cache.invalidate location).1, (cache.invalidate location).2)
  | .contains location => (.flag (cache.contains location), cache)
  | .lastEvicted => (.frame cache.overflow, cache)

/-- Makes calls one after the other. -/
def respondAll : List CacheCall → FrameCache → List CacheReply × FrameCache
  | [], cache => ([], cache)
  | call :: rest, cache =>
    let (reply, next) := respond call cache
    let (replies, last) := respondAll rest next
    (reply :: replies, last)

end FrameCache

/-- Frames with their locations in the order of their last use, the one unused for longest first. -/
structure Recency where
  capacity : Nat
  entries : List (FrameLocation × Bytes) := []
  /-- The frames that were removed or driven out, the latest first. -/
  taken : List (FrameLocation × Bytes) := []
deriving DecidableEq, Repr

namespace Recency

def frame? (recency : Recency) (location : FrameLocation) : Option Bytes :=
  (recency.entries.find? (·.1 == location)).map Prod.snd

def contains (recency : Recency) (location : FrameLocation) : Bool :=
  (recency.frame? location).isSome

/-- All other frames. -/
def without (recency : Recency) (location : FrameLocation) : List (FrameLocation × Bytes) :=
  recency.entries.filter (·.1 ≠ location)

/-- Only a new location in a full list drives out the frame unused for longest. -/
def put (recency : Recency) (location : FrameLocation) (frame : Bytes) : Recency :=
  if recency.contains location ∨ recency.entries.length < recency.capacity then
    { recency with entries := recency.without location ++ [(location, frame)] }
  else { recency with
    entries := recency.entries.drop 1 ++ [(location, frame)]
    taken := recency.entries.take 1 ++ recency.taken }

def get (recency : Recency) (location : FrameLocation) : Option Bytes × Recency :=
  match recency.frame? location with
  | none => (none, recency)
  | some frame =>
    (some frame, { recency with entries := recency.without location ++ [(location, frame)] })

def remove (recency : Recency) (location : FrameLocation) : Option Bytes × Recency :=
  match recency.frame? location with
  | none => (none, recency)
  | some frame => (some frame, { recency with
      entries := recency.without location, taken := (location, frame) :: recency.taken })

def respond (call : CacheCall) (recency : Recency) : CacheReply × Recency :=
  match call with
  | .put location frame => (.done, recency.put location frame)
  | .get location => (.frame (recency.get location).1, (recency.get location).2)
  | .remove location => (.frame (recency.remove location).1, (recency.remove location).2)
  | .invalidate location => (.flag (recency.contains location),
      { recency with entries := recency.without location })
  | .contains location => (.flag (recency.contains location), recency)
  | .lastEvicted => (.frame (recency.taken.head?.map Prod.snd), recency)

/-- Makes calls one after the other. -/
def respondAll : List CacheCall → Recency → List CacheReply × Recency
  | [], recency => ([], recency)
  | call :: rest, recency =>
    let (reply, next) := respond call recency
    let (replies, last) := respondAll rest next
    (reply :: replies, last)

theorem capacity_respond (call : CacheCall) (recency : Recency) :
    (respond call recency).2.capacity = recency.capacity := by
  cases call with
  | put location frame =>
    simp only [respond, put]
    split <;> rfl
  | get location =>
    simp only [respond, get]
    cases recency.frame? location <;> rfl
  | remove location =>
    simp only [respond, remove]
    cases recency.frame? location <;> rfl
  | invalidate location => rfl
  | contains location => rfl
  | lastEvicted => rfl

theorem capacity_respondAll (calls : List CacheCall) (recency : Recency) :
    (respondAll calls recency).2.capacity = recency.capacity := by
  induction calls generalizing recency with
  | nil => rfl
  | cons call rest ih => exact (ih _).trans (capacity_respond call recency)

end Recency

end CartridgeBank
