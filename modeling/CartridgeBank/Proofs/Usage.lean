import CartridgeBank.Proofs.Accounting

namespace CartridgeBank

/-- A list by last use with the number of look-ups that found their frame and that did not. -/
structure Usage extends Recency where
  hits : Nat := 0
  misses : Nat := 0
deriving DecidableEq, Repr

namespace Usage

/-- What a cache tells, if no frame is removed: all that were taken out have been driven out. -/
def stats (usage : Usage) : CacheStats where
  hits := usage.hits
  misses := usage.misses
  evictions := usage.taken.length
  occupied := usage.entries.length
  capacity := usage.capacity

def put (usage : Usage) (location : FrameLocation) (frame : Bytes) : Usage :=
  { usage with toRecency := usage.toRecency.put location frame }

/-- Looks a frame up. -/
def lookUp (usage : Usage) (location : FrameLocation) : Usage where
  toRecency := (usage.toRecency.get location).2
  hits := usage.hits + (usage.contains location).toNat
  misses := usage.misses + (!usage.contains location).toNat

/-- Looks a frame up, and stores it if it was not there. -/
def readThrough (usage : Usage) (location : FrameLocation) (frame : Bytes) : Usage :=
  if usage.contains location then usage.lookUp location
  else (usage.lookUp location).put location frame

def invalidate (usage : Usage) (location : FrameLocation) : Usage :=
  { usage with entries := usage.without location }

def readThroughAll (usage : Usage) (pieces : List (FrameLocation × Bytes)) : Usage :=
  pieces.foldl (fun usage piece => usage.readThrough piece.1 piece.2) usage

def putAll (usage : Usage) (pieces : List (FrameLocation × Bytes)) : Usage :=
  pieces.foldl (fun usage piece => usage.put piece.1 piece.2) usage

def invalidateAll (usage : Usage) (locations : List FrameLocation) : Usage :=
  locations.foldl invalidate usage

end Usage

theorem Recency.get_fst (recency : Recency) (location : FrameLocation) :
    (recency.get location).1 = recency.frame? location := by
  unfold get
  cases recency.frame? location <;> rfl

theorem Recency.taken_get (recency : Recency) (location : FrameLocation) :
    (recency.get location).2.taken = recency.taken := by
  unfold get
  cases recency.frame? location <;> rfl

namespace FrameCache

variable {cache : FrameCache} {recency : Recency} {order : List CachedFrame} {usage : Usage}
  {location : FrameLocation}

/-- A new location in a full cache drives one frame out of the list. -/
theorem Follows.length_taken_put (follows : cache.Follows recency order)
    (positive : 0 < cache.capacity) (location : FrameLocation) (frame : Bytes) :
    (recency.put location frame).taken.length =
      recency.taken.length + (cache.crowdedBy location).toNat := by
  have size : cache.size = recency.entries.length := follows.length_entries.symm
  have full := @capacity_le_size_iff cache
  rw [size, follows.capacity] at full
  rw [follows.capacity] at positive
  unfold Recency.put crowdedBy
  rw [follows.contains_eq]
  cases held : recency.contains location with
  | true =>
    rw [if_pos (Or.inl rfl)]
    rfl
  | false =>
    by_cases spare : recency.entries.length < recency.capacity
    · have vacant : cache.slots.all Option.isSome = false :=
        Bool.eq_false_iff.mpr fun all => Nat.not_le.mpr spare (full.mpr all)
      rw [if_pos (Or.inr spare), vacant]
      rfl
    · rw [if_neg (not_or.mpr ⟨Bool.false_ne_true, spare⟩), full.mp (Nat.le_of_not_lt spare),
        List.length_append, List.length_take, Nat.min_eq_left (by omega), Nat.add_comm]
      rfl

/-- A cache holds the frames of a list by last use and has counted what the list tells. -/
structure Used (cache : FrameCache) (usage : Usage) : Prop where
  positive : 0 < cache.capacity
  follows : ∃ order, cache.Follows usage.toRecency order
  hits : cache.hits = usage.hits
  misses : cache.misses = usage.misses
  evictions : cache.evictions = usage.taken.length

namespace Used

theorem stats (used : cache.Used usage) : cache.stats = usage.stats := by
  obtain ⟨order, follows⟩ := used.follows
  rw [FrameCache.stats, Usage.stats, used.hits, used.misses, used.evictions, follows.capacity,
    follows.length_entries]
  rfl

theorem created {capacity : Nat} (positive : 0 < capacity) :
    Used { slots := List.replicate capacity none } { capacity } where
  positive := by rwa [FrameCache.capacity, List.length_replicate]
  follows := ⟨[], .created capacity⟩
  hits := rfl
  misses := rfl
  evictions := rfl

theorem put (used : cache.Used usage) (location : FrameLocation) (frame : Bytes) :
    (cache.put location frame).Used (usage.put location frame) := by
  obtain ⟨order, follows⟩ := used.follows
  obtain ⟨hits, misses⟩ := counters_put cache location frame
  refine ⟨?_, follows.put used.positive location frame, hits.trans used.hits,
    misses.trans used.misses, ?_⟩
  · rw [capacity_put follows.ranks.distinct]
    exact used.positive
  · rw [(follows.clock_put used.positive location frame).2, used.evictions]
    exact (follows.length_taken_put used.positive location frame).symm

theorem get (used : cache.Used usage) (location : FrameLocation) :
    (cache.get location).2.Used (usage.lookUp location) := by
  obtain ⟨order, follows⟩ := used.follows
  obtain ⟨hits, misses⟩ := counters_get cache location
  rw [follows.contains_eq, used.hits] at hits
  rw [follows.contains_eq, used.misses] at misses
  refine ⟨?_, (follows.get location).2, hits, misses, ?_⟩
  · rw [capacity_get]
    exact used.positive
  · rw [evictions_get, used.evictions, Usage.lookUp, Recency.taken_get]

theorem readThrough (used : cache.Used usage) (location : FrameLocation) (frame : Bytes) :
    (cache.readThrough location frame).Used (usage.readThrough location frame) := by
  obtain ⟨order, follows⟩ := used.follows
  have looked := used.get location
  have found := (follows.get location).1
  rw [Recency.get_fst] at found
  unfold FrameCache.readThrough Usage.readThrough Recency.contains
  rw [← found]
  rcases run : cache.get location with ⟨bytes, next⟩
  rw [run] at looked
  cases bytes with
  | none => exact looked.put location frame
  | some bytes => exact looked

theorem invalidate (used : cache.Used usage) (location : FrameLocation) :
    (cache.invalidate location).2.Used (usage.invalidate location) := by
  obtain ⟨order, follows⟩ := used.follows
  obtain ⟨hits, misses⟩ := counters_invalidate cache location
  refine ⟨?_, (follows.invalidate location).2, hits.trans used.hits, misses.trans used.misses, ?_⟩
  · rw [capacity_invalidate]
    exact used.positive
  · rw [evictions_invalidate, used.evictions]
    rfl

theorem readThroughAll (used : cache.Used usage) (pieces : List (FrameLocation × Bytes)) :
    (cache.readThroughAll pieces).Used (usage.readThroughAll pieces) :=
  List.foldl_rel used fun piece _ _ _ before => before.readThrough piece.1 piece.2

theorem putAll (used : cache.Used usage) (pieces : List (FrameLocation × Bytes)) :
    (cache.putAll pieces).Used (usage.putAll pieces) :=
  List.foldl_rel used fun piece _ _ _ before => before.put piece.1 piece.2

theorem invalidateAll (used : cache.Used usage) (locations : List FrameLocation) :
    (cache.invalidateAll locations).Used (usage.invalidateAll locations) :=
  List.foldl_rel used fun location _ _ _ before => before.invalidate location

variable {cache? : Option FrameCache} {usage? : Option Usage}

theorem map_stats (used : cache?.Rel Used usage?) :
    cache?.map FrameCache.stats = usage?.map Usage.stats := by
  cases used with
  | none => rfl
  | some used => exact congrArg some used.stats

theorem exists_cache (used : cache?.Rel Used (some usage)) :
    ∃ cache, cache? = some cache ∧ cache.Used usage := by
  cases used with
  | some used => exact ⟨_, rfl, used⟩

/-- A step of the cache and one of the list that keep them together do so if there is a cache. -/
theorem map {change : FrameCache → FrameCache} {changeUsage : Usage → Usage}
    (used : cache?.Rel Used usage?)
    (kept : ∀ cache usage, Used cache usage → Used (change cache) (changeUsage usage)) :
    (cache?.map change).Rel Used (usage?.map changeUsage) := by
  cases used with
  | none => exact .none
  | some used => exact .some (kept _ _ used)

end Used

end FrameCache

end CartridgeBank
