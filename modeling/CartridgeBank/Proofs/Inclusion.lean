import CartridgeBank.Proofs.Replacement

namespace CartridgeBank

/-- An access to a cache: a call, or a read through it, which stores the frame that was fetched if it
was not there. -/
inductive CacheAccess where
  | call (call : CacheCall)
  | readThrough (location : FrameLocation) (frame : Bytes)
deriving DecidableEq, Repr

/-- The location that is looked up, if any. -/
def CacheAccess.sought? : CacheAccess → Option FrameLocation
  | .call (.get location) => some location
  | .readThrough location _ => some location
  | .call _ => none

namespace Recency

/-- Moves a location to the end, where it may be new. -/
def renew (location : FrameLocation) (locations : List FrameLocation) : List FrameLocation :=
  locations.erase location ++ [location]

/-- Moves a location to the end. A new one drives the first out if there are as many as there may be. -/
def enter (capacity : Nat) (location : FrameLocation) (locations : List FrameLocation) :
    List FrameLocation :=
  if location ∈ locations ∨ locations.length < capacity then renew location locations
  else locations.drop 1 ++ [location]

theorem length_renew (location : FrameLocation) (locations : List FrameLocation) :
    (renew location locations).length =
      if location ∈ locations then locations.length else locations.length + 1 := by
  rw [renew, List.length_append, List.length_singleton, List.length_erase]
  split
  · rename_i member
    have some := List.length_pos_of_mem member
    omega
  · rfl

/-- The locations of a smaller list by last use are among those of a larger one, in the same order, and
the larger one has at least as many vacancies. -/
structure Within (few : Nat) (small : List FrameLocation) (many : Nat)
    (large : List FrameLocation) : Prop where
  ordered : small.Sublist large
  room : large.length + few ≤ small.length + many

namespace Within

variable {location : FrameLocation} {small large : List FrameLocation} {few many : Nat}

theorem erase (within : Within few small many large) (location : FrameLocation) :
    Within few (small.erase location) many (large.erase location) := by
  refine ⟨within.ordered.erase location, ?_⟩
  have room := within.room
  rw [List.length_erase, List.length_erase]
  by_cases inSmall : location ∈ small
  · have inLarge := within.ordered.subset inSmall
    have some := List.length_pos_of_mem inSmall
    have someToo := List.length_pos_of_mem inLarge
    rw [if_pos inSmall, if_pos inLarge]
    omega
  · rw [if_neg inSmall]
    split <;> omega

theorem renew (within : Within few small many large) (present : location ∈ small) :
    Within few (renew location small) many (renew location large) := by
  refine ⟨(within.ordered.erase location).append (.refl [location]), ?_⟩
  rw [length_renew, length_renew, if_pos present, if_pos (within.ordered.subset present)]
  exact within.room

/-- A use of what only the larger list has changes the order of that list alone. -/
theorem renew_right (within : Within few small many large) (absent : location ∉ small)
    (present : location ∈ large) : Within few small many (Recency.renew location large) := by
  refine ⟨?_, ?_⟩
  · have erased := within.ordered.erase location
    rw [List.erase_of_not_mem absent] at erased
    exact erased.trans (List.sublist_append_left _ _)
  · rw [length_renew, if_pos present]
    exact within.room

/-- What enters both drives the first out of the larger list only if it also does out of the smaller
one. -/
theorem enter (within : Within few small many large) (positive : 0 < few)
    (location : FrameLocation) :
    Within few (enter few location small) many (enter many location large) := by
  have room := within.room
  by_cases present : location ∈ small
  · have presentToo := within.ordered.subset present
    rw [Recency.enter, Recency.enter, if_pos (Or.inl present), if_pos (Or.inl presentToo)]
    exact within.renew present
  have erased := within.ordered.erase location
  rw [List.erase_of_not_mem present] at erased
  unfold Recency.enter
  by_cases spare : small.length < few
  · have spareToo : large.length < many := by omega
    rw [if_pos (Or.inr spare), if_pos (Or.inr spareToo)]
    refine ⟨(within.ordered.erase location).append (.refl [location]), ?_⟩
    rw [length_renew, length_renew, if_neg present]
    split <;> omega
  have same : (small.drop 1 ++ [location]).length = small.length := by
    rw [List.length_append, List.length_singleton, List.length_drop]
    omega
  rw [if_neg (not_or.mpr ⟨present, spare⟩)]
  by_cases kept : location ∈ large ∨ large.length < many
  · rw [if_pos kept]
    refine ⟨((List.drop_sublist 1 small).trans erased).append (.refl [location]), ?_⟩
    rw [same, length_renew]
    split
    · exact room
    · have spareToo := kept.resolve_left ‹_›
      omega
  · have longer := within.ordered.length_le
    rw [if_neg kept]
    refine ⟨(within.ordered.drop 1).append (.refl [location]), ?_⟩
    rw [same, List.length_append, List.length_singleton, List.length_drop]
    omega

end Within

variable {recency small large : Recency} {location : FrameLocation}

/-- Looks a frame up, and stores it if it was not there. -/
def readThrough (recency : Recency) (location : FrameLocation) (frame : Bytes) : Recency :=
  match recency.get location with
  | (some _, recency) => recency
  | (none, recency) => recency.put location frame

def access (recency : Recency) : CacheAccess → Recency
  | .call call => (respond call recency).2
  | .readThrough location frame => recency.readThrough location frame

/-- The locations in the order of their last use. -/
def locations (recency : Recency) : List FrameLocation := recency.entries.map Prod.fst

theorem contains_iff : recency.contains location = true ↔ location ∈ recency.locations := by
  rw [contains, frame?, Option.isSome_map, List.find?_isSome, locations, List.mem_map]
  simp only [beq_iff_eq]

theorem frame?_eq_none_iff : recency.frame? location = none ↔ location ∉ recency.locations := by
  rw [← contains_iff, contains, Option.not_isSome_iff_eq_none]

theorem mem_of_frame? {frame : Bytes} (found : recency.frame? location = some frame) :
    location ∈ recency.locations := by
  rw [← contains_iff, contains, found]
  rfl

theorem locations_without (distinct : recency.locations.Nodup) (location : FrameLocation) :
    (recency.without location).map Prod.fst = recency.locations.erase location := by
  rw [distinct.erase_eq_filter, locations, List.filter_map, without]
  congr 1
  refine List.filter_congr fun entry _ => ?_
  by_cases same : entry.1 = location <;> simp [same]

theorem locations_renewed (distinct : recency.locations.Nodup) (location : FrameLocation)
    (frame : Bytes) : (recency.without location ++ [(location, frame)]).map Prod.fst =
      renew location recency.locations := by
  rw [List.map_append, locations_without distinct]
  rfl

theorem locations_put (distinct : recency.locations.Nodup) (location : FrameLocation)
    (frame : Bytes) : (recency.put location frame).locations =
      enter recency.capacity location recency.locations := by
  have count : recency.locations.length = recency.entries.length := List.length_map _
  unfold put enter
  simp only [contains_iff, count]
  split
  · exact locations_renewed distinct location frame
  · rw [locations, List.map_append, List.map_drop]
    rfl

theorem locations_get (distinct : recency.locations.Nodup) (location : FrameLocation) :
    (recency.get location).2.locations =
      if location ∈ recency.locations then renew location recency.locations
      else recency.locations := by
  unfold get
  cases found : recency.frame? location with
  | none => rw [if_neg (frame?_eq_none_iff.mp found)]
  | some frame =>
    rw [if_pos (mem_of_frame? found)]
    exact locations_renewed distinct location frame

theorem locations_remove (distinct : recency.locations.Nodup) (location : FrameLocation) :
    (recency.remove location).2.locations = recency.locations.erase location := by
  unfold remove
  cases found : recency.frame? location with
  | none => exact (List.erase_of_not_mem (frame?_eq_none_iff.mp found)).symm
  | some frame => exact locations_without distinct location

/-- Reading a frame through the cache leaves the same locations as storing it. -/
theorem locations_readThrough (distinct : recency.locations.Nodup) (location : FrameLocation)
    (frame : Bytes) : (recency.readThrough location frame).locations =
      enter recency.capacity location recency.locations := by
  unfold readThrough get
  cases found : recency.frame? location with
  | none => exact locations_put distinct location frame
  | some bytes =>
    rw [enter, if_pos (Or.inl (mem_of_frame? found))]
    exact locations_renewed distinct location bytes

theorem capacity_readThrough (recency : Recency) (location : FrameLocation) (frame : Bytes) :
    (recency.readThrough location frame).capacity = recency.capacity := by
  unfold readThrough get
  cases recency.frame? location with
  | none => exact capacity_respond (.put location frame) recency
  | some bytes => rfl

theorem capacity_access (recency : Recency) (access : CacheAccess) :
    (recency.access access).capacity = recency.capacity := by
  cases access with
  | call call => exact capacity_respond call recency
  | readThrough location frame => exact capacity_readThrough recency location frame

/-- Whatever the access, a smaller list stays within a larger one. -/
theorem Within.access
    (within : Within small.capacity small.locations large.capacity large.locations)
    (positive : 0 < small.capacity) (smallDistinct : small.locations.Nodup)
    (largeDistinct : large.locations.Nodup) (access : CacheAccess) :
    Within (small.access access).capacity (small.access access).locations
      (large.access access).capacity (large.access access).locations := by
  rw [capacity_access, capacity_access]
  cases access with
  | readThrough location frame =>
    rw [Recency.access, Recency.access, locations_readThrough smallDistinct,
      locations_readThrough largeDistinct]
    exact within.enter positive location
  | call call =>
    unfold Recency.access respond
    cases call with
    | put location frame =>
      dsimp only
      rw [locations_put smallDistinct, locations_put largeDistinct]
      exact within.enter positive location
    | get location =>
      dsimp only
      rw [locations_get smallDistinct, locations_get largeDistinct]
      by_cases present : location ∈ small.locations
      · rw [if_pos present, if_pos (within.ordered.subset present)]
        exact within.renew present
      · rw [if_neg present]
        split
        · exact within.renew_right present ‹_›
        · exact within
    | remove location =>
      dsimp only
      rw [locations_remove smallDistinct, locations_remove largeDistinct]
      exact within.erase location
    | invalidate location =>
      dsimp only [locations]
      rw [locations_without smallDistinct, locations_without largeDistinct]
      exact within.erase location
    | contains location => exact within
    | lastEvicted => exact within

end Recency

namespace FrameCache

variable {cache less more : FrameCache} {recency small large : Recency} {order : List CachedFrame}
  {location : FrameLocation}

def access (cache : FrameCache) : CacheAccess → FrameCache
  | .call call => (respond call cache).2
  | .readThrough location frame => cache.readThrough location frame

/-- Makes accesses one after the other. -/
def accessAll (cache : FrameCache) (accesses : List CacheAccess) : FrameCache :=
  accesses.foldl access cache

theorem readThrough_get_or_put (cache : FrameCache) (location : FrameLocation) (frame : Bytes) :
    cache.readThrough location frame = (cache.get location).2 ∨
      cache.readThrough location frame = (cache.get location).2.put location frame := by
  unfold readThrough
  split
  · rename_i held
    exact Or.inl (congrArg Prod.snd held).symm
  · rename_i held
    rw [held]
    exact Or.inr rfl

theorem Follows.readThrough (follows : cache.Follows recency order) (positive : 0 < cache.capacity)
    (location : FrameLocation) (frame : Bytes) :
    ∃ later, (cache.readThrough location frame).Follows (recency.readThrough location frame)
      later := by
  obtain ⟨same, later, looked⟩ := follows.get location
  have still : 0 < (cache.get location).2.capacity := by
    rw [capacity_get]
    exact positive
  unfold FrameCache.readThrough Recency.readThrough
  rcases held : cache.get location with ⟨found, next⟩
  rcases listed : recency.get location with ⟨foundToo, nextToo⟩
  rw [held, listed] at same looked
  rw [held] at still
  obtain rfl : found = foundToo := same
  cases found with
  | none => exact looked.put still location frame
  | some bytes => exact ⟨later, looked⟩

theorem Follows.access (follows : cache.Follows recency order) (positive : 0 < cache.capacity)
    (access : CacheAccess) : ∃ later, (cache.access access).Follows (recency.access access) later := by
  cases access with
  | call call => exact (follows.respond positive call).2
  | readThrough location frame => exact follows.readThrough positive location frame

theorem Follows.distinct (follows : cache.Follows recency order) : recency.locations.Nodup := by
  rw [Recency.locations, ← follows.pieces, List.map_map]
  exact List.pairwise_map.mpr follows.ranks.apart

/-- Whether an access finds what it looks up. -/
def finds (cache : FrameCache) (access : CacheAccess) : Bool := access.sought?.any cache.contains

/-- Whether an access looks up what is not there. -/
def lacks (cache : FrameCache) (access : CacheAccess) : Bool :=
  access.sought?.any fun location => !cache.contains location

theorem counters_get (cache : FrameCache) (location : FrameLocation) :
    (cache.get location).2.hits = cache.hits + (cache.contains location).toNat ∧
      (cache.get location).2.misses = cache.misses + (!cache.contains location).toNat := by
  unfold get contains
  simp only [position?_tick]
  cases cache.position? location <;> exact ⟨rfl, rfl⟩

theorem counters_remove (cache : FrameCache) (location : FrameLocation) :
    (cache.remove location).2.hits = cache.hits ∧
      (cache.remove location).2.misses = cache.misses := by
  unfold remove
  simp only [position?_tick]
  cases cache.position? location <;> exact ⟨rfl, rfl⟩

theorem counters_invalidate (cache : FrameCache) (location : FrameLocation) :
    (cache.invalidate location).2.hits = cache.hits ∧
      (cache.invalidate location).2.misses = cache.misses := by
  unfold invalidate
  simp only [position?_tick]
  cases cache.position? location <;> exact ⟨rfl, rfl⟩

theorem counters_evict (cache : FrameCache) :
    cache.evict.2.hits = cache.hits ∧ cache.evict.2.misses = cache.misses := by
  unfold evict
  dsimp only
  split
  · exact ⟨rfl, rfl⟩
  · exact counters_remove cache _

theorem counters_put (cache : FrameCache) (location : FrameLocation) (frame : Bytes) :
    (cache.put location frame).hits = cache.hits ∧
      (cache.put location frame).misses = cache.misses := by
  unfold put
  dsimp only
  split
  · exact ⟨rfl, rfl⟩
  · exact counters_evict cache.tick

theorem counters_access (cache : FrameCache) (access : CacheAccess) :
    (cache.access access).hits = cache.hits + (cache.finds access).toNat ∧
      (cache.access access).misses = cache.misses + (cache.lacks access).toNat := by
  cases access with
  | readThrough location frame =>
    have looked := counters_get cache location
    obtain ⟨hits, misses⟩ := counters_put (cache.get location).2 location frame
    rcases readThrough_get_or_put cache location frame with same | same
    · rw [FrameCache.access, same]
      exact looked
    · rw [FrameCache.access, same]
      exact ⟨hits.trans looked.1, misses.trans looked.2⟩
  | call call =>
    cases call with
    | put location frame => exact counters_put cache location frame
    | get location => exact counters_get cache location
    | remove location => exact counters_remove cache location
    | invalidate location => exact counters_invalidate cache location
    | contains location => exact ⟨rfl, rfl⟩
    | lastEvicted => exact ⟨rfl, rfl⟩

theorem clock_access_le (cache : FrameCache) (access : CacheAccess) :
    (cache.access access).clock ≤ cache.clock + 3 := by
  cases access with
  | call call =>
    have ticks := clock_respond_le call cache
    exact ticks.trans (Nat.le_succ _)
  | readThrough location frame =>
    have looked := clock_get cache location
    have stored := clock_put_le (cache.get location).2 location frame
    rcases readThrough_get_or_put cache location frame with same | same <;>
      rw [FrameCache.access, same] <;> omega

/-- A smaller cache beside a larger one: what it holds is within what the larger one holds, and it has
found no more and missed no less. -/
structure Trails (less more : FrameCache) : Prop where
  positive : 0 < less.capacity
  lists : ∃ small large lessOrder moreOrder, less.Follows small lessOrder ∧
    more.Follows large moreOrder ∧
    Recency.Within small.capacity small.locations large.capacity large.locations
  hits : less.hits ≤ more.hits
  misses : more.misses ≤ less.misses

namespace Trails

theorem contains (trails : less.Trails more) (held : less.contains location = true) :
    more.contains location = true := by
  obtain ⟨small, large, lessOrder, moreOrder, lessFollows, moreFollows, within⟩ := trails.lists
  rw [lessFollows.contains_eq, Recency.contains_iff] at held
  rw [moreFollows.contains_eq, Recency.contains_iff]
  exact within.ordered.subset held

theorem finds (trails : less.Trails more) {access : CacheAccess}
    (found : less.finds access = true) : more.finds access = true := by
  obtain ⟨location, sought, held⟩ := (Option.any_eq_true _ _).mp found
  exact (Option.any_eq_true _ _).mpr ⟨location, sought, trails.contains held⟩

theorem lacks (trails : less.Trails more) {access : CacheAccess}
    (lacking : more.lacks access = true) : less.lacks access = true := by
  obtain ⟨location, sought, absent⟩ := (Option.any_eq_true _ _).mp lacking
  refine (Option.any_eq_true _ _).mpr ⟨location, sought, ?_⟩
  cases held : less.contains location with
  | false => rfl
  | true =>
    rw [trails.contains held] at absent
    cases absent

/-- What the smaller cache finds the larger one finds, and what that one lacks the smaller one lacks. -/
theorem access (trails : less.Trails more) (access : CacheAccess) :
    (less.access access).Trails (more.access access) := by
  obtain ⟨small, large, lessOrder, moreOrder, lessFollows, moreFollows, within⟩ := trails.lists
  have positive := trails.positive
  have fewer : small.capacity ≤ large.capacity := by
    have room := within.room
    have shorter := within.ordered.length_le
    omega
  have positiveToo : 0 < more.capacity := by
    rw [moreFollows.capacity]
    rw [lessFollows.capacity] at positive
    omega
  obtain ⟨lessLater, lessKept⟩ := lessFollows.access positive access
  obtain ⟨moreLater, moreKept⟩ := moreFollows.access positiveToo access
  obtain ⟨lessHits, lessMisses⟩ := counters_access less access
  obtain ⟨moreHits, moreMisses⟩ := counters_access more access
  have found : (less.finds access).toNat ≤ (more.finds access).toNat :=
    Bool.toNat_le_toNat trails.finds
  have lacking : (more.lacks access).toNat ≤ (less.lacks access).toNat :=
    Bool.toNat_le_toNat trails.lacks
  refine ⟨?_, ⟨_, _, _, _, lessKept, moreKept, ?_⟩, ?_, ?_⟩
  · rw [lessKept.capacity, Recency.capacity_access, ← lessFollows.capacity]
    exact positive
  · rw [lessFollows.capacity] at positive
    exact within.access positive lessFollows.distinct moreFollows.distinct access
  · have hits := trails.hits
    omega
  · have misses := trails.misses
    omega

theorem accessAll (trails : less.Trails more) (accesses : List CacheAccess) :
    (less.accessAll accesses).Trails (more.accessAll accesses) := by
  induction accesses generalizing less more with
  | nil => exact trails
  | cons access rest ih => exact ih (trails.access access)

theorem created {few many : Nat} (positive : 0 < few) (fewer : few ≤ many) :
    Trails { slots := List.replicate few none } { slots := List.replicate many none } := by
  have capacity : FrameCache.capacity { slots := List.replicate few none } = few :=
    List.length_replicate
  refine ⟨by rwa [capacity], ⟨_, _, _, _, Follows.created few, Follows.created many, ?_⟩, le_rfl,
    le_rfl⟩
  exact ⟨.refl [], by simpa [Recency.locations] using fewer⟩

end Trails

theorem clock_accessAll_le (accesses : List CacheAccess) (cache : FrameCache) :
    (cache.accessAll accesses).clock ≤ cache.clock + 3 * accesses.length := by
  induction accesses generalizing cache with
  | nil => exact le_rfl
  | cons access rest ih =>
    have first := clock_access_le cache access
    have others := ih (cache.access access)
    have count : (access :: rest).length = rest.length + 1 := rfl
    change ((cache.access access).accessAll rest).clock ≤ _
    omega

/-- A larger cache never loses a hit. Whatever accesses are made to two new caches, the larger one has
all that the smaller one has, has found as much of what was looked up or more, and has missed as much
or less. Their clocks move by three ticks an access at most. -/
theorem larger_never_loses {few many : Nat} (positive : 0 < few) (fewer : few ≤ many)
    (bounded : many ≤ maxCacheFrames) :
    ∃ less more, ofCapacity few = .ok less ∧ ofCapacity many = .ok more ∧ ∀ accesses,
      (∀ location, (less.accessAll accesses).contains location = true →
        (more.accessAll accesses).contains location = true) ∧
      (less.accessAll accesses).hits ≤ (more.accessAll accesses).hits ∧
      (more.accessAll accesses).misses ≤ (less.accessAll accesses).misses ∧
      (less.accessAll accesses).clock ≤ 3 * accesses.length ∧
      (more.accessAll accesses).clock ≤ 3 * accesses.length := by
  refine ⟨_, _, ofCapacity_of_sized ⟨positive, fewer.trans bounded⟩,
    ofCapacity_of_sized ⟨positive.trans_le fewer, bounded⟩, fun accesses => ?_⟩
  have trails := (Trails.created positive fewer).accessAll accesses
  have ticks (capacity : Nat) :=
    clock_accessAll_le accesses { slots := List.replicate capacity none }
  simp only [Nat.zero_add] at ticks
  exact ⟨fun location => trails.contains, trails.hits, trails.misses, ticks few, ticks many⟩

/-- With one slot instead of two, the frame that was read first is gone when it is looked up again. -/
theorem larger_never_loses_one_slot :
    let accesses : List CacheAccess := [.readThrough ⟨0, 0⟩ [1], .readThrough ⟨0, 1⟩ [2],
      .call (.remove ⟨0, 1⟩), .call (.put ⟨1, 0⟩ [3]), .call (.get ⟨0, 0⟩)]
    ∃ less more, ofCapacity 1 = .ok less ∧ ofCapacity 2 = .ok more ∧
      (less.accessAll accesses).contains ⟨1, 0⟩ = true ∧
        (more.accessAll accesses).contains ⟨1, 0⟩ = true ∧
        (less.accessAll accesses).hits = 0 ∧ (more.accessAll accesses).hits = 1 := by
  intro accesses
  obtain ⟨less, more, lessMade, moreMade, all⟩ :=
    larger_never_loses (by decide : 0 < 1) (by decide : 1 ≤ 2) (by decide)
  obtain rfl := Except.ok.inj lessMade
  obtain rfl := Except.ok.inj moreMade
  have held : (accessAll { slots := [none] } accesses).contains ⟨1, 0⟩ = true := by decide
  exact ⟨_, _, lessMade, moreMade, held, (all accesses).1 _ held, by decide, by decide⟩

end FrameCache

end CartridgeBank
