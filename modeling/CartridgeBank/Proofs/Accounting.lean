import CartridgeBank.Proofs.Inclusion

namespace CartridgeBank

/-- Whether a location is new to a cache with no empty slot. -/
def FrameCache.crowdedBy (cache : FrameCache) (location : FrameLocation) : Bool :=
  !cache.contains location && cache.slots.all Option.isSome

/-- Whether a reply brings the bytes of a frame. -/
def CacheReply.isFrame : CacheReply → Bool
  | .frame bytes => bytes.isSome
  | _ => false

/-- A call of a frame cache, and the cache as it is then. -/
structure CacheTurn where
  cache : FrameCache
  call : CacheCall

namespace CacheTurn

def reply (turn : CacheTurn) : CacheReply := (FrameCache.respond turn.call turn.cache).1

/-- Whether the clock counts calls of this kind. -/
def ticks (turn : CacheTurn) : Bool :=
  match turn.call with
  | .put _ _ | .get _ | .remove _ | .invalidate _ => true
  | .contains _ | .lastEvicted => false

def looksUp (turn : CacheTurn) : Bool :=
  match turn.call with
  | .get _ => true
  | _ => false

/-- A look-up that returns bytes. -/
def hits (turn : CacheTurn) : Bool := turn.looksUp && turn.reply.isFrame

/-- A frame is stored for a location that is not there. -/
def enters (turn : CacheTurn) : Bool :=
  match turn.call with
  | .put location _ => !turn.cache.contains location
  | _ => false

/-- The same while every slot is occupied. -/
def crowds (turn : CacheTurn) : Bool :=
  match turn.call with
  | .put location _ => turn.cache.crowdedBy location
  | _ => false

/-- A removal that returns bytes. -/
def takes (turn : CacheTurn) : Bool :=
  match turn.call with
  | .remove _ => turn.reply.isFrame
  | _ => false

/-- An invalidation that returns true. -/
def forgets (turn : CacheTurn) : Bool :=
  match turn.call with
  | .invalidate _ => turn.reply == .flag true
  | _ => false

end CacheTurn

namespace FrameCache

/-- The calls of a run, each with the cache that it is made to. -/
def turns : List CacheCall → FrameCache → List CacheTurn
  | [], _ => []
  | call :: rest, cache => ⟨cache, call⟩ :: turns rest (respond call cache).2

theorem turns_call (calls : List CacheCall) (cache : FrameCache) :
    (turns calls cache).map CacheTurn.call = calls := by
  induction calls generalizing cache with
  | nil => rfl
  | cons call rest ih => exact congrArg (call :: ·) (ih _)

theorem turns_reply (calls : List CacheCall) (cache : FrameCache) :
    (turns calls cache).map CacheTurn.reply = (respondAll calls cache).1 := by
  induction calls generalizing cache with
  | nil => rfl
  | cons call rest ih => exact congrArg ((respond call cache).1 :: ·) (ih _)

end FrameCache

/-- What enters a full list drives something out. -/
theorem Recency.length_enter {capacity : Nat} (positive : 0 < capacity) (location : FrameLocation)
    (locations : List FrameLocation) :
    (enter capacity location locations).length =
      if location ∈ locations ∨ capacity ≤ locations.length then locations.length
      else locations.length + 1 := by
  unfold enter
  by_cases present : location ∈ locations
  · rw [if_pos (Or.inl present), if_pos (Or.inl present), length_renew, if_pos present]
  by_cases spare : locations.length < capacity
  · rw [if_pos (Or.inr spare), if_neg (not_or.mpr ⟨present, Nat.not_le.mpr spare⟩), length_renew,
      if_neg present]
  · have full := Nat.le_of_not_lt spare
    rw [if_neg (not_or.mpr ⟨present, spare⟩), if_pos (Or.inr full), List.length_append,
      List.length_singleton, List.length_drop]
    omega

namespace FrameCache

variable {cache before middle after : FrameCache} {recency : Recency} {order : List CachedFrame}
  {location : FrameLocation}

theorem vacancy?_eq_none_iff :
    cache.vacancy? = none ↔ cache.slots.all Option.isSome = true := by
  rw [vacancy?, List.findIdx?_eq_none_iff, List.all_eq_true]
  exact forall₂_congr fun slot _ => by cases slot <;> simp

theorem size_le_capacity (cache : FrameCache) : cache.size ≤ cache.capacity :=
  List.length_filterMap_le _ _

/-- There are as many entries as slots exactly if no slot is empty. -/
theorem capacity_le_size_iff :
    cache.capacity ≤ cache.size ↔ cache.slots.all Option.isSome = true := by
  have whole : cache.size = cache.capacity ↔ ∀ slot ∈ cache.slots, slot.isSome = true :=
    List.filterMap_length_eq_length
  rw [List.all_eq_true, ← whole]
  have few := cache.size_le_capacity
  omega

theorem isSome_frame? : (cache.frame? location).isSome = cache.contains location := by
  rw [Bool.eq_iff_iff, ← not_iff_not, Bool.not_eq_true, Bool.not_eq_true, Option.isSome_eq_false_iff,
    Option.isNone_iff_eq_none, frame?_eq_none_iff]

theorem remove_fst : (cache.remove location).1 = cache.frame? location := by
  cases found : cache.position? location with
  | none => simp [remove, frame?, found]
  | some slot => simp [remove, frame?, found]

theorem invalidate_fst : (cache.invalidate location).1 = cache.contains location := by
  unfold invalidate contains
  simp only [position?_tick]
  cases cache.position? location <;> rfl

theorem evictions_get (cache : FrameCache) (location : FrameLocation) :
    (cache.get location).2.evictions = cache.evictions := by
  unfold get
  simp only [position?_tick]
  cases cache.position? location <;> rfl

theorem evictions_invalidate (cache : FrameCache) (location : FrameLocation) :
    (cache.invalidate location).2.evictions = cache.evictions := by
  unfold invalidate
  simp only [position?_tick]
  cases cache.position? location <;> rfl

namespace Follows

theorem size_eq (follows : cache.Follows recency order) :
    cache.size = recency.locations.length := by
  rw [Recency.locations, List.length_map, follows.length_entries]
  rfl

theorem contains_iff (follows : cache.Follows recency order) :
    cache.contains location = true ↔ location ∈ recency.locations := by
  rw [follows.contains_eq, Recency.contains_iff]

/-- A new location takes one more slot, unless it drives another one out. -/
theorem size_put (follows : cache.Follows recency order) (positive : 0 < cache.capacity)
    (location : FrameLocation) (frame : Bytes) :
    (cache.put location frame).size + (cache.crowdedBy location).toNat =
      cache.size + (!cache.contains location).toNat := by
  obtain ⟨later, stored⟩ := follows.put positive location frame
  rw [follows.capacity] at positive
  rw [stored.size_eq, Recency.locations_put follows.distinct, Recency.length_enter positive,
    ← follows.size_eq, ← follows.capacity]
  unfold crowdedBy
  cases held : cache.contains location with
  | true =>
    rw [if_pos (Or.inl (follows.contains_iff.mp held))]
    rfl
  | false =>
    have absent : location ∉ recency.locations := fun present =>
      Bool.noConfusion (held.symm.trans (follows.contains_iff.mpr present))
    cases full : cache.slots.all Option.isSome with
    | true =>
      rw [if_pos (Or.inr (capacity_le_size_iff.mpr full))]
      rfl
    | false =>
      have spare : ¬cache.capacity ≤ cache.size := fun few =>
        Bool.noConfusion (full.symm.trans (capacity_le_size_iff.mp few))
      rw [if_neg (not_or.mpr ⟨absent, spare⟩)]
      rfl

theorem size_get (follows : cache.Follows recency order) (location : FrameLocation) :
    (cache.get location).2.size = cache.size := by
  obtain ⟨_, later, looked⟩ := follows.get location
  rw [looked.size_eq, Recency.locations_get follows.distinct, follows.size_eq]
  split
  · rename_i present
    rw [Recency.length_renew, if_pos present]
  · rfl

theorem size_erased {left : List FrameLocation} (follows : cache.Follows recency order)
    (erased : left = recency.locations.erase location) :
    left.length + (cache.contains location).toNat = cache.size := by
  rw [erased, List.length_erase, follows.size_eq]
  cases held : cache.contains location with
  | true =>
    have present := follows.contains_iff.mp held
    have some := List.length_pos_of_mem present
    rw [if_pos present, Bool.toNat_true]
    omega
  | false =>
    have absent : location ∉ recency.locations := fun present =>
      Bool.noConfusion (held.symm.trans (follows.contains_iff.mpr present))
    rw [if_neg absent, Bool.toNat_false]
    rfl

theorem size_remove (follows : cache.Follows recency order) (location : FrameLocation) :
    (cache.remove location).2.size + (cache.contains location).toNat = cache.size := by
  obtain ⟨_, later, removed⟩ := follows.remove location
  rw [removed.size_eq]
  exact follows.size_erased (Recency.locations_remove follows.distinct location)

theorem size_invalidate (follows : cache.Follows recency order) (location : FrameLocation) :
    (cache.invalidate location).2.size + (cache.contains location).toNat = cache.size := by
  obtain ⟨_, later, forgotten⟩ := follows.invalidate location
  rw [forgotten.size_eq]
  exact follows.size_erased (Recency.locations_without follows.distinct location)

/-- Storing a frame ticks once, and once more if it drives another one out. -/
theorem clock_put (follows : cache.Follows recency order) (positive : 0 < cache.capacity)
    (location : FrameLocation) (frame : Bytes) :
    (cache.put location frame).clock = cache.clock + 1 + (cache.crowdedBy location).toNat ∧
      (cache.put location frame).evictions =
        cache.evictions + (cache.crowdedBy location).toNat := by
  unfold FrameCache.put crowdedBy contains
  simp only [position?_tick]
  cases found : cache.position? location with
  | some slot => exact ⟨rfl, rfl⟩
  | none =>
    cases vacant : cache.vacancy? with
    | some slot =>
      have spare : cache.slots.all Option.isSome = false := by
        rw [Bool.eq_false_iff, ne_eq, ← vacancy?_eq_none_iff, vacant]
        exact nofun
      have vacant : cache.tick.vacancy? = some slot := vacant
      rw [vacant, spare]
      exact ⟨rfl, rfl⟩
    | none =>
      have full := vacancy?_eq_none_iff.mp vacant
      have vacant : cache.tick.vacancy? = none := vacant
      rw [vacant, full]
      cases order with
      | nil =>
        have many := capacity_le_size_iff.mpr full
        rw [size, ← follows.length_entries, ← follows.length_eq, List.length_nil] at many
        omega
      | cons oldest rest =>
        obtain ⟨slot, _, evicted⟩ := evict_eq follows.ticked.ranks
        simp only [HOrElse.hOrElse, OrElse.orElse, Option.orElse, evicted]
        exact ⟨rfl, rfl⟩

end Follows

/-- From one state of a cache to another, the counters move by what was called in between. -/
structure Tallies (turns : List CacheTurn) (before after : FrameCache) : Prop where
  capacity : after.capacity = before.capacity
  hits : after.hits = before.hits + turns.countP CacheTurn.hits
  lookups : after.hits + after.misses = before.hits + before.misses + turns.countP CacheTurn.looksUp
  clock : after.clock = before.clock + turns.countP CacheTurn.ticks + turns.countP CacheTurn.crowds
  evictions : after.evictions = before.evictions + turns.countP CacheTurn.crowds
  size : after.size + turns.countP CacheTurn.crowds + turns.countP CacheTurn.takes +
    turns.countP CacheTurn.forgets = before.size + turns.countP CacheTurn.enters

namespace Tallies

variable {first second : List CacheTurn}

theorem none (cache : FrameCache) : Tallies [] cache cache := ⟨rfl, rfl, rfl, rfl, rfl, rfl⟩

theorem trans (earlier : Tallies first before middle) (later : Tallies second middle after) :
    Tallies (first ++ second) before after := by
  obtain ⟨capacityOne, hitsOne, lookupsOne, clockOne, evictionsOne, sizeOne⟩ := earlier
  obtain ⟨capacityTwo, hitsTwo, lookupsTwo, clockTwo, evictionsTwo, sizeTwo⟩ := later
  refine ⟨capacityTwo.trans capacityOne, ?_, ?_, ?_, ?_, ?_⟩ <;>
    simp only [List.countP_append] <;> omega

theorem one (turn : CacheTurn) (capacity : after.capacity = before.capacity)
    (hits : after.hits = before.hits + turn.hits.toNat)
    (misses : after.misses + turn.hits.toNat = before.misses + turn.looksUp.toNat)
    (clock : after.clock = before.clock + turn.ticks.toNat + turn.crowds.toNat)
    (evictions : after.evictions = before.evictions + turn.crowds.toNat)
    (size : after.size + turn.crowds.toNat + turn.takes.toNat + turn.forgets.toNat =
      before.size + turn.enters.toNat) : Tallies [turn] before after := by
  have single (property : CacheTurn → Bool) : [turn].countP property = (property turn).toNat := by
    rw [List.countP_singleton]
    cases property turn <;> rfl
  refine ⟨capacity, ?_, ?_, ?_, ?_, ?_⟩ <;> simp only [single] <;> omega

theorem put (follows : cache.Follows recency order) (positive : 0 < cache.capacity)
    (location : FrameLocation) (frame : Bytes) :
    Tallies [⟨cache, .put location frame⟩] cache (cache.put location frame) := by
  obtain ⟨hits, misses⟩ := counters_put cache location frame
  obtain ⟨clock, evictions⟩ := follows.clock_put positive location frame
  have size := follows.size_put positive location frame
  exact one _ (capacity_put follows.ranks.distinct frame) hits misses clock evictions size

theorem get (follows : cache.Follows recency order) (location : FrameLocation) :
    Tallies [⟨cache, .get location⟩] cache (cache.get location).2 := by
  obtain ⟨hits, misses⟩ := counters_get cache location
  have found : CacheTurn.hits ⟨cache, .get location⟩ = cache.contains location := by
    rw [← isSome_frame?, ← get_fst]
    rfl
  refine one _ capacity_get ?_ ?_ (clock_get cache location) (evictions_get cache location)
    (follows.size_get location)
  · rw [found, hits]
  · rw [found, misses]
    cases cache.contains location <;> rfl

theorem remove (follows : cache.Follows recency order) (location : FrameLocation) :
    Tallies [⟨cache, .remove location⟩] cache (cache.remove location).2 := by
  obtain ⟨hits, misses⟩ := counters_remove cache location
  obtain ⟨_, later, removed⟩ := follows.remove location
  have taken : CacheTurn.takes ⟨cache, .remove location⟩ = cache.contains location := by
    rw [← isSome_frame?, ← remove_fst]
    rfl
  refine one _ ?_ hits misses (clock_remove cache location) ?_ ?_
  · rw [removed.capacity, follows.capacity]
    exact Recency.capacity_respond (.remove location) recency
  · unfold FrameCache.remove
    simp only [position?_tick]
    cases cache.position? location <;> rfl
  · rw [taken]
    exact follows.size_remove location

theorem invalidate (follows : cache.Follows recency order) (location : FrameLocation) :
    Tallies [⟨cache, .invalidate location⟩] cache (cache.invalidate location).2 := by
  obtain ⟨hits, misses⟩ := counters_invalidate cache location
  have forgotten : CacheTurn.forgets ⟨cache, .invalidate location⟩ = cache.contains location := by
    change (CacheReply.flag (cache.invalidate location).1 == .flag true) = _
    rw [invalidate_fst]
    cases cache.contains location <;> rfl
  refine one _ capacity_invalidate hits misses (clock_invalidate cache location)
    (evictions_invalidate cache location) ?_
  rw [forgotten]
  exact follows.size_invalidate location

theorem respond (follows : cache.Follows recency order) (positive : 0 < cache.capacity)
    (call : CacheCall) : Tallies [⟨cache, call⟩] cache (respond call cache).2 := by
  cases call with
  | put location frame => exact put follows positive location frame
  | get location => exact get follows location
  | remove location => exact remove follows location
  | invalidate location => exact invalidate follows location
  | contains location => exact one _ rfl rfl rfl rfl rfl rfl
  | lastEvicted => exact one _ rfl rfl rfl rfl rfl rfl

/-- Call by call, the counters of a cache move by what the calls of the run count. -/
theorem respondAll (follows : cache.Follows recency order) (positive : 0 < cache.capacity)
    (calls : List CacheCall) : Tallies (turns calls cache) cache (respondAll calls cache).2 := by
  induction calls generalizing cache recency order with
  | nil => exact .none cache
  | cons call rest ih =>
    have first := Tallies.respond follows positive call
    obtain ⟨_, later, kept⟩ := follows.respond positive call
    exact first.trans (ih kept (by rw [first.capacity]; exact positive))

end Tallies

/-- The counters of a new cache tell what was called, whatever is called. There are as many hits and
misses together as look-ups, and as many hits as look-ups that returned bytes. The clock is the number
of calls that it counts and of evictions. There was an eviction for each frame of a new location that
was stored while every slot was occupied. The slots occupied are as many as such frames came in, less
those evicted, removed and invalidated. The clock moves by two ticks a call at most. -/
theorem accounts_balance {capacity : Nat} (positive : 0 < capacity)
    (few : capacity ≤ maxCacheFrames) :
    ∃ cache, ofCapacity capacity = .ok cache ∧ ∀ calls,
      let after := (FrameCache.respondAll calls cache).2
      let stats := after.stats
      let run := turns calls cache
      run.map CacheTurn.call = calls ∧
        run.map CacheTurn.reply = (FrameCache.respondAll calls cache).1 ∧
        stats.hits + stats.misses = run.countP CacheTurn.looksUp ∧
        stats.hits = run.countP CacheTurn.hits ∧
        after.clock = run.countP CacheTurn.ticks + stats.evictions ∧
        stats.evictions = run.countP CacheTurn.crowds ∧
        stats.occupied + stats.evictions + run.countP CacheTurn.takes +
          run.countP CacheTurn.forgets = run.countP CacheTurn.enters ∧
        stats.occupied ≤ stats.capacity ∧ stats.capacity = capacity ∧
        after.clock ≤ 2 * calls.length := by
  refine ⟨_, ofCapacity_of_sized ⟨positive, few⟩, fun calls => ?_⟩
  have sized : FrameCache.capacity { slots := List.replicate capacity none } = capacity :=
    List.length_replicate
  have empty : FrameCache.size { slots := List.replicate capacity none } = 0 := by
    rw [(Follows.created capacity).size_eq]
    rfl
  have tallies := Tallies.respondAll (Follows.created capacity) (by rwa [sized]) calls
  have ticks := clock_respondAll_le calls { slots := List.replicate capacity none }
  intro after stats run
  have hits : stats.hits = run.countP CacheTurn.hits := tallies.hits.trans (Nat.zero_add _)
  have lookups : stats.hits + stats.misses = run.countP CacheTurn.looksUp :=
    tallies.lookups.trans (Nat.zero_add _)
  have evictions : stats.evictions = run.countP CacheTurn.crowds :=
    tallies.evictions.trans (Nat.zero_add _)
  have clock := tallies.clock
  rw [Nat.zero_add, ← evictions] at clock
  have size := tallies.size
  rw [empty, Nat.zero_add, ← evictions] at size
  rw [Nat.zero_add] at ticks
  exact ⟨turns_call calls _, turns_reply calls _, lookups, hits, clock, evictions, size,
    after.size_le_capacity, tallies.capacity.trans sized, ticks⟩

/-- Three frames come into two slots. One is driven out, one is removed, one is forgotten. -/
theorem accounts_balance_two_slots :
    let calls : List CacheCall := [.put ⟨0, 0⟩ [1], .get ⟨0, 0⟩, .get ⟨0, 1⟩, .put ⟨0, 1⟩ [2],
      .put ⟨1, 0⟩ [3], .put ⟨1, 0⟩ [4], .remove ⟨0, 0⟩, .remove ⟨0, 1⟩, .invalidate ⟨1, 0⟩]
    ∃ cache, ofCapacity 2 = .ok cache ∧
      let after := (FrameCache.respondAll calls cache).2
      after.stats.hits = 1 ∧ after.stats.misses = 1 ∧ after.stats.evictions = 1 ∧
        after.stats.occupied = 0 ∧ after.clock = 10 := by
  intro calls
  obtain ⟨cache, made, balance⟩ := accounts_balance (by decide : 0 < 2) (by decide)
  obtain rfl := Except.ok.inj made
  obtain ⟨_, _, lookups, hits, clock, evictions, occupied, _, capacity, _⟩ := balance calls
  have sums : (turns calls { slots := List.replicate 2 none }).countP CacheTurn.looksUp = 2 ∧
      (turns calls { slots := List.replicate 2 none }).countP CacheTurn.hits = 1 ∧
      (turns calls { slots := List.replicate 2 none }).countP CacheTurn.ticks = 9 ∧
      (turns calls { slots := List.replicate 2 none }).countP CacheTurn.crowds = 1 ∧
      (turns calls { slots := List.replicate 2 none }).countP CacheTurn.takes = 1 ∧
      (turns calls { slots := List.replicate 2 none }).countP CacheTurn.forgets = 1 ∧
      (turns calls { slots := List.replicate 2 none }).countP CacheTurn.enters = 3 := by decide
  refine ⟨_, made, ?_⟩
  dsimp only
  omega

end FrameCache

end CartridgeBank
