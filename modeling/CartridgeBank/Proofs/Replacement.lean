import CartridgeBank.Proofs.Recency
import CartridgeBank.Proofs.Stamps

namespace CartridgeBank

/-- A cached frame with its location, whatever its stamp. -/
def CachedFrame.piece (entry : CachedFrame) : FrameLocation × Bytes := (entry.location, entry.frame)

namespace FrameCache

variable {slot : Nat} {order : List CachedFrame} {entry : CachedFrame} {cache : FrameCache}
  {recency : Recency} {location : FrameLocation}

/-- A cache holds the frames of a list by last use, and as the overflow the last one taken out. -/
structure Follows (cache : FrameCache) (recency : Recency) (order : List CachedFrame) : Prop where
  ranks : Ranks cache.slots cache.clock order
  pieces : order.map CachedFrame.piece = recency.entries
  capacity : cache.capacity = recency.capacity
  overflow : cache.overflow = recency.taken.head?.map Prod.snd

namespace Follows

theorem frame?_of_mem (follows : cache.Follows recency order) (member : entry ∈ order) :
    recency.frame? entry.location = some entry.frame := by
  have first : order.find? (·.location == entry.location) = some entry := by
    cases found : order.find? (·.location == entry.location) with
    | none =>
      have passed := List.find?_eq_none.mp found entry member
      simp at passed
    | some other =>
      have same : other.location = entry.location := by simpa using List.find?_some found
      rw [follows.ranks.unique (List.mem_of_find?_eq_some found) member same]
  rw [Recency.frame?, ← follows.pieces, List.find?_map]
  have sought : ((·.1 == entry.location) ∘ CachedFrame.piece) = (·.location == entry.location) := rfl
  rw [sought, first]
  rfl

theorem absent (follows : cache.Follows recency order) (missing : cache.position? location = none) :
    ∀ entry ∈ order, entry.location ≠ location := by
  intro entry member
  obtain ⟨slot, held⟩ := follows.ranks.exists_slot member
  exact absent_of_position? missing held

theorem frame?_of_missing (follows : cache.Follows recency order)
    (missing : cache.position? location = none) : recency.frame? location = none := by
  rw [Recency.frame?, ← follows.pieces, Option.map_eq_none_iff, List.find?_eq_none]
  intro piece member
  obtain ⟨entry, inOrder, rfl⟩ := List.mem_map.mp member
  have different := follows.absent missing entry inOrder
  simpa [CachedFrame.piece] using different

/-- The slot of a location is found exactly where the list has it. -/
theorem located (follows : cache.Follows recency order)
    (found : cache.position? location = some slot) :
    ∃ entry, cache.slots[slot]? = some (some entry) ∧ entry ∈ order ∧ entry.location = location ∧
      recency.frame? location = some entry.frame := by
  obtain ⟨entry, held, rfl⟩ := at_of_position? found
  have member := follows.ranks.mem held
  exact ⟨entry, held, member, rfl, follows.frame?_of_mem member⟩

theorem contains_eq (follows : cache.Follows recency order) :
    cache.contains location = recency.contains location := by
  unfold FrameCache.contains Recency.contains
  cases found : cache.position? location with
  | none =>
    rw [follows.frame?_of_missing found]
    rfl
  | some slot =>
    obtain ⟨entry, _, _, _, listed⟩ := follows.located found
    rw [listed]
    rfl

theorem without_eq (follows : cache.Follows recency order) (location : FrameLocation) :
    (order.filter (·.location ≠ location)).map CachedFrame.piece = recency.without location := by
  rw [Recency.without, ← follows.pieces, List.filter_map]
  rfl

theorem without_of_missing (follows : cache.Follows recency order)
    (missing : cache.position? location = none) : recency.without location = recency.entries := by
  rw [Recency.without, ← follows.pieces, List.filter_eq_self]
  intro piece member
  obtain ⟨entry, inOrder, rfl⟩ := List.mem_map.mp member
  exact decide_eq_true (follows.absent missing entry inOrder)

theorem length_eq (follows : cache.Follows recency order) : order.length = recency.entries.length := by
  rw [← follows.pieces, List.length_map]

/-- An entry whose slot is stamped anew, perhaps with other bytes, comes last. -/
theorem renewed {after : FrameCache} (follows : cache.Follows recency order)
    (held : cache.slots[slot]? = some (some entry)) (frame : Bytes)
    (slots : after.slots = cache.slots.set slot (some ⟨entry.location, frame, after.clock⟩))
    (ticked : cache.clock < after.clock) (overflow : after.overflow = cache.overflow) :
    after.Follows
      { recency with entries := recency.without entry.location ++ [(entry.location, frame)] }
      (order.filter (·.location ≠ entry.location) ++ [⟨entry.location, frame, after.clock⟩]) := by
  refine ⟨?_, ?_, ?_, overflow.trans follows.overflow⟩
  · rw [slots]
    exact follows.ranks.replaced held (fun other _ different => different) ticked
  · rw [List.map_append, follows.without_eq]
    rfl
  · rw [← follows.capacity, FrameCache.capacity, slots, List.length_set]
    rfl

/-- A new entry in an empty slot comes last. -/
theorem added {after : FrameCache} (follows : cache.Follows recency order)
    (vacant : cache.slots[slot]? = some none)
    (fresh : ∀ entry ∈ order, entry.location ≠ location) (frame : Bytes)
    (slots : after.slots = cache.slots.set slot (some ⟨location, frame, after.clock⟩))
    (behind : ∀ entry ∈ order, entry.stamp < after.clock) (overflow : after.overflow = cache.overflow) :
    after.Follows { recency with entries := recency.entries ++ [(location, frame)] }
      (order ++ [⟨location, frame, after.clock⟩]) := by
  refine ⟨?_, ?_, ?_, overflow.trans follows.overflow⟩
  · rw [slots]
    exact follows.ranks.filled vacant fresh behind
  · rw [List.map_append, follows.pieces]
    rfl
  · rw [← follows.capacity, FrameCache.capacity, slots, List.length_set]
    rfl

/-- Emptying a slot leaves the others in their order. -/
theorem dropped {after : FrameCache} (follows : cache.Follows recency order)
    (held : cache.slots[slot]? = some (some entry)) {taken : List (FrameLocation × Bytes)}
    (slots : after.slots = cache.slots.set slot none) (ticked : cache.clock ≤ after.clock)
    (overflow : after.overflow = taken.head?.map Prod.snd) :
    after.Follows { recency with entries := recency.without entry.location, taken }
      (order.filter (·.location ≠ entry.location)) := by
  refine ⟨?_, follows.without_eq entry.location, ?_, overflow⟩
  · rw [slots]
    exact (follows.ranks.emptied held).later ticked
  · rw [← follows.capacity, FrameCache.capacity, slots, List.length_set]
    rfl

theorem ticked (follows : cache.Follows recency order) : cache.tick.Follows recency order :=
  ⟨follows.ranks.later (Nat.le_succ _), follows.pieces, follows.capacity, follows.overflow⟩

theorem get (follows : cache.Follows recency order) (location : FrameLocation) :
    (cache.get location).1 = (recency.get location).1 ∧
      ∃ later, (cache.get location).2.Follows (recency.get location).2 later := by
  cases found : cache.position? location with
  | none =>
    have absent := follows.frame?_of_missing found
    simp only [FrameCache.get, position?_tick, found, Recency.get, absent]
    exact ⟨trivial, order, follows.ticked.ranks, follows.pieces, follows.capacity, follows.overflow⟩
  | some slot =>
    obtain ⟨entry, held, member, rfl, listed⟩ := follows.located found
    simp only [FrameCache.get, position?_tick, found, Recency.get, listed, slots_tick, held,
      Option.join_some, Option.map_some]
    refine ⟨trivial, _, follows.renewed held entry.frame rfl ?_ rfl⟩
    exact Nat.lt_succ_self _

theorem remove (follows : cache.Follows recency order) (location : FrameLocation) :
    (cache.remove location).1 = (recency.remove location).1 ∧
      ∃ later, (cache.remove location).2.Follows (recency.remove location).2 later := by
  cases found : cache.position? location with
  | none =>
    have absent := follows.frame?_of_missing found
    simp only [FrameCache.remove, position?_tick, found, Recency.remove, absent]
    exact ⟨trivial, order, follows.ticked⟩
  | some slot =>
    obtain ⟨entry, held, member, rfl, listed⟩ := follows.located found
    simp only [FrameCache.remove, position?_tick, found, Recency.remove, listed, slots_tick, held,
      Option.join_some, Option.map_some]
    refine ⟨trivial, _, follows.dropped held rfl ?_ rfl⟩
    exact Nat.le_succ _

theorem invalidate (follows : cache.Follows recency order) (location : FrameLocation) :
    (cache.invalidate location).1 = recency.contains location ∧
      ∃ later, (cache.invalidate location).2.Follows
        { recency with entries := recency.without location } later := by
  cases found : cache.position? location with
  | none =>
    have absent := follows.frame?_of_missing found
    have whole := follows.without_of_missing found
    simp only [FrameCache.invalidate, position?_tick, found, Recency.contains, absent, whole]
    exact ⟨rfl, order, follows.ticked⟩
  | some slot =>
    obtain ⟨entry, held, member, rfl, listed⟩ := follows.located found
    simp only [FrameCache.invalidate, position?_tick, found, Recency.contains, listed, slots_tick]
    refine ⟨rfl, _, follows.dropped held rfl ?_ follows.overflow⟩
    exact Nat.le_succ _

/-- Without the frame unused for longest, the others keep their order. -/
theorem without_oldest (follows : cache.Follows recency (entry :: order)) :
    order = (entry :: order).filter (·.location ≠ entry.location) ∧
      recency.without entry.location = recency.entries.drop 1 ∧
      recency.entries.take 1 = [entry.piece] := by
  have others : order.filter (·.location ≠ entry.location) = order := by
    refine List.filter_eq_self.mpr fun other member => ?_
    have different := (List.pairwise_cons.mp follows.ranks.apart).1 other member
    exact decide_eq_true different.symm
  have rest : order = (entry :: order).filter (·.location ≠ entry.location) := by
    rw [List.filter_cons_of_neg (by simp), others]
  refine ⟨rest, ?_, ?_⟩
  · rw [← follows.without_eq, ← rest, ← follows.pieces]
    rfl
  · rw [← follows.pieces]
    rfl

theorem not_contains (follows : cache.Follows recency order)
    (missing : cache.position? location = none) : ¬recency.contains location = true := by
  rw [Recency.contains, follows.frame?_of_missing missing]
  exact Bool.false_ne_true

theorem length_entries (follows : cache.Follows recency order) :
    recency.entries.length = cache.entries.length := by
  rw [← follows.length_eq]
  exact follows.ranks.perm.length_eq

/-- A frame whose location is there takes its slot. -/
theorem put_resident (follows : cache.Follows recency order)
    (found : cache.position? location = some slot) (frame : Bytes) :
    ∃ later, (cache.put location frame).Follows (recency.put location frame) later := by
  obtain ⟨entry, held, member, rfl, listed⟩ := follows.located found
  have resident : recency.contains entry.location = true := by
    rw [Recency.contains, listed]
    rfl
  unfold FrameCache.put Recency.put
  simp only [position?_tick, found]
  rw [if_pos (Or.inl resident)]
  exact ⟨_, follows.renewed held frame rfl (Nat.lt_succ_self _) rfl⟩

/-- A frame of a new location takes an empty slot if there is one. -/
theorem put_vacant (follows : cache.Follows recency order)
    (missing : cache.position? location = none) (vacant : cache.vacancy? = some slot)
    (frame : Bytes) :
    ∃ later, (cache.put location frame).Follows (recency.put location frame) later := by
  obtain ⟨bound, empty, _⟩ := List.findIdx?_eq_some_iff_getElem.mp vacant
  have hole : cache.slots[slot]? = some none := by
    rw [List.getElem?_eq_getElem bound, Option.isNone_iff_eq_none.mp empty]
  have room : recency.entries.length < recency.capacity := by
    rw [follows.length_entries, ← follows.capacity]
    exact List.length_filterMap_lt_length_iff_exists.mpr ⟨none, List.mem_of_getElem? hole, rfl⟩
  have behind : ∀ entry ∈ order, entry.stamp < cache.clock + 1 := fun entry member =>
    Nat.lt_succ_of_le (follows.ranks.past entry member)
  have vacant : cache.tick.vacancy? = some slot := vacant
  unfold FrameCache.put Recency.put
  simp only [position?_tick, missing, vacant]
  rw [if_pos (Or.inr room), follows.without_of_missing missing]
  exact ⟨_, follows.added hole (follows.absent missing) frame rfl behind rfl⟩

/-- A frame of a new location drives out the one unused for longest if there is no empty slot. -/
theorem put_full (follows : cache.Follows recency order) (positive : 0 < cache.capacity)
    (missing : cache.position? location = none) (occupied : cache.vacancy? = none)
    (frame : Bytes) :
    ∃ later, (cache.put location frame).Follows (recency.put location frame) later := by
  have full : cache.entries.length = cache.capacity := by
    refine List.filterMap_length_eq_length.mpr fun slot member => ?_
    have taken := List.findIdx?_eq_none_iff.mp occupied slot member
    simpa [Option.isSome_iff_ne_none] using taken
  have crowded : ¬recency.entries.length < recency.capacity := by
    rw [follows.length_entries, full, follows.capacity]
    exact Nat.lt_irrefl _
  have occupied : cache.tick.vacancy? = none := occupied
  unfold FrameCache.put Recency.put
  simp only [position?_tick, missing, occupied]
  rw [if_neg fun either => either.elim (follows.not_contains missing) crowded]
  cases order with
  | nil =>
    have nothing := follows.length_eq
    rw [follows.length_entries, full] at nothing
    exact absurd nothing (Nat.ne_of_lt positive)
  | cons oldest rest =>
    obtain ⟨slot, held, evicted⟩ := evict_eq follows.ticked.ranks
    obtain ⟨others, dropped, first⟩ := follows.without_oldest
    have left : cache.tick.evict.2.Follows
        { recency with
          entries := recency.entries.drop 1, taken := recency.entries.take 1 ++ recency.taken }
        rest := by
      rw [others, ← dropped, first, evicted]
      exact follows.ticked.dropped held rfl (Nat.le_succ _) rfl
    have hole : cache.tick.evict.2.slots[slot]? = some none := by
      rw [evicted]
      exact List.getElem?_set_self (List.getElem?_eq_some_iff.mp held).1
    have fresh : ∀ entry ∈ rest, entry.location ≠ location := fun entry member =>
      follows.absent missing entry (List.mem_cons_of_mem _ member)
    have behind : ∀ entry ∈ rest, entry.stamp < cache.clock + 1 + 1 := fun entry member => by
      have past := follows.ranks.past entry (List.mem_cons_of_mem _ member)
      omega
    rw [evicted] at left hole ⊢
    exact ⟨_, left.added hole fresh frame rfl behind rfl⟩

theorem put (follows : cache.Follows recency order) (positive : 0 < cache.capacity)
    (location : FrameLocation) (frame : Bytes) :
    ∃ later, (cache.put location frame).Follows (recency.put location frame) later := by
  cases found : cache.position? location with
  | some slot => exact follows.put_resident found frame
  | none =>
    cases vacant : cache.vacancy? with
    | some slot => exact follows.put_vacant found vacant frame
    | none => exact follows.put_full positive found vacant frame

theorem respond (follows : cache.Follows recency order) (positive : 0 < cache.capacity)
    (call : CacheCall) :
    (FrameCache.respond call cache).1 = (Recency.respond call recency).1 ∧
      ∃ later, (FrameCache.respond call cache).2.Follows (Recency.respond call recency).2 later := by
  cases call with
  | put location frame => exact ⟨rfl, follows.put positive location frame⟩
  | get location =>
    obtain ⟨same, kept⟩ := follows.get location
    exact ⟨congrArg CacheReply.frame same, kept⟩
  | remove location =>
    obtain ⟨same, kept⟩ := follows.remove location
    exact ⟨congrArg CacheReply.frame same, kept⟩
  | invalidate location =>
    obtain ⟨same, kept⟩ := follows.invalidate location
    exact ⟨congrArg CacheReply.flag same, kept⟩
  | contains location => exact ⟨congrArg CacheReply.flag follows.contains_eq, order, follows⟩
  | lastEvicted => exact ⟨congrArg CacheReply.frame follows.overflow, order, follows⟩

end Follows

theorem clock_get (cache : FrameCache) (location : FrameLocation) :
    (cache.get location).2.clock = cache.clock + 1 := by
  unfold get
  simp only [position?_tick]
  cases cache.position? location <;> rfl

theorem clock_remove (cache : FrameCache) (location : FrameLocation) :
    (cache.remove location).2.clock = cache.clock + 1 := by
  unfold remove
  simp only [position?_tick]
  cases cache.position? location <;> rfl

theorem clock_invalidate (cache : FrameCache) (location : FrameLocation) :
    (cache.invalidate location).2.clock = cache.clock + 1 := by
  unfold invalidate
  simp only [position?_tick]
  cases cache.position? location <;> rfl

theorem clock_put_le (cache : FrameCache) (location : FrameLocation) (frame : Bytes) :
    (cache.put location frame).clock ≤ cache.clock + 2 := by
  have evicted : cache.tick.evict.2.clock ≤ cache.clock + 2 := by
    unfold evict
    dsimp only
    split
    · exact Nat.le_succ _
    · simp only [clock_remove]
      exact le_rfl
  unfold put
  dsimp only
  split
  · exact Nat.le_succ _
  · exact evicted

theorem clock_respond_le (call : CacheCall) (cache : FrameCache) :
    (respond call cache).2.clock ≤ cache.clock + 2 := by
  cases call with
  | put location frame => exact clock_put_le cache location frame
  | get location =>
    have ticked := clock_get cache location
    change (cache.get location).2.clock ≤ cache.clock + 2
    omega
  | remove location =>
    have ticked := clock_remove cache location
    change (cache.remove location).2.clock ≤ cache.clock + 2
    omega
  | invalidate location =>
    have ticked := clock_invalidate cache location
    change (cache.invalidate location).2.clock ≤ cache.clock + 2
    omega
  | contains location => exact Nat.le_add_right _ _
  | lastEvicted => exact Nat.le_add_right _ _

theorem clock_respondAll_le (calls : List CacheCall) (cache : FrameCache) :
    (respondAll calls cache).2.clock ≤ cache.clock + 2 * calls.length := by
  induction calls generalizing cache with
  | nil => exact le_rfl
  | cons call rest ih =>
    have first := clock_respond_le call cache
    have others := ih (respond call cache).2
    have count : (call :: rest).length = rest.length + 1 := rfl
    change (respondAll rest (respond call cache).2).2.clock ≤ _
    omega

theorem Follows.respondAll (follows : cache.Follows recency order) (positive : 0 < cache.capacity)
    (calls : List CacheCall) :
    (FrameCache.respondAll calls cache).1 = (Recency.respondAll calls recency).1 ∧
      ∃ later, (FrameCache.respondAll calls cache).2.Follows
        (Recency.respondAll calls recency).2 later := by
  induction calls generalizing cache recency order with
  | nil => exact ⟨rfl, order, follows⟩
  | cons call rest ih =>
    obtain ⟨reply, later, kept⟩ := follows.respond positive call
    have still : 0 < (FrameCache.respond call cache).2.capacity := by
      rw [kept.capacity, Recency.capacity_respond, ← follows.capacity]
      exact positive
    obtain ⟨replies, followed⟩ := ih kept still
    exact ⟨List.cons_eq_cons.mpr ⟨reply, replies⟩, followed⟩

theorem Follows.created (capacity : Nat) :
    Follows { slots := List.replicate capacity none } { capacity } [] := by
  refine ⟨⟨?_, .nil, .nil, nofun⟩, rfl, List.length_replicate, rfl⟩
  have empty : (List.replicate capacity (none : Option CachedFrame)).filterMap id = [] :=
    List.filterMap_replicate_of_none rfl
  rw [empty]

theorem overflow_invalidate (cache : FrameCache) (location : FrameLocation) :
    (cache.invalidate location).2.overflow = cache.overflow := by
  unfold invalidate
  simp only [position?_tick]
  cases cache.position? location <;> rfl

theorem overflow_put_of_contains (resident : cache.contains location = true) (frame : Bytes) :
    (cache.put location frame).overflow = cache.overflow := by
  obtain ⟨slot, found⟩ := Option.isSome_iff_exists.mp resident
  unfold put
  simp only [position?_tick, found]
  rfl

/-- A new cache answers any calls as a list of frames by last use does, and its stamps tell the order
of that list: no two of them are equal, so which of two equal ones is the lower does not matter. The
clock moves by two ticks a call at most. -/
theorem answers_as_recency {capacity : Nat} (positive : 0 < capacity)
    (few : capacity ≤ maxCacheFrames) :
    ∃ cache, ofCapacity capacity = .ok cache ∧ ∀ calls,
      let after := (FrameCache.respondAll calls cache).2
      let recency := (Recency.respondAll calls { capacity }).2
      (FrameCache.respondAll calls cache).1 = (Recency.respondAll calls { capacity }).1 ∧
        (∃ order : List CachedFrame, order.Perm after.entries ∧
          order.Pairwise (fun a b => a.stamp < b.stamp) ∧
          order.map CachedFrame.piece = recency.entries) ∧
        (recency.entries.map Prod.fst).Nodup ∧ recency.entries.length ≤ capacity ∧
        after.overflow = recency.taken.head?.map Prod.snd ∧
        (∀ location, (after.invalidate location).2.overflow = after.overflow) ∧
        (∀ location frame, after.contains location = true →
          (after.put location frame).overflow = after.overflow) ∧
        after.entries.Pairwise (fun a b => a.stamp ≠ b.stamp) ∧
        (∀ entry ∈ after.entries, entry.stamp ≤ after.clock) ∧
        after.clock ≤ 2 * calls.length := by
  have sized : ¬(capacity = 0 ∨ maxCacheFrames < capacity) := by omega
  refine ⟨{ slots := List.replicate capacity none }, if_neg sized, fun calls => ?_⟩
  have slots : capacity = FrameCache.capacity { slots := List.replicate capacity none } :=
    List.length_replicate.symm
  have ticks := clock_respondAll_le calls { slots := List.replicate capacity none }
  obtain ⟨replies, order, follows⟩ :=
    Follows.respondAll (Follows.created capacity) (slots ▸ positive) calls
  intro after recency
  have kept : recency.capacity = capacity := Recency.capacity_respondAll calls { capacity }
  have ranks := follows.ranks
  refine ⟨replies, ⟨order, ranks.perm, ranks.rising, follows.pieces⟩, ?_, ?_, follows.overflow,
    overflow_invalidate after, fun location frame resident => overflow_put_of_contains resident frame,
    ?_, fun entry member => ranks.past entry (ranks.perm.mem_iff.mpr member), ?_⟩
  · rw [← follows.pieces, List.map_map]
    exact List.pairwise_map.mpr ranks.apart
  · have fits : after.entries.length ≤ after.capacity := List.length_filterMap_le _ _
    rw [← follows.length_eq, ranks.perm.length_eq]
    exact fits.trans (follows.capacity.trans kept).le
  · have different : order.Pairwise fun a b => a.stamp ≠ b.stamp :=
      ranks.rising.imp fun lower => Nat.ne_of_lt lower
    exact (ranks.perm.pairwise_iff fun apart => Ne.symm apart).mp different
  · rwa [Nat.zero_add] at ticks

/-- Of two frames, the one that was looked up last stays when a third one comes. -/
theorem answers_as_recency_two_slots :
    ∃ cache, ofCapacity 2 = .ok cache ∧
      (FrameCache.respondAll [.put ⟨0, 0⟩ [1], .put ⟨0, 1⟩ [2], .get ⟨0, 0⟩, .put ⟨1, 0⟩ [3],
        .contains ⟨0, 0⟩, .contains ⟨0, 1⟩, .lastEvicted] cache).1 =
          [.done, .done, .frame (some [1]), .done, .flag true, .flag false, .frame (some [2])] := by
  obtain ⟨cache, made, answers⟩ := answers_as_recency (by decide : 0 < 2) (by decide)
  refine ⟨cache, made, (answers _).1.trans ?_⟩
  decide

end FrameCache

end CartridgeBank
