import CartridgeBank.FrameCache
import Mathlib

namespace CartridgeBank.FrameCache

/-- The cached bytes of a location. -/
def frame? (cache : FrameCache) (location : FrameLocation) : Option Bytes :=
  (cache.position? location).bind fun slot => cache.slots[slot]?.join.map (·.frame)

/-- Whether a slot holds an entry. -/
def At (cache : FrameCache) (slot : Nat) (entry : CachedFrame) : Prop :=
  cache.slots[slot]? = some (some entry)

/-- No location is cached in two slots. -/
def Distinct (cache : FrameCache) : Prop :=
  ∀ i j a b, cache.At i a → cache.At j b → a.location = b.location → i = j

variable {cache : FrameCache} {location other : FrameLocation} {slot : Nat}

theorem At.unique {a b : CachedFrame} (first : cache.At slot a) (second : cache.At slot b) :
    a = b := by
  unfold At at first second
  rw [first] at second
  exact Option.some.inj (Option.some.inj second)

theorem At.mem_entries {entry : CachedFrame} (held : cache.At slot entry) :
    entry ∈ cache.entries :=
  List.mem_filterMap.mpr ⟨some entry, List.mem_of_getElem? held, rfl⟩

theorem exists_at_of_mem_entries {entry : CachedFrame} (member : entry ∈ cache.entries) :
    ∃ slot, cache.At slot entry := by
  obtain ⟨held, inSlots, same⟩ := List.mem_filterMap.mp member
  obtain rfl : held = some entry := same
  exact List.mem_iff_getElem?.mp inSlots

theorem at_of_position? (found : cache.position? location = some slot) :
    ∃ entry, cache.At slot entry ∧ entry.location = location := by
  obtain ⟨bound, held, _⟩ := List.findIdx?_eq_some_iff_getElem.mp found
  obtain ⟨entry, present, same⟩ := Option.any_eq_true _ _ |>.mp held
  exact ⟨entry, by simp only [At, List.getElem?_eq_getElem bound, present], by simpa using same⟩

theorem absent_of_position? (missing : cache.position? location = none) {entry : CachedFrame}
    (held : cache.At slot entry) : entry.location ≠ location := by
  intro same
  have passed := List.findIdx?_eq_none_iff.mp missing _ (List.mem_of_getElem? held)
  simp [holds, same] at passed

theorem frame?_eq_some_of_at (distinct : cache.Distinct) {entry : CachedFrame}
    (held : cache.At slot entry) : cache.frame? entry.location = some entry.frame := by
  cases found : cache.position? entry.location with
  | none => exact absurd rfl (absent_of_position? found held)
  | some first =>
    obtain ⟨leading, atFirst, same⟩ := at_of_position? found
    obtain rfl := distinct first slot leading entry atFirst held same
    obtain rfl := atFirst.unique held
    simp only [frame?, found, Option.bind_some]
    rw [show cache.slots[first]? = some (some leading) from atFirst]
    rfl

theorem at_of_frame? {frame : Bytes} (cached : cache.frame? location = some frame) :
    ∃ slot entry, cache.At slot entry ∧ entry.location = location ∧ entry.frame = frame := by
  obtain ⟨slot, found, held⟩ := Option.bind_eq_some_iff.mp cached
  obtain ⟨entry, atSlot, same⟩ := at_of_position? found
  refine ⟨slot, entry, atSlot, same, ?_⟩
  rw [show cache.slots[slot]? = some (some entry) from atSlot] at held
  simpa using held

theorem frame?_eq_some_iff (distinct : cache.Distinct) {frame : Bytes} :
    cache.frame? location = some frame ↔
      ∃ slot entry, cache.At slot entry ∧ entry.location = location ∧ entry.frame = frame := by
  constructor
  · exact at_of_frame?
  · rintro ⟨slot, entry, held, rfl, rfl⟩
    exact frame?_eq_some_of_at distinct held

theorem frame?_eq_none_iff : cache.frame? location = none ↔ cache.contains location = false := by
  cases found : cache.position? location with
  | none => simp [frame?, contains, found]
  | some slot =>
    obtain ⟨entry, held, _⟩ := at_of_position? found
    simp only [frame?, contains, found, Option.bind_some, Option.isSome_some, Bool.true_eq_false,
      iff_false]
    rw [show cache.slots[slot]? = some (some entry) from held]
    simp

/-- Every cached frame is an entry, and the other way round. -/
theorem forall_entries_iff (distinct : cache.Distinct) {property : FrameLocation → Bytes → Prop} :
    (∀ entry ∈ cache.entries, property entry.location entry.frame) ↔
      ∀ location frame, cache.frame? location = some frame → property location frame := by
  constructor
  · intro all location frame cached
    obtain ⟨slot, entry, held, rfl, rfl⟩ := at_of_frame? cached
    exact all entry held.mem_entries
  · intro all entry member
    obtain ⟨slot, held⟩ := exists_at_of_mem_entries member
    exact all _ _ (frame?_eq_some_of_at distinct held)

@[simp] theorem slots_tick : cache.tick.slots = cache.slots := rfl

@[simp] theorem position?_tick : cache.tick.position? location = cache.position? location := rfl

theorem at_set {slots : List (Option CachedFrame)} {i j : Nat} {new : Option CachedFrame}
    {entry : CachedFrame} :
    (slots.set i new)[j]? = some (some entry) ↔
      (i = j ∧ j < slots.length ∧ new = some entry) ∨ (i ≠ j ∧ slots[j]? = some (some entry)) := by
  rw [List.getElem?_set]
  split
  · rename_i same
    subst same
    split
    · simp_all
    · simp only [reduceCtorEq, ne_eq, not_true_eq_false, false_and, or_false, true_and, false_iff]
      omega
  · simp_all

theorem get_fst : (cache.get location).1 = cache.frame? location := by
  cases found : cache.position? location with
  | none => simp [get, frame?, found]
  | some slot => simp [get, frame?, found]

/-- The slots after a look-up are the same but for the stamp of the entry found. -/
theorem at_get {i : Nat} {entry : CachedFrame} (held : (cache.get location).2.At i entry) :
    ∃ before, cache.At i before ∧ before.location = entry.location ∧
      before.frame = entry.frame := by
  cases found : cache.position? location with
  | none =>
    simp only [get, position?_tick, found, At] at held
    exact ⟨entry, held, rfl, rfl⟩
  | some slot =>
    obtain ⟨old, atSlot, same⟩ := at_of_position? found
    simp only [get, position?_tick, found, At, at_set, slots_tick] at held
    rw [show cache.slots[slot]? = some (some old) from atSlot] at held
    rcases held with ⟨rfl, _, stamped⟩ | ⟨_, kept⟩
    · simp only [Option.join_some, Option.map_some, Option.some.injEq] at stamped
      subst stamped
      exact ⟨old, atSlot, rfl, rfl⟩
    · exact ⟨entry, kept, rfl, rfl⟩

theorem at_get_of_at {i : Nat} {entry : CachedFrame} (held : cache.At i entry) :
    ∃ after, (cache.get location).2.At i after ∧ after.location = entry.location ∧
      after.frame = entry.frame := by
  cases found : cache.position? location with
  | none => exact ⟨entry, by simpa only [get, position?_tick, found, At, slots_tick] using held, rfl, rfl⟩
  | some slot =>
    obtain ⟨old, atSlot, same⟩ := at_of_position? found
    by_cases here : slot = i
    · subst here
      obtain rfl := atSlot.unique held
      refine ⟨{ old with stamp := cache.tick.clock }, ?_, rfl, rfl⟩
      simp only [get, position?_tick, found, At, at_set, slots_tick]
      rw [show cache.slots[slot]? = some (some old) from atSlot]
      exact Or.inl ⟨trivial, (List.getElem?_eq_some_iff.mp atSlot).1, rfl⟩
    · refine ⟨entry, ?_, rfl, rfl⟩
      simp only [get, position?_tick, found, At, at_set, slots_tick]
      exact Or.inr ⟨here, held⟩

theorem Distinct.get (distinct : cache.Distinct) : (cache.get location).2.Distinct := by
  intro i j a b atI atJ same
  obtain ⟨oldA, beforeA, locationA, _⟩ := at_get atI
  obtain ⟨oldB, beforeB, locationB, _⟩ := at_get atJ
  exact distinct i j oldA oldB beforeA beforeB (by rw [locationA, locationB, same])

/-- A look-up changes no cached bytes. -/
theorem frame?_get (distinct : cache.Distinct) :
    (cache.get location).2.frame? other = cache.frame? other := by
  refine Option.ext fun frame => ?_
  rw [frame?_eq_some_iff distinct, frame?_eq_some_iff distinct.get]
  constructor
  · rintro ⟨slot, entry, held, rfl, rfl⟩
    obtain ⟨before, atSlot, sameLocation, sameFrame⟩ := at_get held
    exact ⟨slot, before, atSlot, sameLocation, sameFrame⟩
  · rintro ⟨slot, entry, held, rfl, rfl⟩
    obtain ⟨after, atSlot, sameLocation, sameFrame⟩ := at_get_of_at held
    exact ⟨slot, after, atSlot, sameLocation, sameFrame⟩

/-- The slot that a location may be cached in. -/
theorem only_slot (distinct : cache.Distinct) (found : cache.position? location = some slot)
    {i : Nat} {entry : CachedFrame} (held : cache.At i entry) (same : entry.location = location) :
    i = slot := by
  obtain ⟨leading, atSlot, located⟩ := at_of_position? found
  exact distinct i slot entry leading held atSlot (same.trans located.symm)

theorem Distinct.set_none {second : FrameCache} (distinct : cache.Distinct)
    (after : second.slots = cache.slots.set slot none) : second.Distinct := by
  intro i j a b atI atJ same
  simp only [At, after, at_set, reduceCtorEq, and_false, false_or] at atI atJ
  exact distinct i j a b atI.2 atJ.2 same

theorem Distinct.set_some {second : FrameCache} {new : CachedFrame} (distinct : cache.Distinct)
    (after : second.slots = cache.slots.set slot (some new))
    (only : ∀ i entry, cache.At i entry → entry.location = new.location → i = slot) :
    second.Distinct := by
  intro i j a b atI atJ same
  simp only [At, after, at_set, Option.some.injEq] at atI atJ
  rcases atI with ⟨rfl, _, rfl⟩ | ⟨notI, atI⟩
  · rcases atJ with ⟨rfl, _⟩ | ⟨notJ, atJ⟩
    · rfl
    · exact absurd (only j b atJ same.symm).symm notJ
  · rcases atJ with ⟨rfl, _, rfl⟩ | ⟨_, atJ⟩
    · exact absurd (only i a atI same).symm notI
    · exact distinct i j a b atI atJ same

theorem slots_evict (distinct : cache.Distinct) :
    cache.evict.2.slots = cache.slots ∨ cache.evict.2.slots = cache.slots.set cache.evict.1 none := by
  unfold evict
  dsimp only
  split
  · exact Or.inl rfl
  · rename_i entry held
    have atSlot : cache.At _ entry := Option.join_eq_some_iff.mp held
    cases found : cache.position? entry.location with
    | none => exact absurd rfl (absent_of_position? found atSlot)
    | some first =>
      obtain rfl := only_slot distinct found atSlot rfl
      right
      simp only [remove, position?_tick, found, slots_tick]

/-- Storing a frame overwrites one slot, and no other slot held its location. -/
theorem slots_put (distinct : cache.Distinct) (location : FrameLocation) (frame : Bytes) :
    ∃ slot stamp, (cache.put location frame).slots =
        cache.slots.set slot (some ⟨location, frame, stamp⟩) ∧
      ∀ i entry, cache.At i entry → entry.location = location → i = slot := by
  unfold put
  simp only [position?_tick]
  cases found : cache.position? location with
  | some slot =>
    exact ⟨slot, _, rfl, fun i entry held same => only_slot distinct found held same⟩
  | none =>
    have nowhere (slot : Nat) : ∀ i entry, cache.At i entry → entry.location = location → i = slot :=
      fun i entry held same => absurd same (absent_of_position? found held)
    cases vacant : cache.tick.vacancy? with
    | some slot => exact ⟨slot, _, rfl, nowhere slot⟩
    | none =>
      refine ⟨cache.tick.evict.1, cache.tick.evict.2.clock, ?_, nowhere _⟩
      rcases @slots_evict cache.tick distinct with kept | emptied
      · simp only [HOrElse.hOrElse, OrElse.orElse, Option.orElse, fill, kept,
          slots_tick]
      · simp only [HOrElse.hOrElse, OrElse.orElse, Option.orElse, fill, emptied,
          List.set_set, slots_tick]

theorem Distinct.put (distinct : cache.Distinct) (frame : Bytes) :
    (cache.put location frame).Distinct := by
  obtain ⟨slot, stamp, after, only⟩ := slots_put distinct location frame
  exact distinct.set_some after only

/-- After a frame is stored, its location has its bytes at most, and all others have what they had
at most: the stored frame may have driven one of them out. -/
theorem frame?_of_put (distinct : cache.Distinct) {frame bytes : Bytes}
    (cached : (cache.put location frame).frame? other = some bytes) :
    (other = location ∧ bytes = frame) ∨ (other ≠ location ∧ cache.frame? other = some bytes) := by
  obtain ⟨slot, stamp, after, only⟩ := slots_put distinct location frame
  obtain ⟨i, entry, held, rfl, rfl⟩ := at_of_frame? cached
  simp only [At, after, at_set, Option.some.injEq] at held
  rcases held with ⟨_, _, rfl⟩ | ⟨elsewhere, kept⟩
  · exact Or.inl ⟨rfl, rfl⟩
  · right
    refine ⟨fun same => elsewhere (only i entry kept same).symm, ?_⟩
    exact frame?_eq_some_of_at distinct kept

theorem slots_invalidate (cache : FrameCache) (location : FrameLocation) :
    (cache.invalidate location).2.slots =
      match cache.position? location with
      | none => cache.slots
      | some slot => cache.slots.set slot none := by
  unfold invalidate
  simp only [position?_tick]
  cases cache.position? location <;> rfl

theorem Distinct.invalidate (distinct : cache.Distinct) :
    (cache.invalidate location).2.Distinct := by
  have after := slots_invalidate cache location
  cases found : cache.position? location with
  | none =>
    simp only [found] at after
    simpa only [Distinct, At, after] using distinct
  | some slot =>
    simp only [found] at after
    exact distinct.set_none after

theorem frame?_invalidate (distinct : cache.Distinct) :
    (cache.invalidate location).2.frame? other =
      if other = location then none else cache.frame? other := by
  refine Option.ext fun frame => ?_
  rw [frame?_eq_some_iff distinct.invalidate]
  have after := slots_invalidate cache location
  cases found : cache.position? location with
  | none =>
    simp only [found] at after
    simp only [At, after]
    split
    · rename_i same
      simp only [reduceCtorEq, iff_false, not_exists, not_and]
      rintro i entry held rfl
      exact absurd same (absent_of_position? found held)
    · exact (frame?_eq_some_iff distinct).symm
  | some slot =>
    simp only [found] at after
    simp only [At, after, at_set, reduceCtorEq, and_false, false_or]
    split
    · rename_i same
      simp only [reduceCtorEq, iff_false, not_exists, not_and]
      rintro i entry ⟨elsewhere, held⟩ located
      exact absurd (only_slot distinct found held (located.trans same)).symm elsewhere
    · rename_i different
      rw [frame?_eq_some_iff distinct]
      constructor
      · rintro ⟨i, entry, ⟨_, held⟩, located⟩
        exact ⟨i, entry, held, located⟩
      · rintro ⟨i, entry, held, rfl, same⟩
        refine ⟨i, entry, ⟨?_, held⟩, rfl, same⟩
        rintro rfl
        obtain ⟨leading, atSlot, located⟩ := at_of_position? found
        exact different (by rw [held.unique atSlot, located])

/-- Looks a frame up, and stores it if it was not there. -/
def readThrough (cache : FrameCache) (location : FrameLocation) (frame : Bytes) : FrameCache :=
  match cache.get location with
  | (some _, cache) => cache
  | (none, cache) => cache.put location frame

/-- Reads frames through the cache, one after the other. -/
def readThroughAll (cache : FrameCache) (pieces : List (FrameLocation × Bytes)) : FrameCache :=
  pieces.foldl (fun cache piece => cache.readThrough piece.1 piece.2) cache

/-- Stores frames one after the other. -/
def putAll (cache : FrameCache) (pieces : List (FrameLocation × Bytes)) : FrameCache :=
  pieces.foldl (fun cache piece => cache.put piece.1 piece.2) cache

/-- Forgets frames one after the other. -/
def invalidateAll (cache : FrameCache) (locations : List FrameLocation) : FrameCache :=
  locations.foldl (fun cache location => (cache.invalidate location).2) cache

theorem Distinct.invalidateAll (distinct : cache.Distinct) (locations : List FrameLocation) :
    (cache.invalidateAll locations).Distinct := by
  induction locations generalizing cache with
  | nil => exact distinct
  | cons location rest ih => exact ih distinct.invalidate

theorem frame?_invalidateAll (distinct : cache.Distinct) (locations : List FrameLocation) :
    (cache.invalidateAll locations).frame? other =
      if other ∈ locations then none else cache.frame? other := by
  induction locations generalizing cache with
  | nil => simp [FrameCache.invalidateAll]
  | cons location rest ih =>
    rw [FrameCache.invalidateAll, List.foldl_cons, ← FrameCache.invalidateAll,
      ih distinct.invalidate, frame?_invalidate distinct]
    by_cases first : other = location <;> simp [first]

/-- A new cache holds nothing. -/
theorem ofCapacity_of_sized {capacity : Nat} (sized : 0 < capacity ∧ capacity ≤ maxCacheFrames) :
    ofCapacity capacity = .ok { slots := List.replicate capacity none } := by
  unfold ofCapacity
  rw [if_neg (by omega)]

theorem ofCapacity_ok {capacity : Nat} (made : ofCapacity capacity = .ok cache) :
    cache.capacity = capacity ∧ cache.Distinct ∧ ∀ location, cache.frame? location = none := by
  unfold ofCapacity at made
  split at made
  · cases made
  · obtain rfl := Except.ok.inj made
    have empty : ∀ i entry, ¬At { slots := List.replicate capacity none } i entry := by
      intro i entry held
      simp [At, List.getElem?_replicate] at held
    refine ⟨by simp [FrameCache.capacity], fun i j a b atI => absurd atI (empty i a), ?_⟩
    intro location
    refine Option.eq_none_iff_forall_ne_some.mpr fun frame cached => ?_
    obtain ⟨slot, entry, held, _⟩ := at_of_frame? cached
    exact empty slot entry held

@[simp] theorem capacity_get : (cache.get location).2.capacity = cache.capacity := by
  unfold get
  simp only [position?_tick]
  cases cache.position? location <;> simp [capacity]

@[simp] theorem capacity_invalidate : (cache.invalidate location).2.capacity = cache.capacity := by
  unfold capacity
  rw [slots_invalidate]
  cases cache.position? location <;> simp

@[simp] theorem capacity_invalidateAll (locations : List FrameLocation) :
    (cache.invalidateAll locations).capacity = cache.capacity := by
  induction locations generalizing cache with
  | nil => rfl
  | cons location rest ih => exact ih.trans capacity_invalidate

theorem capacity_put (distinct : cache.Distinct) (frame : Bytes) :
    (cache.put location frame).capacity = cache.capacity := by
  obtain ⟨slot, stamp, after, _⟩ := slots_put distinct location frame
  simp only [capacity, after, List.length_set]

/-- A cache of that many slots that has no location twice and only frames with a property. -/
structure Keeps (cache : FrameCache) (capacity : Nat) (property : FrameLocation → Bytes → Prop) :
    Prop where
  distinct : cache.Distinct
  capacity_eq : cache.capacity = capacity
  frames : ∀ location frame, cache.frame? location = some frame → property location frame

namespace Keeps

variable {capacity : Nat} {property weaker : FrameLocation → Bytes → Prop} {frame : Bytes}

theorem imp (keeps : cache.Keeps capacity property)
    (weaken : ∀ location frame, cache.frame? location = some frame → property location frame →
      weaker location frame) : cache.Keeps capacity weaker :=
  ⟨keeps.distinct, keeps.capacity_eq, fun location frame cached =>
    weaken location frame cached (keeps.frames location frame cached)⟩

theorem get (keeps : cache.Keeps capacity property) :
    (cache.get location).2.Keeps capacity property := by
  refine ⟨keeps.distinct.get, capacity_get.trans keeps.capacity_eq, fun other frame cached => ?_⟩
  rw [frame?_get keeps.distinct] at cached
  exact keeps.frames other frame cached

/-- What was cached for the location of a stored frame does not matter. -/
theorem overwrite (keeps : cache.Keeps capacity fun other bytes => other = location ∨ property other bytes)
    (new : property location frame) : (cache.put location frame).Keeps capacity property := by
  refine ⟨keeps.distinct.put frame, (capacity_put keeps.distinct frame).trans keeps.capacity_eq, ?_⟩
  intro other bytes cached
  rcases frame?_of_put keeps.distinct cached with ⟨rfl, rfl⟩ | ⟨elsewhere, before⟩
  · exact new
  · exact (keeps.frames other bytes before).resolve_left elsewhere

theorem put (keeps : cache.Keeps capacity property) (new : property location frame) :
    (cache.put location frame).Keeps capacity property :=
  overwrite (keeps.imp fun _ _ _ holds => Or.inr holds) new

theorem readThrough (keeps : cache.Keeps capacity property) (new : property location frame) :
    (cache.readThrough location frame).Keeps capacity property := by
  have looked := @get cache location capacity property keeps
  unfold FrameCache.readThrough
  split
  · rename_i held
    rw [held] at looked
    exact looked
  · rename_i held
    rw [held] at looked
    exact looked.put new

theorem readThroughAll {pieces : List (FrameLocation × Bytes)}
    (keeps : cache.Keeps capacity property)
    (new : ∀ piece ∈ pieces, property piece.1 piece.2) :
    (cache.readThroughAll pieces).Keeps capacity property := by
  induction pieces generalizing cache with
  | nil => exact keeps
  | cons piece rest ih =>
    exact ih (keeps.readThrough (new piece List.mem_cons_self))
      fun other member => new other (List.mem_cons_of_mem _ member)

theorem putAll {pieces : List (FrameLocation × Bytes)} (keeps : cache.Keeps capacity property)
    (new : ∀ piece ∈ pieces, property piece.1 piece.2) :
    (cache.putAll pieces).Keeps capacity property := by
  induction pieces generalizing cache with
  | nil => exact keeps
  | cons piece rest ih =>
    exact ih (keeps.put (new piece List.mem_cons_self))
      fun other member => new other (List.mem_cons_of_mem _ member)

/-- Frames that are forgotten need not have the property any more. -/
theorem invalidateAll {locations : List FrameLocation} (keeps : cache.Keeps capacity property) :
    (cache.invalidateAll locations).Keeps capacity
      fun location frame => location ∉ locations ∧ property location frame := by
  refine ⟨keeps.distinct.invalidateAll locations,
    (capacity_invalidateAll locations).trans keeps.capacity_eq, fun other frame cached => ?_⟩
  rw [frame?_invalidateAll keeps.distinct] at cached
  split at cached
  · cases cached
  · rename_i kept
    exact ⟨kept, keeps.frames other frame cached⟩

end Keeps

end CartridgeBank.FrameCache
