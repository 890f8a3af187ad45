import CartridgeBank.Proofs.Holdings
import CartridgeBank.Proofs.Soundness

namespace CartridgeBank

/-- The first so many locations of a pool, in scan order. -/
structure FirstOf (count : Nat) (pool frames : List FrameLocation) : Prop where
  length : frames.length = count
  ordered : frames.Pairwise FrameLocation.Precedes
  drawn : frames ⊆ pool
  first : ∀ chosen ∈ frames, ∀ location ∈ pool, location ∉ frames → chosen.Precedes location

/-- The first free frames are the first of any pool that has just the free frames. -/
theorem Ownership.firstOf_firstFree {table : Ownership} (valid : table.geometry.Valid)
    {wanted : Nat} {pool : List FrameLocation}
    (enough : (table.firstFree wanted).length = wanted)
    (free : ∀ location, location ∈ pool ↔
      table.geometry.contains location = true ∧ table.owner? location = none) :
    FirstOf wanted pool (table.firstFree wanted) where
  length := enough
  ordered := firstFree_pairwise valid wanted
  drawn location member := (free location).mpr (mem_firstFree valid member)
  first chosen taken location member notTaken := by
    have all : (table.geometry.locations.filter fun place =>
        (table.owner? place).isNone).Pairwise FrameLocation.Precedes :=
      valid.locations_pairwise.filter _
    obtain ⟨inside, unowned⟩ := (free location).mp member
    have listed : location ∈ table.geometry.locations.filter fun place =>
        (table.owner? place).isNone :=
      List.mem_filter.mpr ⟨valid.mem_locations.mpr inside, by rw [unowned]; rfl⟩
    rw [firstFree_eq valid] at taken notTaken
    rw [← List.take_append_drop wanted (table.geometry.locations.filter _)] at all listed
    exact (List.pairwise_append.mp all).2.2 chosen taken location
      ((List.mem_append.mp listed).resolve_left notTaken)

namespace Storage

variable {σ : Type} {storage : Storage σ} {handle : Handle} {file : OpenFile}
  {location : FrameLocation}

namespace Sound

theorem mem_ownedBy (sound : storage.Sound) (present : storage.files.get? handle = some file) :
    location ∈ storage.table.ownedBy handle ↔ location ∈ file.frames := by
  rw [Ownership.mem_ownedBy sound.tableValid sound.books.within, sound.books.owned]
  constructor
  · rintro ⟨other, found, member⟩
    obtain rfl := Option.some.inj (present.symm.trans found)
    exact member
  · exact fun member => ⟨file, present, member⟩

/-- The table lists the frames of a file as the file does. -/
theorem ownedBy_eq (sound : storage.Sound) (present : storage.files.get? handle = some file) :
    storage.table.ownedBy handle = file.frames := by
  exact (Ownership.ownedBy_pairwise sound.tableValid sound.books.within handle).eq_of_mem_iff
    (sound.laid present).ordered fun location => sound.mem_ownedBy present

theorem ownedBy_absent (sound : storage.Sound) (absent : storage.files.get? handle = none) :
    storage.table.ownedBy handle = [] := by
  refine List.eq_nil_iff_forall_not_mem.mpr fun location member => ?_
  have owned := (Ownership.mem_ownedBy sound.tableValid sound.books.within).mp member
  obtain ⟨file, present, _⟩ := (sound.books.owned location handle).mp owned
  cases absent.symm.trans present

/-- The frames that a write may take: those that are free, and its own. -/
theorem mem_pool (sound : storage.Sound) (present : storage.files.get? handle = some file) :
    location ∈ storage.table.freeFrames ++ storage.table.ownedBy handle ↔
      (storage.table.releaseEach file.frames).geometry.contains location = true ∧
        (storage.table.releaseEach file.frames).owner? location = none := by
  obtain ⟨shape, _, owners⟩ := @Ownership.releaseEach_spec storage.table file.frames
  rw [List.mem_append, Ownership.mem_freeFrames sound.tableValid, sound.mem_ownedBy present, shape,
    owners]
  by_cases mine : location ∈ file.frames
  · have inside := (sound.books.laid handle file present).inside location mine
    simp [mine, inside]
  · simp [mine]

/-- A file that is not changed keeps the frames that the table lists for it. -/
theorem ownedBy_congr (sound : storage.Sound) {next : Storage σ} (soundNext : next.Sound)
    (same : next.files.get? handle = storage.files.get? handle) :
    next.table.ownedBy handle = storage.table.ownedBy handle := by
  cases present : storage.files.get? handle with
  | some file => rw [sound.ownedBy_eq present, soundNext.ownedBy_eq (same.trans present)]
  | none => rw [sound.ownedBy_absent present, soundNext.ownedBy_absent (same.trans present)]

end Sound

variable [Transport σ]

/-- A write that succeeds with some data takes the first frames of its pool, records them, and forgets
what was cached for those that it has given up. -/
theorem write_stored {data : Bytes} {reply : Reply} (sound : storage.Sound) (nonempty : data ≠ [])
    (success : (respond (.write handle data) storage).1 = .ok reply) :
    ∃ file targets transport active cache, storage.Starts handle data file ∧
      FirstOf (framesFor (max file.length (file.position + data.length)) storage.frameSize)
        (storage.table.freeFrames ++ storage.table.ownedBy handle) targets ∧
      FrameCache.Distinct cache ∧
      (respond (.write handle data) storage).2 = { storage with
        transport
        active
        cache := some (cache.invalidateAll (givenUp file.frames targets))
        table := (storage.table.releaseEach file.frames).claimEach handle targets
        files := storage.files.update handle { file with
          frames := targets
          length := max file.length (file.position + data.length)
          position := file.position + data.length } } := by
  have run := respond_ok success
  generalize (respond (.write handle data) storage).2 = after at run
  obtain ⟨count, written, _⟩ := Operation.bind_pure_ok.mp run
  have ending := sound.write_run handle data
  rw [written] at ending
  cases ending with
  | nothing on present empty => exact absurd empty nonempty
  | @stored file frames middle targets claimed next starts read placed =>
    obtain ⟨transport, active, cache, rfl⟩ := readFrames_leaves read
    have found := (placeContent_spec (by exact sound.positive) placed).1
    obtain ⟨length, _, _, _, whole, transport, active, cache, keeps, rfl⟩ :=
      sound.rewritten starts read placed
    obtain ⟨rfl, many⟩ := whole rfl
    have first : FirstOf (framesFor (file.contentAfter frames data).length storage.frameSize)
        (storage.table.freeFrames ++ storage.table.ownedBy handle) claimed := by
      rw [found] at many ⊢
      exact Ownership.firstOf_firstFree (sound.valid_releaseEach file.frames) many fun location =>
        sound.mem_pool starts.present
    rw [length] at first
    refine ⟨file, claimed, transport, active, cache, starts, first, keeps.distinct, ?_⟩
    rw [length]
    rfl

/-- A write takes the first of the frames that are free or its own already, as many as the new content
needs. The others of these frames are free then and none of the file's old frames among them is
cached, and what belongs to other files stays theirs. -/
theorem Reached.first_fit (reached : Reached (fun _ _ => True) (fun _ _ => True) storage)
    {data : Bytes} {reply : Reply} (nonempty : data ≠ [])
    (success : (respond (.write handle data) storage).1 = .ok reply) :
    let next := (respond (.write handle data) storage).2
    let pool := storage.table.freeFrames ++ storage.table.ownedBy handle
    ∃ before after, storage.files.get? handle = some before ∧ next.files.get? handle = some after ∧
      after.length = max before.length (before.position + data.length) ∧
      FirstOf (framesFor after.length storage.frameSize) pool after.frames ∧
      next.table.ownedBy handle = after.frames ∧
      (∀ location ∈ pool, location ∉ after.frames → location ∈ next.table.freeFrames) ∧
      (∀ other, other ≠ handle → next.files.get? other = storage.files.get? other ∧
        next.table.ownedBy other = storage.table.ownedBy other) ∧
      ∀ location ∈ before.frames, location ∉ after.frames →
        ∀ cache, next.cache = some cache → cache.contains location = false := by
  have sound := reached.sound
  have soundAfter := sound.respond (.write handle data)
  obtain ⟨before, targets, transport, active, cache, starts, taken, distinct, same⟩ :=
    write_stored sound nonempty success
  rw [same] at soundAfter ⊢
  obtain ⟨shape, _, owners⟩ := @Ownership.exchanged storage.table handle before.frames targets
    fun location member => by
      obtain ⟨inside, unowned⟩ := (sound.mem_pool starts.present).mp (taken.drawn member)
      exact ⟨(Ownership.releaseEach_spec before.frames).1 ▸ inside, unowned⟩
  intro next pool
  have refiled : next.files.get? handle = some { before with
      frames := targets
      length := max before.length (before.position + data.length)
      position := before.position + data.length } := by
    simp only [next, Registry.get?_update starts.present, if_true]
  refine ⟨before, _, starts.present, refiled, rfl, taken, soundAfter.ownedBy_eq refiled, ?_, ?_, ?_⟩
  · intro location member left
    obtain ⟨inside, unowned⟩ := (sound.mem_pool starts.present).mp member
    rw [(Ownership.releaseEach_spec before.frames).1] at inside
    rw [(Ownership.releaseEach_spec before.frames).2.2] at unowned
    exact (Ownership.mem_freeFrames soundAfter.tableValid).mpr
      ⟨shape ▸ inside, (owners location).trans ((if_neg left).trans unowned)⟩
  · intro other different
    have kept : next.files.get? other = storage.files.get? other := by
      simp only [next, Registry.get?_update starts.present, if_neg different]
    exact ⟨kept, sound.ownedBy_congr soundAfter kept⟩
  · rintro location old new _ ⟨⟩
    have lost : location ∈ givenUp before.frames targets := by
      rw [givenUp_eq_filter, List.mem_filter]
      exact ⟨old, by simpa using new⟩
    rw [← FrameCache.frame?_eq_none_iff, FrameCache.frame?_invalidateAll distinct, if_pos lost]

/-- Two files of one frame each, of which the first is closed again. -/
def vacated : Storage Device :=
  twoByTwo {} [.powerOn, .openFile "a", .openFile "b", .write ⟨0⟩ [1, 2, 3, 4],
    .write ⟨1⟩ [1, 2, 3, 4], .closeFile ⟨0⟩]

/-- A file that grows behind a frame given up by another moves up into it. -/
theorem Reached.first_fit_moves_up :
    ∃ after, (respond (.write ⟨1⟩ [5]) vacated).2.files.get? ⟨1⟩ = some after ∧
      after.length = 5 ∧ FirstOf 2 [⟨0, 0⟩, ⟨1, 0⟩, ⟨1, 1⟩, ⟨0, 1⟩] after.frames := by
  have reached : Reached (fun _ _ => True) (fun _ _ => True) vacated := twoByTwo_reached trivial _
  have success : (respond (.write ⟨1⟩ [5]) vacated).1 = .ok (.written 1) := by cbv
  have grows : vacated.files.get? ⟨1⟩ =
      some { name := "b", length := 4, position := 4, frames := [⟨0, 1⟩] } := by cbv
  have pool : vacated.table.freeFrames ++ vacated.table.ownedBy ⟨1⟩ =
      [⟨0, 0⟩, ⟨1, 0⟩, ⟨1, 1⟩, ⟨0, 1⟩] := by cbv
  have size : vacated.frameSize = 4 := by cbv
  obtain ⟨before, after, present, recorded, length, taken, _⟩ :=
    reached.first_fit (List.cons_ne_nil _ _) success
  obtain rfl := Option.some.inj (grows.symm.trans present)
  rw [pool, size, length] at taken
  exact ⟨after, recorded, length, taken⟩

end Storage

end CartridgeBank
