import CartridgeBank.Proofs.Errands
import CartridgeBank.Proofs.Inclusion
import CartridgeBank.Proofs.Soundness

namespace CartridgeBank

namespace FrameCache

/-- A cache with some slots, in which the order of last use can be told. -/
structure Orderly (cache : FrameCache) : Prop where
  positive : 0 < cache.capacity
  ordered : ∃ recency order, cache.Follows recency order

namespace Orderly

variable {cache : FrameCache} {location : FrameLocation}

theorem distinct (orderly : cache.Orderly) : cache.Distinct := by
  obtain ⟨_, _, follows⟩ := orderly.ordered
  exact follows.ranks.distinct

theorem get (orderly : cache.Orderly) : (cache.get location).2.Orderly := by
  obtain ⟨recency, _, follows⟩ := orderly.ordered
  refine ⟨?_, _, (follows.get location).2⟩
  rw [capacity_get]
  exact orderly.positive

theorem put (orderly : cache.Orderly) (frame : Bytes) : (cache.put location frame).Orderly := by
  obtain ⟨recency, _, follows⟩ := orderly.ordered
  refine ⟨?_, _, follows.put orderly.positive location frame⟩
  rw [capacity_put orderly.distinct]
  exact orderly.positive

theorem invalidate (orderly : cache.Orderly) : (cache.invalidate location).2.Orderly := by
  obtain ⟨recency, _, follows⟩ := orderly.ordered
  refine ⟨?_, _, (follows.invalidate location).2⟩
  rw [capacity_invalidate]
  exact orderly.positive

theorem putAll (orderly : cache.Orderly) (pieces : List (FrameLocation × Bytes)) :
    (cache.putAll pieces).Orderly := by
  induction pieces generalizing cache with
  | nil => exact orderly
  | cons piece rest ih => exact ih (orderly.put piece.2)

theorem invalidateAll (orderly : cache.Orderly) (locations : List FrameLocation) :
    (cache.invalidateAll locations).Orderly := by
  induction locations generalizing cache with
  | nil => exact orderly
  | cons location rest ih => exact ih orderly.invalidate

theorem ofCapacity {capacity : Nat} (made : ofCapacity capacity = .ok cache) : cache.Orderly := by
  unfold FrameCache.ofCapacity at made
  split at made
  · cases made
  · rename_i sized
    obtain rfl := Except.ok.inj made
    refine ⟨?_, _, _, Follows.created capacity⟩
    rw [FrameCache.capacity, List.length_replicate]
    omega

end Orderly

end FrameCache

namespace Storage

variable {σ : Type}

/-- Whatever is cached, the order of last use can be told. -/
def Orderly (storage : Storage σ) : Prop := ∀ cache, storage.cache = some cache → cache.Orderly

namespace Orderly

variable {storage next : Storage σ} {handle : Handle}

theorem of_cache (orderly : storage.Orderly) (same : next.cache = storage.cache) : next.Orderly := by
  intro cache held
  exact orderly cache (same.symm.trans held)

theorem of_none (none : storage.cache = none) : storage.Orderly := by
  intro cache held
  cases none.symm.trans held

/-- What every orderly cache keeps, the storage keeps. -/
theorem map (orderly : storage.Orderly) {change : FrameCache → FrameCache}
    (changed : next.cache = storage.cache.map change)
    (keeps : ∀ cache : FrameCache, cache.Orderly → (change cache).Orderly) : next.Orderly := by
  intro cache held
  obtain ⟨before, present, rfl⟩ := Option.map_eq_some_iff.mp (changed.symm.trans held)
  exact keeps before (orderly before present)

variable [Transport σ]

theorem fetchFrame (orderly : storage.Orderly) (location : FrameLocation) :
    ((fetchFrame location).after storage).Orderly := by
  cases run : Storage.fetchFrame location storage with
  | ok frame next =>
    rw [Operation.after_of_ok run]
    obtain ⟨_, transport, rfl⟩ := fetchFrame_ok run
    exact orderly.map rfl fun _ before => before.put frame
  | error fault next =>
    rw [Operation.after_of_error run]
    obtain ⟨transport, active, rfl⟩ := fetchFrame_error run
    exact orderly.of_cache rfl

theorem readFrame (orderly : storage.Orderly) (location : FrameLocation) :
    ((readFrame location).after storage).Orderly := by
  cases held : storage.cache with
  | none =>
    have fetched := orderly.fetchFrame location
    unfold Operation.after at fetched ⊢
    rwa [readFrame_uncached location held]
  | some cache =>
    have looked : Orderly { storage with cache := some (cache.get location).2 } := by
      rintro _ ⟨⟩
      exact (orderly cache held).get
    have fetched := looked.fetchFrame location
    unfold Operation.after at fetched ⊢
    rw [readFrame_eq location held]
    cases get : cache.get location with
    | mk found next =>
      rw [get] at looked fetched
      cases found with
      | some frame => exact looked
      | none => exact fetched

theorem readFrames (orderly : storage.Orderly) (locations : List FrameLocation) :
    ((readFrames locations).after storage).Orderly := by
  rw [readFrames_eachAfter]
  induction locations generalizing storage with
  | nil => exact orderly
  | cons location rest ih =>
    have first := orderly.readFrame location
    unfold Operation.after at first
    unfold eachAfter
    cases run : Storage.readFrame location storage with
    | ok frame next =>
      rw [run] at first
      exact ih first
    | error fault next =>
      rw [run] at first
      exact first

theorem readFrames_ok {locations : List FrameLocation} {frames : List Bytes}
    (orderly : storage.Orderly) (run : Storage.readFrames locations storage = .ok frames next) :
    next.Orderly := by
  have kept := orderly.readFrames locations
  rwa [Operation.after_of_ok run] at kept

theorem readFrames_error {locations : List FrameLocation} {fault : Fault}
    (orderly : storage.Orderly) (run : Storage.readFrames locations storage = .error fault next) :
    next.Orderly := by
  have kept := orderly.readFrames locations
  rwa [Operation.after_of_error run] at kept

theorem read (orderly : storage.Orderly) (handle : Handle) (wanted : Nat) :
    ((read handle wanted).after storage).Orderly := by
  have ending := read_run handle wanted storage
  unfold Operation.after
  generalize Storage.read handle wanted storage = result at ending
  cases ending with
  | off | invalid | nothing | atEnd => exact orderly
  | unread _ _ _ _ run => exact orderly.readFrames_error run
  | done _ _ _ _ run => exact (orderly.readFrames_ok run).of_cache rfl

/-- Placing content stores frames in the cache, however far it comes. -/
theorem placeContent {content : Bytes} {placed : List FrameLocation × List FrameLocation ×
    Except Fault Unit} (orderly : storage.Orderly) (positive : 0 < storage.frameSize)
    (run : Storage.placeContent handle content storage = .ok placed next) : next.Orderly := by
  obtain ⟨_, _, written, transport, active, _, _, _, rfl⟩ := placeContent_spec positive run
  exact orderly.map rfl fun _ before => before.putAll written

theorem write (orderly : storage.Orderly) (sound : storage.Sound) (handle : Handle) (data : Bytes) :
    ((write handle data).after storage).Orderly := by
  have ending := sound.write_run handle data
  unfold Operation.after
  generalize Storage.write handle data storage = result at ending
  have placing {locations : List FrameLocation} {frames : List Bytes} {table : Ownership}
      {middle last : Storage σ} {content : Bytes} {placed : List FrameLocation ×
        List FrameLocation × Except Fault Unit}
      (read : Storage.readFrames locations storage = .ok frames middle)
      (run : Storage.placeContent handle content { middle with table } = .ok placed last) :
      last.Orderly := by
    obtain ⟨transport, active, cache, rfl⟩ := readFrames_leaves read
    have between := orderly.readFrames_ok read
    have released : Orderly { storage with transport, active, cache, table } := between.of_cache rfl
    exact released.placeContent sound.positive run
  cases ending with
  | off | invalid | nothing | full => exact orderly
  | unread starts run => exact orderly.readFrames_error run
  | unstored starts read run =>
    exact (placing read run).map rfl fun _ before => before.invalidateAll _
  | stored starts read run =>
    exact (placing read run).map rfl fun _ before => before.invalidateAll _

theorem powerOn (orderly : storage.Orderly) : (powerOn.after storage).Orderly := by
  have ending := powerOn_run storage
  unfold Operation.after
  generalize Storage.powerOn storage = result at ending
  cases ending with
  | already | unsized => exact orderly
  | failed => exact of_none rfl
  | started off made run =>
    obtain ⟨transport, active, same⟩ :=
      @initializeDevice_after σ _ { storage.cleared with cache := some _ }
    obtain rfl := (Operation.after_of_ok run).symm.trans same
    rintro _ ⟨⟩
    exact .ofCapacity made

theorem powerOff (orderly : storage.Orderly) : (powerOff.after storage).Orderly := by
  unfold Operation.after
  rw [powerOff_eq]
  by_cases on : storage.poweredOn = true
  · rw [if_pos on]
    cases sent : execute .powoff 0 0 none { storage.cleared with poweredOn := false } with
    | error fault next =>
      obtain ⟨transport, rfl⟩ := execute_error sent
      exact of_none rfl
    | ok answer next =>
      obtain ⟨transport, rfl⟩ := execute_ok sent
      exact of_none rfl
  · rw [if_neg on]
    exact orderly

theorem respond (orderly : storage.Orderly) (sound : storage.Sound) (call : Call) :
    (respond call storage).2.Orderly := by
  refine respond_keeps Orderly orderly orderly.powerOn orderly.powerOff (fun name => ?_)
    (fun handle => ?_) orderly.read (orderly.write sound) (fun handle offset => ?_)
    (fun frames => ?_) call
  · obtain ⟨files, same⟩ := @openFile_after σ storage name
    exact orderly.of_cache (by rw [same])
  · obtain ⟨files, table, locations, same⟩ := @closeFile_after σ storage handle
    exact orderly.map (by rw [same]) fun _ before => before.invalidateAll locations
  · obtain ⟨files, same⟩ := @seek_after σ storage handle offset
    exact orderly.of_cache (by rw [same])
  · rcases @setCacheFrames_after σ storage frames with same | ⟨_, same⟩
    · rwa [same]
    · exact orderly.of_cache (by rw [same])

end Orderly

/-- In every state between calls, the order of last use of the cached frames can be told. -/
theorem Reached.orderly [Transport σ] {starts : Config → σ → Prop} {meddles : σ → σ → Prop}
    {storage : Storage σ} (reached : Reached starts meddles storage) : storage.Orderly := by
  induction reached with
  | created _ made =>
    obtain ⟨_, rfl⟩ := create_eq_ok_iff.mp made
    exact .of_none rfl
  | called call earlier orderly => exact orderly.respond earlier.sound call
  | meddled _ _ orderly => exact orderly.of_cache rfl

end Storage

end CartridgeBank
