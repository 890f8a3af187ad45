import CartridgeBank.Proofs.Connection
import CartridgeBank.Proofs.Loads
import CartridgeBank.Proofs.Undisturbed

namespace CartridgeBank

open Wire

/-- All requests so far, in order. -/
def Recorded.requests {σ : Type} (recorded : Recorded σ) : List Request :=
  recorded.sent.map Sent.request

def Errand.request (errand : Errand) : Request where
  opcode := errand.opcode
  frame := errand.payload

/-- Frames, each with what the device holds in it. -/
def Device.snapshot (device : Device) (locations : List FrameLocation) :
    List (FrameLocation × Bytes) :=
  locations.map fun location => (location, device.content location)

theorem Device.zip_contents (device : Device) (locations : List FrameLocation) :
    locations.zip (locations.map device.content) = device.snapshot locations := by
  have paired : (locations.map id).zip (locations.map device.content) = device.snapshot locations :=
    List.zip_map'
  rwa [List.map_id] at paired

theorem Device.snapshot_fst (device : Device) (locations : List FrameLocation) :
    (device.snapshot locations).map Prod.fst = locations := by
  rw [snapshot, List.map_map]
  exact List.map_id locations

/-- Frames that are missed are fetched in the order in which they are wanted. -/
theorem FrameCache.missed_ordered {locations : List FrameLocation}
    (ordered : locations.Pairwise FrameLocation.Precedes) (cache : FrameCache) (device : Device) :
    (((cache.missed (device.snapshot locations)).map Transfer.fetch).map
      Transfer.location).Pairwise FrameLocation.Precedes := by
  have sublist := cache.missed_sublist (device.snapshot locations)
  rw [device.snapshot_fst] at sublist
  rw [List.map_map]
  exact List.pairwise_map.mpr (ordered.sublist sublist)

namespace Storage

namespace Undisturbed

variable {reference : Reference} {storage middle next : Storage (Recorded Unreliable)}
  {handle : Handle} {file : OpenFile} {cache : FrameCache} {locations : List FrameLocation}
  {frames : List Bytes}

theorem requests_respond (undisturbed : Undisturbed reference storage) (call : Call) :
    (Storage.respond call storage).2.transport.requests = storage.transport.requests ++
      ((turns call storage).map Turn.errand).map Errand.request := by
  have works := (undisturbed.settled.respond undisturbed.sound call).works
  unfold Recorded.requests
  rw [works.sent, List.map_append, List.map_map, List.map_map]
  rfl

/-- Of the frames that are read, those are fetched that the cache misses. -/
theorem fetches (undisturbed : Undisturbed reference storage) (held : storage.cache = some cache)
    (read : readFrames locations storage = .ok frames next) :
    frames = locations.map storage.transport.device.content ∧
      Makes ((cache.missed (storage.transport.device.snapshot locations)).map .fetch)
        (eachTurns fetchTurns readFrame locations storage) storage next ∧
      next.cache = some (cache.readThroughAll (storage.transport.device.snapshot locations)) := by
  have on : storage.cache.isSome = true := Option.isSome_iff_exists.mpr ⟨cache, held⟩
  have made := readFrames_makes held read
  have whole : cache.Keeps storage.config.cacheFrames fun _ _ => True :=
    (undisturbed.sound.cached cache held).imp fun _ _ _ _ => trivial
  obtain ⟨_, values⟩ := readFrames_relayed relays undisturbed.coherent on locations
  obtain ⟨_, _, transport, active, rfl⟩ := readFrames_ok held whole (fun _ _ _ _ => trivial) read
  obtain rfl := values frames _ read
  rw [Device.zip_contents] at made ⊢
  exact ⟨rfl, made, rfl⟩

/-- A successful read fetches what it covers and is not cached. -/
theorem read_makes (undisturbed : Undisturbed reference storage) (held : storage.cache = some cache)
    {wanted : Nat} (on : storage.poweredOn = true) (present : storage.files.get? handle = some file)
    (some : 0 < wanted) (more : file.position < file.length)
    (read : readFrames (covering file storage.frameSize (readable file wanted)) storage =
      .ok frames next) :
    let pieces := storage.transport.device.snapshot
      (covering file storage.frameSize (readable file wanted))
    Makes ((cache.missed pieces).map .fetch) (readTurns handle wanted storage) storage next ∧
      next.cache = .some (cache.readThroughAll pieces) := by
  rw [Settled.readTurns_eq on present some more]
  exact (undisturbed.fetches held read).2

/-- A successful write fetches what it reads back and is not cached, and then stores each piece of the
new content. -/
theorem write_makes (undisturbed : Undisturbed reference storage) (held : storage.cache = some cache)
    {data : Bytes} (starts : storage.Starts handle data file)
    (read : readFrames file.frames storage = .ok frames middle) {targets claimed : List FrameLocation}
    (placed : Storage.placeContent handle (file.contentAfter frames data)
      { middle with table := middle.table.releaseEach file.frames } =
        .ok (targets, claimed, .ok ()) next) :
    let old := storage.transport.device.snapshot file.frames
    let new := storage.placement file (file.frames.map storage.transport.device.content) data
    frames = file.frames.map storage.transport.device.content ∧ targets = new.map Prod.fst ∧
      Makes ((cache.missed old).map .fetch ++ new.map fun piece => .store piece.1 piece.2)
        (writeTurns handle data storage) storage next ∧
      next.cache = some ((cache.readThroughAll old).putAll new) := by
  obtain ⟨rfl, fetched, cached⟩ := undisturbed.fetches held read
  obtain ⟨transport, active, after, rfl⟩ := readFrames_leaves read
  obtain ⟨stored, left⟩ := placeContent_makes (by exact undisturbed.sound.positive) placed
  have found := (placeContent_ok placed).1
  have fst := undisturbed.sound.placement_fst file
    (file.frames.map storage.transport.device.content) data
  refine ⟨rfl, found.trans fst.symm, ?_, ?_⟩
  · rw [Settled.writeTurns_eq starts]
    unfold rewriteTurns
    rw [read]
    exact fetched.trans ⟨stored.errands, stored.active⟩
  · rw [left]
    exact congrArg (Option.map _) cached

/-- A successful read of something fetches what it covers and is not cached, in scan order. -/
theorem read_sweeps (undisturbed : Undisturbed reference storage) {wanted : Nat} {reply : Reply}
    (some : 0 < wanted) (success : (Storage.respond (.read handle wanted) storage).1 = .ok reply) :
    ∃ file cache fetched sent, storage.files.get? handle = .some file ∧
      storage.cache = .some cache ∧
      fetched = cache.missed (storage.transport.device.snapshot
        (covering file storage.frameSize (readable file wanted))) ∧
      Sweep storage.active (fetched.map .fetch) sent ∧
      (Storage.respond (.read handle wanted) storage).2.transport.requests =
        storage.transport.requests ++ sent.map Errand.request := by
  have requests := undisturbed.requests_respond (.read handle wanted)
  obtain ⟨_, run, _⟩ := Operation.bind_pure_ok.mp (respond_ok success)
  generalize (Storage.respond (.read handle wanted) storage).2 = last at run requests ⊢
  have ending := read_run handle wanted storage
  rw [run] at ending
  cases ending with
  | nothing on present zero => exact absurd zero (Nat.ne_of_gt some)
  | @done file _ _ on present _ more read =>
    obtain ⟨cache, held⟩ := undisturbed.sound.cache_of_on on
    obtain ⟨made, _⟩ := undisturbed.read_makes held on present some more read
    have ordered := (undisturbed.sound.laid present).ordered
    have covered : (covering file storage.frameSize (readable file wanted)).Sublist file.frames :=
      (List.take_sublist _ _).trans (List.drop_sublist _ _)
    refine ⟨file, cache, _, _, present, held, rfl,
      .of_ordered _ (cache.missed_ordered (ordered.sublist covered) _), requests.trans ?_⟩
    rw [← made.errands]
    rfl

/-- A successful write of something fetches what it reads back and is not cached, in scan order, and then
stores each frame of the new content, in scan order. -/
theorem write_sweeps (undisturbed : Undisturbed reference storage) {data : Bytes} {reply : Reply}
    (some : data ≠ []) (success : (Storage.respond (.write handle data) storage).1 = .ok reply) :
    ∃ file after cache fetched pieces readBack stored, storage.files.get? handle = .some file ∧
      (Storage.respond (.write handle data) storage).2.files.get? handle = .some after ∧
      storage.cache = .some cache ∧
      fetched = cache.missed (storage.transport.device.snapshot file.frames) ∧
      pieces = storage.placement file (file.frames.map storage.transport.device.content) data ∧
      pieces.map Prod.fst = after.frames ∧
      pieces.length = framesFor after.length storage.frameSize ∧
      Sweep storage.active (fetched.map .fetch) readBack ∧
      Sweep (Transfer.arrival storage.active (fetched.map .fetch))
        (pieces.map fun piece => .store piece.1 piece.2) stored ∧
      (Storage.respond (.write handle data) storage).2.transport.requests =
        storage.transport.requests ++ (readBack ++ stored).map Errand.request := by
  have requests := undisturbed.requests_respond (.write handle data)
  obtain ⟨_, run, _⟩ := Operation.bind_pure_ok.mp (respond_ok success)
  generalize (Storage.respond (.write handle data) storage).2 = last at run requests ⊢
  have ending := undisturbed.sound.write_run handle data
  rw [run] at ending
  cases ending with
  | nothing on present empty => exact absurd empty some
  | @stored file frames middle targets claimed next starts read placed =>
    obtain ⟨cache, held⟩ := undisturbed.sound.cache_of_on starts.on
    obtain ⟨_, ordered, _, _, whole, transport, active, _, _, left⟩ :=
      undisturbed.sound.rewritten starts read placed
    obtain ⟨_, count⟩ := whole rfl
    obtain ⟨rfl, rfl, made, _⟩ := undisturbed.write_makes held starts read placed
    have found : next.files.get? handle = .some file := by
      rw [left]
      exact starts.present
    rw [List.length_map] at count
    refine ⟨file, _, cache, _, _, _, _, starts.present,
      (Registry.get?_update found).trans (if_pos rfl), held, rfl, rfl, rfl, count,
      .of_ordered _ (cache.missed_ordered (undisturbed.sound.laid starts.present).ordered _),
      .of_ordered _ ?_, requests.trans ?_⟩
    · rw [List.map_map]
      exact ordered
    · rw [← Transfer.errands_append, ← made.errands]
      rfl

end Undisturbed

end Storage

end CartridgeBank
