import CartridgeBank.Proofs.Frame
import CartridgeBank.Proofs.Transfer

namespace CartridgeBank

/-- The bytes that a write of `data` leaves in a file, whose frames hold `frames`. -/
def OpenFile.contentAfter (file : OpenFile) (frames : List Bytes) (data : Bytes) : Bytes :=
  Storage.splice (frames.flatten.take file.length) file.position data

namespace Storage

theorem length_splice {content : Bytes} {position : Nat} (within : position ≤ content.length)
    (data : Bytes) :
    (splice content position data).length = max content.length (position + data.length) := by
  simp only [splice, List.length_append, List.length_take, List.length_drop]
  omega

/-- The data is where it was put, and each other byte is that of the content. -/
theorem getElem?_splice {content : Bytes} {position : Nat} (within : position ≤ content.length)
    (data : Bytes) (place : Nat) :
    (splice content position data)[place]? =
      if position ≤ place ∧ place < position + data.length then data[place - position]?
      else content[place]? := by
  have front := List.length_take_of_le within
  rw [splice, List.append_assoc]
  rcases Nat.lt_or_ge place position with before | reached
  · rw [List.getElem?_append_left (by omega), List.getElem?_take, if_pos before, if_neg (by omega)]
  · rw [List.getElem?_append_right (by omega), front]
    by_cases put : place < position + data.length
    · rw [List.getElem?_append_left (by omega), if_pos ⟨reached, put⟩]
    · rw [List.getElem?_append_right (by omega), List.getElem?_drop, if_neg (by omega)]
      congr 1
      omega

/-- What was put into some bytes is there. -/
theorem take_drop_splice {content : Bytes} {position : Nat} (within : position ≤ content.length)
    (data : Bytes) : ((splice content position data).drop position).take data.length = data := by
  have front := List.length_take_of_le within
  rw [splice, List.append_assoc, List.drop_left' front, List.take_left]

variable {σ : Type} {storage next : Storage σ} {handle : Handle} {location : FrameLocation}
  {locations : List FrameLocation}

theorem release_eq (location : FrameLocation) :
    release location storage =
      match storage.table.release location with
      | .ok (_, table) => .ok () { storage with table }
      | .error fault => .error fault storage := by
  simp only [release, Operation.bind_apply, Operation.get_apply]
  cases storage.table.release location <;> rfl

theorem claim_eq (handle : Handle) (location : FrameLocation) :
    claim handle location storage =
      match storage.table.claim location handle with
      | .ok table => .ok () { storage with table }
      | .error fault => .error fault storage := by
  simp only [claim, Operation.bind_apply, Operation.get_apply]
  cases storage.table.claim location handle <;> rfl

theorem ignoring_release (location : FrameLocation) :
    ignoring (release location) storage =
      .ok () { storage with table := storage.table.releaseEach [location] } := by
  simp only [ignoring, Operation.tryCatch_apply, release_eq, Ownership.releaseEach_cons,
    Ownership.releaseEach_nil]
  cases storage.table.release location <;> rfl

theorem ignoring_claim (handle : Handle) (location : FrameLocation) :
    ignoring (claim handle location) storage =
      .ok () { storage with table := storage.table.claimEach handle [location] } := by
  simp only [ignoring, Operation.tryCatch_apply, claim_eq, Ownership.claimEach_cons,
    Ownership.claimEach_nil]
  cases storage.table.claim location handle <;> rfl

theorem forM_invalidate (locations : List FrameLocation) :
    locations.forM invalidate storage =
      .ok () { storage with cache := storage.cache.map (·.invalidateAll locations) } := by
  induction locations generalizing storage with
  | nil =>
    simp only [Operation.forM_nil_apply, FrameCache.invalidateAll, List.foldl_nil, Option.map_id']
  | cons location rest ih =>
    rw [Operation.forM_cons_apply, invalidate_apply]
    dsimp only
    rw [ih, Option.map_map]
    rfl

theorem forM_release (inside : ∀ location ∈ locations, storage.table.geometry.contains location) :
    locations.forM release storage =
      .ok () { storage with table := storage.table.releaseEach locations } := by
  induction locations generalizing storage with
  | nil => rfl
  | cons location rest ih =>
    obtain ⟨after, released⟩ :=
      Ownership.release_of_contains (inside location List.mem_cons_self)
    have shape := (Ownership.release_ok released).1
    simp only [Operation.forM_cons_apply, release_eq, released]
    rw [ih fun other member => by simpa only [shape] using inside other (List.mem_cons_of_mem _ member)]
    simp only [Ownership.releaseEach_cons, released, Except.toOption, Option.map_some,
      Option.getD_some]

/-- A loop that undoes something with each frame, and forgets its cached bytes. -/
theorem forM_undo {step : FrameLocation → Operation σ Unit}
    {change : Ownership → FrameLocation → Ownership}
    (each : ∀ location (storage : Storage σ), ignoring (step location) storage =
      .ok () { storage with table := change storage.table location })
    (locations : List FrameLocation) (storage : Storage σ) :
    (locations.forM fun location => do
      ignoring (step location)
      invalidate location) storage =
      .ok () { storage with
        table := locations.foldl change storage.table
        cache := storage.cache.map (·.invalidateAll locations) } := by
  induction locations generalizing storage with
  | nil => simp [FrameCache.invalidateAll]
  | cons location rest ih =>
    simp only [Operation.forM_cons_apply, Operation.bind_apply, each, invalidate_apply]
    rw [ih, Option.map_map]
    rfl

theorem forM_giveBack (locations : List FrameLocation) (storage : Storage σ) :
    (locations.forM fun location => do
      ignoring (release location)
      invalidate location) storage =
      .ok () { storage with
        table := storage.table.releaseEach locations
        cache := storage.cache.map (·.invalidateAll locations) } :=
  forM_undo (fun location _ => ignoring_release location) locations storage

theorem forM_takeBack (handle : Handle) (locations : List FrameLocation) (storage : Storage σ) :
    (locations.forM fun location => do
      ignoring (claim handle location)
      invalidate location) storage =
      .ok () { storage with
        table := storage.table.claimEach handle locations
        cache := storage.cache.map (·.invalidateAll locations) } :=
  forM_undo (fun location _ => ignoring_claim handle location) locations storage

/-- Undoing a write gives back what it claimed and takes back the old frames, and forgets the cached
bytes of both. -/
theorem rollBack_eq (handle : Handle) (claimed old : List FrameLocation) :
    rollBack handle claimed old storage =
      .ok () { storage with
        table := (storage.table.releaseEach claimed).claimEach handle old
        cache := storage.cache.map (·.invalidateAll (claimed ++ old)) } := by
  simp only [rollBack, Operation.bind_apply, forM_giveBack, forM_takeBack, Option.map_map]
  congr 3
  funext cache
  simp [FrameCache.invalidateAll]

theorem ensureRoom_eq (file : OpenFile) (added : Nat) :
    ensureRoom file added storage =
      if file.length < file.position + added ∧
          storage.table.free < framesFor (file.length + added) storage.frameSize then
        .error (.outOfSpace (framesFor (file.length + added) storage.frameSize)
          storage.table.free) storage
      else .ok () storage := by
  unfold ensureRoom
  by_cases grows : file.length < file.position + added
  · by_cases full : storage.table.free < framesFor (file.length + added) storage.frameSize <;>
      simp [grows, full]
  · simp [grows]

variable [Transport σ]

/-- However storing ends, the frames claimed are the first of those asked for, and the frames
written are all of these but possibly the last. -/
theorem store_spec {pieces : List (FrameLocation × Bytes)} {claimed : List FrameLocation}
    {result : Except Fault Unit} (run : store handle pieces storage = (claimed, result, next)) :
    claimed <+: pieces.map Prod.fst ∧
      ∃ written transport active, written <+: pieces ∧ written.map Prod.fst <+: claimed ∧
        (result = .ok () → written = pieces ∧ claimed = pieces.map Prod.fst) ∧
        next = { storage with
          transport
          active
          table := storage.table.claimEach handle claimed
          cache := storage.cache.map (·.putAll written) } := by
  induction pieces generalizing storage claimed with
  | nil =>
    cases run
    exact ⟨List.prefix_refl _, [], next.transport, next.active, List.prefix_refl _,
      List.prefix_refl _, fun _ => ⟨rfl, rfl⟩, by simp [FrameCache.putAll]⟩
  | cons piece rest ih =>
    obtain ⟨location, frame⟩ := piece
    unfold store at run
    rw [claim_eq] at run
    cases claim : storage.table.claim location handle with
    | error fault =>
      simp only [claim] at run
      cases run
      exact ⟨List.nil_prefix, [], next.transport, next.active, List.nil_prefix,
        List.nil_prefix, nofun, by simp [FrameCache.putAll]⟩
    | ok table =>
      simp only [claim] at run
      have grown : storage.table.claimEach handle [location] = table := by
        simp [claim, Except.toOption]
      split at run
      · rename_i fault after written
        cases run
        obtain ⟨transport, active, rfl⟩ := writeFrame_error written
        exact ⟨by simp, [], transport, active, List.nil_prefix, List.nil_prefix, nofun,
          by simp [FrameCache.putAll, claim, Except.toOption]⟩
      · rename_i after written
        obtain ⟨first, rfl⟩ := writeFrame_ok written
        cases run
        obtain ⟨claims, done, transport, active, written, covered, whole, final⟩ := ih rfl
        refine ⟨by simpa using claims, (location, frame) :: done, transport, active,
          by simpa using written, by simpa using covered, ?_, ?_⟩
        · intro success
          obtain ⟨all, allClaimed⟩ := whole success
          exact ⟨by rw [all], by rw [allClaimed]; rfl⟩
        · rw [final, Ownership.claimEach_cons, claim]
          simp only [Option.map_map, Except.toOption, Option.getD_some, FrameCache.putAll,
            List.foldl_cons]
          rfl

/-- New content goes into the first free frames, if these are enough. -/
theorem placeContent_ok {content : Bytes} {targets claimed : List FrameLocation}
    {result : Except Fault Unit}
    (run : placeContent handle content storage = .ok (targets, claimed, result) next) :
    targets = storage.table.firstFree (framesFor content.length storage.frameSize) ∧
      ((targets.length < framesFor content.length storage.frameSize ∧ claimed = [] ∧
          result = .error (.outOfSpace (framesFor content.length storage.frameSize) targets.length) ∧
          next = storage) ∨
        (framesFor content.length storage.frameSize ≤ targets.length ∧
          store handle (targets.zip (blocks content storage.frameSize)) storage =
            (claimed, result, next))) := by
  unfold placeContent at run
  dsimp only at run
  split at run
  · rename_i few
    cases run
    exact ⟨rfl, Or.inl ⟨few, rfl, rfl, rfl⟩⟩
  · rename_i enough
    cases run
    exact ⟨rfl, Or.inr ⟨Nat.le_of_not_lt enough, rfl⟩⟩

theorem placeContent_total (handle : Handle) (content : Bytes) (storage : Storage σ) :
    ∃ targets claimed result next,
      placeContent handle content storage = .ok (targets, claimed, result) next := by
  unfold placeContent
  dsimp only
  split
  · exact ⟨_, _, _, _, rfl⟩
  · exact ⟨_, _, _, _, rfl⟩

/-- No free frame is left without a piece of the content. -/
theorem firstFree_zip_blocks {frameSize : Nat} (positive : 0 < frameSize) (table : Ownership)
    (content : Bytes) :
    ((table.firstFree (framesFor content.length frameSize)).zip (blocks content frameSize)).map
      Prod.fst = table.firstFree (framesFor content.length frameSize) := by
  refine List.map_fst_zip ?_
  rw [length_blocks positive]
  exact Ownership.length_firstFree_le _

/-- However placing content ends, some first part of its frames is claimed, and all claimed frames
but possibly the last one are written. -/
theorem placeContent_spec {content : Bytes} {targets claimed : List FrameLocation}
    {result : Except Fault Unit} (positive : 0 < storage.frameSize)
    (run : placeContent handle content storage = .ok (targets, claimed, result) next) :
    targets = storage.table.firstFree (framesFor content.length storage.frameSize) ∧
      claimed <+: targets ∧
      ∃ written transport active, written <+: targets.zip (blocks content storage.frameSize) ∧
        written.map Prod.fst <+: claimed ∧
        (result = .ok () → targets.length = framesFor content.length storage.frameSize ∧
          written = targets.zip (blocks content storage.frameSize) ∧ claimed = targets) ∧
        next = { storage with
          transport
          active
          table := storage.table.claimEach handle claimed
          cache := storage.cache.map (·.putAll written) } := by
  obtain ⟨found, ⟨few, rfl, rfl, rfl⟩ | ⟨enough, stored⟩⟩ := placeContent_ok run
  · exact ⟨found, List.nil_prefix, [], next.transport, next.active, List.nil_prefix,
      List.nil_prefix, nofun, by simp [FrameCache.putAll]⟩
  · have atMost := storage.table.length_firstFree_le (framesFor content.length storage.frameSize)
    have locations := firstFree_zip_blocks positive storage.table content
    rw [← found] at atMost locations
    obtain ⟨claims, written, transport, active, part, covered, whole, final⟩ := store_spec stored
    rw [locations] at claims whole
    refine ⟨found, claims, written, transport, active, part, covered, fun success => ?_, final⟩
    exact ⟨Nat.le_antisymm atMost enough, whole success⟩

/-- A write that finds the file and the room for the data. -/
structure Starts (storage : Storage σ) (handle : Handle) (data : Bytes) (file : OpenFile) : Prop where
  on : storage.poweredOn = true
  present : storage.files.get? handle = some file
  nonempty : data ≠ []
  room : file.length < file.position + data.length →
    framesFor (file.length + data.length) storage.frameSize ≤ storage.table.free

/-- What a write does that finds the file and the room: it reads the old frames back, gives them up,
and places the new content, or undoes that. -/
theorem Starts.write_eq {data : Bytes} {file : OpenFile} (starts : storage.Starts handle data file)
    (inside : ∀ location ∈ file.frames, storage.table.geometry.contains location = true) :
    write handle data storage =
      match readFrames file.frames storage with
      | .error fault next => .error fault next
      | .ok frames next =>
        match placeContent handle (file.contentAfter frames data)
          { next with table := next.table.releaseEach file.frames } with
        | .error fault last => .error fault last
        | .ok (_, claimed, .error fault) last => .error fault { last with
            table := (last.table.releaseEach claimed).claimEach handle file.frames
            cache := last.cache.map (·.invalidateAll (claimed ++ file.frames)) }
        | .ok (targets, _, .ok ()) last => .ok data.length { last with
            cache := last.cache.map (·.invalidateAll (givenUp file.frames targets))
            files := last.files.update handle { file with
              frames := targets
              length := (file.contentAfter frames data).length
              position := file.position + data.length } } := by
  have room : ¬(file.length < file.position + data.length ∧
      storage.table.free < framesFor (file.length + data.length) storage.frameSize) :=
    fun full => Nat.not_lt.mpr (starts.room full.1) full.2
  unfold write
  simp only [Operation.bind_apply, ensurePowered_on starts.on, Operation.get_apply,
    Registry.get_of_get? starts.present, require_ok, if_neg starts.nonempty, ensureRoom_eq,
    if_neg room]
  cases read : readFrames file.frames storage with
  | error fault next => rfl
  | ok frames next =>
    obtain ⟨transport, active, cache, rfl⟩ := readFrames_leaves read
    dsimp only
    rw [forM_release (by exact inside)]
    dsimp only
    obtain ⟨targets, claimed, result, last, placed⟩ := placeContent_total handle
      (file.contentAfter frames data) { storage with
        transport, active, cache, table := storage.table.releaseEach file.frames }
    rw [placed]
    unfold OpenFile.contentAfter at placed
    rw [placed]
    cases result with
    | error fault => simp only [Operation.bind_apply, rollBack_eq, Operation.throw_apply]
    | ok value =>
      simp only [Operation.bind_apply, forM_invalidate, Operation.modify_apply,
        Operation.pure_apply]
      rfl

/-- How a write ends: it is refused and nothing happens, its old frames cannot be read, its new
frames cannot be stored, or it succeeds. -/
inductive WriteRun (handle : Handle) (data : Bytes) (storage : Storage σ) :
    EStateM.Result Fault (Storage σ) Nat → Prop
  | off : storage.poweredOn = false → WriteRun handle data storage (.error .notPoweredOn storage)
  | invalid : storage.poweredOn = true → storage.files.get? handle = none →
      WriteRun handle data storage (.error (.invalidHandle handle) storage)
  | nothing {file} : storage.poweredOn = true → storage.files.get? handle = some file → data = [] →
      WriteRun handle data storage (.ok 0 storage)
  | full {file} : storage.poweredOn = true → storage.files.get? handle = some file → data ≠ [] →
      file.length < file.position + data.length →
      storage.table.free < framesFor (file.length + data.length) storage.frameSize →
      WriteRun handle data storage (.error (.outOfSpace
        (framesFor (file.length + data.length) storage.frameSize) storage.table.free) storage)
  | unread {file fault next} : storage.Starts handle data file →
      readFrames file.frames storage = .error fault next →
      WriteRun handle data storage (.error fault next)
  | unstored {file frames read targets claimed fault next} : storage.Starts handle data file →
      readFrames file.frames storage = .ok frames read →
      placeContent handle (file.contentAfter frames data)
        { read with table := read.table.releaseEach file.frames } =
          .ok (targets, claimed, .error fault) next →
      WriteRun handle data storage (.error fault { next with
        table := (next.table.releaseEach claimed).claimEach handle file.frames
        cache := next.cache.map (·.invalidateAll (claimed ++ file.frames)) })
  | stored {file frames read targets claimed next} : storage.Starts handle data file →
      readFrames file.frames storage = .ok frames read →
      placeContent handle (file.contentAfter frames data)
        { read with table := read.table.releaseEach file.frames } =
          .ok (targets, claimed, .ok ()) next →
      WriteRun handle data storage (.ok data.length { next with
        cache := next.cache.map (·.invalidateAll (givenUp file.frames targets))
        files := next.files.update handle { file with
          frames := targets
          length := (file.contentAfter frames data).length
          position := file.position + data.length } })

theorem write_run (handle : Handle) (data : Bytes) (storage : Storage σ)
    (inside : ∀ file, storage.files.get? handle = some file →
      ∀ location ∈ file.frames, storage.table.geometry.contains location = true) :
    WriteRun handle data storage (write handle data storage) := by
  cases on : storage.poweredOn with
  | false =>
    simp only [write, Operation.bind_apply, ensurePowered_off on]
    exact .off on
  | true =>
    cases present : storage.files.get? handle with
    | none =>
      simp only [write, Operation.bind_apply, ensurePowered_on on, Operation.get_apply,
        Registry.get_error present, require_error]
      exact .invalid on present
    | some file =>
      by_cases empty : data = []
      · simp only [write, Operation.bind_apply, ensurePowered_on on, Operation.get_apply,
          Registry.get_of_get? present, require_ok, if_pos empty, Operation.pure_apply]
        exact .nothing on present empty
      by_cases full : file.length < file.position + data.length ∧
          storage.table.free < framesFor (file.length + data.length) storage.frameSize
      · simp only [write, Operation.bind_apply, ensurePowered_on on, Operation.get_apply,
          Registry.get_of_get? present, require_ok, if_neg empty, ensureRoom_eq, if_pos full]
        exact .full on present empty full.1 full.2
      have starts : storage.Starts handle data file :=
        ⟨on, present, empty, fun grows => Nat.le_of_not_lt fun few => full ⟨grows, few⟩⟩
      rw [starts.write_eq (inside file present)]
      cases read : readFrames file.frames storage with
      | error fault next => exact .unread starts read
      | ok frames next =>
        obtain ⟨targets, claimed, result, last, placed⟩ := placeContent_total handle
          (file.contentAfter frames data) { next with table := next.table.releaseEach file.frames }
        dsimp only
        rw [placed]
        cases result with
        | error fault => exact .unstored starts read placed
        | ok value => exact .stored starts read placed

end Storage

end CartridgeBank
