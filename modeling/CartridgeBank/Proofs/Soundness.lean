import CartridgeBank.Device
import CartridgeBank.Proofs.Books
import CartridgeBank.Proofs.Calls

namespace CartridgeBank

namespace Storage

variable {σ : Type}

/-- What the cache may hold: a whole frame of an open file. -/
def MayCache (storage : Storage σ) (location : FrameLocation) (frame : Bytes) : Prop :=
  (storage.table.owner? location).isSome = true ∧ frame.length = storage.frameSize

/-- What holds between any two calls, whatever the transport does. -/
structure Sound (storage : Storage σ) : Prop where
  valid : storage.config.geometry.Valid
  sized : 0 < storage.config.cacheFrames ∧ storage.config.cacheFrames ≤ maxCacheFrames
  shape : storage.table.geometry = storage.config.geometry
  books : Books storage.files storage.table
  power : storage.poweredOn = storage.cache.isSome
  cached : ∀ cache, storage.cache = some cache →
    cache.Keeps storage.config.cacheFrames storage.MayCache
  off : storage.poweredOn = false →
    storage.files = {} ∧ storage.table = Ownership.ofGeometry storage.config.geometry ∧
      storage.active = none

namespace Sound

variable {storage : Storage σ} {handle : Handle} {file : OpenFile} {location : FrameLocation}

theorem tableValid (sound : storage.Sound) : storage.table.geometry.Valid := by
  rw [sound.shape]
  exact sound.valid

theorem valid_releaseEach (sound : storage.Sound) (locations : List FrameLocation) :
    (storage.table.releaseEach locations).geometry.Valid := by
  rw [(Ownership.releaseEach_spec locations).1]
  exact sound.tableValid

theorem positive (sound : storage.Sound) : 0 < storage.frameSize := sound.valid.frameSize_pos

theorem laid (sound : storage.Sound) (present : storage.files.get? handle = some file) :
    file.Laid storage.config.geometry := by
  rw [← sound.shape]
  exact sound.books.laid handle file present

/-- No file is longer than the bank. -/
theorem length_le (sound : storage.Sound) (present : storage.files.get? handle = some file) :
    file.length ≤ storage.config.geometry.totalBytes := by
  have laid := sound.laid present
  have distinct : file.frames.Nodup := laid.ordered.imp FrameLocation.Precedes.ne
  have few : file.frames.length ≤ storage.config.geometry.totalFrames := by
    rw [← Geometry.length_locations]
    exact distinct.length_le_of_subset fun location member =>
      sound.valid.mem_locations.mpr (laid.inside location member)
  have enough : file.length ≤ file.frames.length * storage.frameSize :=
    (framesFor_le_iff sound.positive).mp (Nat.le_of_eq laid.count.symm)
  exact Nat.le_trans enough (Nat.mul_le_mul_right _ few)

theorem owned (sound : storage.Sound) (present : storage.files.get? handle = some file)
    (member : location ∈ file.frames) : (storage.table.owner? location).isSome = true := by
  rw [sound.books.owner_eq present member]
  rfl

theorem cache_of_on (sound : storage.Sound) (on : storage.poweredOn = true) :
    ∃ cache, storage.cache = some cache :=
  Option.isSome_iff_exists.mp (sound.power.symm.trans on)

theorem wholeCached (sound : storage.Sound) {cache : FrameCache}
    (held : storage.cache = some cache) :
    cache.Keeps storage.config.cacheFrames fun _ frame => frame.length = storage.frameSize :=
  (sound.cached cache held).imp fun _ _ _ both => both.2

/-- A powered-on storage may lose its place on the device and have other frames cached. -/
theorem carried (sound : storage.Sound) (on : storage.poweredOn = true) (transport : σ)
    (active : Option UInt16) {cache : FrameCache}
    (keeps : cache.Keeps storage.config.cacheFrames storage.MayCache) :
    Sound { storage with transport, active, cache := some cache } where
  valid := sound.valid
  sized := sound.sized
  shape := sound.shape
  books := sound.books
  power := on
  cached := by
    rintro _ ⟨⟩
    exact keeps
  off off := Bool.noConfusion (on.symm.trans off)

theorem relayed (sound : storage.Sound) (transport : σ) : Sound { storage with transport } :=
  ⟨sound.valid, sound.sized, sound.shape, sound.books, sound.power, sound.cached, sound.off⟩

/-- A valid configuration gives a sound storage, powered off. -/
theorem created {config : Config} {transport : σ} (made : create config transport = .ok storage) :
    storage.Sound := by
  obtain ⟨passed, rfl⟩ := create_eq_ok_iff.mp made
  obtain ⟨valid, some, few⟩ := Config.validate_ok passed
  exact {
    valid
    sized := ⟨some, few⟩
    shape := rfl
    books := Books.cleared (Ownership.ofGeometry config.geometry)
    power := rfl
    cached := nofun
    off := fun _ => ⟨rfl, rfl, rfl⟩ }

/-- Forgetting everything leaves a sound storage, powered off. -/
theorem forgotten (sound : storage.Sound) (transport : σ) :
    Sound { storage.cleared with transport, poweredOn := false } where
  valid := sound.valid
  sized := sound.sized
  shape := sound.shape
  books := Books.cleared storage.table
  power := rfl
  cached := nofun
  off _ := by
    refine ⟨rfl, ?_, rfl⟩
    simp only [cleared, Ownership.reset_eq, sound.shape]

/-- The same with a new cache, powered on. -/
theorem started (sound : storage.Sound) (transport : σ) (active : Option UInt16)
    {cache : FrameCache} (made : FrameCache.ofCapacity storage.config.cacheFrames = .ok cache) :
    Sound { storage.cleared with transport, active, cache := some cache, poweredOn := true } where
  valid := sound.valid
  sized := sound.sized
  shape := sound.shape
  books := Books.cleared storage.table
  power := rfl
  cached := by
    rintro _ ⟨⟩
    obtain ⟨capacity, distinct, empty⟩ := FrameCache.ofCapacity_ok made
    refine ⟨distinct, capacity, fun location frame cached => ?_⟩
    rw [empty] at cached
    cases cached
  off := nofun

/-- Frames of an open file may be cached once they are read. -/
theorem mayCache (sound : storage.Sound) (present : storage.files.get? handle = some file)
    {locations : List FrameLocation} (own : ∀ location ∈ locations, location ∈ file.frames) :
    ∀ location ∈ locations, ∀ frame, frame.length = storage.frameSize →
      storage.MayCache location frame :=
  fun location member _ full => ⟨sound.owned present (own location member), full⟩

theorem refiled (sound : storage.Sound) (on : storage.poweredOn = true) {files : Registry}
    (books : Books files storage.table) : Sound { storage with files } :=
  ⟨sound.valid, sound.sized, sound.shape, books, sound.power, sound.cached,
    fun off => Bool.noConfusion (on.symm.trans off)⟩

theorem openFile (sound : storage.Sound) (name : String) :
    ((openFile name).after storage).Sound := by
  unfold Operation.after
  rw [openFile_eq]
  by_cases on : storage.poweredOn = true
  · rw [if_pos on]
    cases opened : storage.files.insert name with
    | error fault => exact sound
    | ok pair => exact sound.refiled on (sound.books.opened opened)
  · rw [if_neg on]
    exact sound

theorem seek (sound : storage.Sound) (handle : Handle) (offset : Nat) :
    ((seek handle offset).after storage).Sound := by
  unfold Operation.after
  rw [seek_eq]
  by_cases on : storage.poweredOn = true
  · rw [if_pos on]
    cases present : storage.files.get? handle with
    | none => exact sound
    | some file =>
      by_cases beyond : file.length < offset
      · simp only [if_pos beyond]
        exact sound
      · simp only [if_neg beyond]
        exact sound.refiled on (sound.books.moved present (Nat.le_of_not_lt beyond))
  · rw [if_neg on]
    exact sound

theorem resized (sound : storage.Sound) (absent : storage.cache.isSome = false) {frames : Nat}
    (sized : 0 < frames ∧ frames ≤ maxCacheFrames) :
    Sound { storage with config := { storage.config with cacheFrames := frames } } := by
  refine ⟨sound.valid, sized, sound.shape, sound.books, sound.power, fun cache held => ?_, sound.off⟩
  have present : storage.cache.isSome = true := Option.isSome_iff_exists.mpr ⟨cache, held⟩
  exact Bool.noConfusion (absent.symm.trans present)

theorem setCacheFrames (sound : storage.Sound) (frames : Nat) :
    ((setCacheFrames frames).after storage).Sound := by
  unfold Operation.after
  rw [setCacheFrames_eq]
  by_cases inUse : storage.cache.isSome = true
  · rw [if_pos inUse]
    exact sound
  · by_cases impossible : frames = 0 ∨ maxCacheFrames < frames
    · rw [if_neg inUse, if_pos impossible]
      exact sound
    · rw [if_neg inUse, if_neg impossible]
      exact sound.resized (Bool.eq_false_iff.mpr inUse) (by omega)

theorem closeFile (sound : storage.Sound) (handle : Handle) :
    ((closeFile handle).after storage).Sound := by
  unfold Operation.after
  rw [closeFile_eq]
  by_cases on : storage.poweredOn = true
  · rw [if_pos on]
    cases closed : storage.files.erase handle with
    | error fault => exact sound
    | ok pair =>
      obtain ⟨file, files⟩ := pair
      obtain ⟨present, _⟩ := Registry.erase_ok closed
      obtain ⟨shape, _, owners⟩ := @Ownership.releaseAll_spec storage.table handle
      obtain ⟨cache, held⟩ := sound.cache_of_on on
      refine ⟨sound.valid, sound.sized, shape.trans sound.shape, sound.books.closed closed, ?_, ?_,
        fun off => Bool.noConfusion (on.symm.trans off)⟩
      · simp only [held, on, Option.map_some, Option.isSome_some]
      · intro after same
        simp only [held, Option.map_some, Option.some.injEq] at same
        subst same
        refine (sound.cached cache held).invalidateAll.imp fun location frame _ both => ?_
        obtain ⟨notMine, owned, full⟩ := both
        obtain ⟨owner, isOwner⟩ := Option.isSome_iff_exists.mp owned
        refine ⟨?_, full⟩
        simp only [owners, isOwner]
        -- a frame of the closed file was dropped from the cache
        have other : owner ≠ handle := by
          rintro rfl
          obtain ⟨second, found, member⟩ := (sound.books.owned location owner).mp isOwner
          obtain rfl := Option.some.inj (present.symm.trans found)
          exact notMine member
        simp [Option.filter, other]
  · rw [if_neg on]
    exact sound

variable [Transport σ] {fault : Fault} {middle next : Storage σ}

theorem powerOn (sound : storage.Sound) : (powerOn.after storage).Sound := by
  have ending := powerOn_run storage
  unfold Operation.after
  generalize Storage.powerOn storage = result at ending
  cases ending with
  | already on => exact sound
  | unsized off refused => exact sound
  | failed off made run =>
    obtain ⟨transport, active, same⟩ :=
      @initializeDevice_after σ _ { storage.cleared with cache := some _ }
    obtain rfl := (Operation.after_of_error run).symm.trans same
    have cleared := sound.forgotten transport
    rw [← off] at cleared
    exact cleared
  | started off made run =>
    obtain ⟨transport, active, same⟩ :=
      @initializeDevice_after σ _ { storage.cleared with cache := some _ }
    obtain rfl := (Operation.after_of_ok run).symm.trans same
    exact sound.started transport active made

theorem powerOff (sound : storage.Sound) : (powerOff.after storage).Sound := by
  unfold Operation.after
  rw [powerOff_eq]
  by_cases on : storage.poweredOn = true
  · rw [if_pos on]
    cases sent : execute .powoff 0 0 none { storage.cleared with poweredOn := false } with
    | error fault next =>
      obtain ⟨transport, rfl⟩ := execute_error sent
      exact sound.forgotten (Transport.disconnect transport)
    | ok answer next =>
      obtain ⟨transport, rfl⟩ := execute_ok sent
      exact sound.forgotten (Transport.disconnect transport)
  · rw [if_neg on]
    exact sound

theorem covering_subset {frameSize count : Nat} (member : location ∈ covering file frameSize count) :
    location ∈ file.frames :=
  List.mem_of_mem_drop (List.mem_of_mem_take member)

theorem read (sound : storage.Sound) (handle : Handle) (wanted : Nat) :
    ((read handle wanted).after storage).Sound := by
  have ending := read_run handle wanted storage
  unfold Operation.after
  generalize Storage.read handle wanted storage = result at ending
  cases ending with
  | off off => exact sound
  | invalid on absent => exact sound
  | nothing on present zero => exact sound
  | atEnd on present some ended => exact sound
  | unread on present some more run =>
    obtain ⟨cache, held⟩ := sound.cache_of_on on
    obtain ⟨transport, active, after, keeps, rfl⟩ := readFrames_error held (sound.cached cache held)
      (sound.mayCache present fun location => covering_subset) run
    exact sound.carried on transport active keeps
  | done on present some more run =>
    rename_i file frames next
    obtain ⟨cache, held⟩ := sound.cache_of_on on
    obtain ⟨_, values, transport, active, rfl⟩ := readFrames_ok held (sound.cached cache held)
      (sound.mayCache present fun location => covering_subset) run
    have sound := sound.carried on transport active
      ((sound.cached cache held).readThroughAll values)
    refine sound.refiled on (sound.books.moved present ?_)
    unfold readable
    omega

omit [Transport σ] in
/-- New content needs no more frames than are free once the old ones are given up. -/
theorem room (sound : storage.Sound) {data : Bytes} (starts : storage.Starts handle data file) :
    framesFor (max file.length (file.position + data.length)) storage.frameSize ≤
      (storage.table.releaseEach file.frames).free := by
  have laid := sound.laid starts.present
  have cursor := laid.cursor
  obtain ⟨others, mine⟩ := Ownership.free_releaseEach sound.tableValid sound.books.within
    (laid.ordered.imp FrameLocation.Precedes.ne) (sound.books.laid handle file starts.present).inside
  by_cases grows : file.length < file.position + data.length
  · exact Nat.le_trans (framesFor_mono sound.positive (by omega))
      (Nat.le_trans (starts.room grows) others)
  · rw [Nat.max_eq_left (by omega)]
    exact Nat.le_trans (Nat.le_of_eq laid.count.symm) mine

/-- The frames of a file hold its content, and the new content reaches to its end or to that of the
data. -/
theorem length_contentAfter (sound : storage.Sound) {frames : List Bytes}
    (on : storage.poweredOn = true) (present : storage.files.get? handle = some file)
    (read : readFrames file.frames storage = .ok frames middle) (data : Bytes) :
    file.length ≤ frames.flatten.length ∧ (file.contentAfter frames data).length =
      max file.length (file.position + data.length) := by
  obtain ⟨cache, held⟩ := sound.cache_of_on on
  have laid := sound.laid present
  obtain ⟨count, full⟩ := readFrames_full held (sound.wholeCached held) read
  have enough : file.length ≤ frames.flatten.length := by
    rw [length_flatten full, count, laid.count]
    exact le_framesFor_mul sound.positive file.length
  have whole : (frames.flatten.take file.length).length = file.length := by
    rw [List.length_take]
    omega
  refine ⟨enough, ?_⟩
  rw [OpenFile.contentAfter, length_splice (by rw [whole]; exact laid.cursor), whole]

/-- What a write has done once it has placed the new content, or has failed to. -/
theorem rewritten (sound : storage.Sound) {data : Bytes} {frames : List Bytes}
    {targets claimed : List FrameLocation} {result : Except Fault Unit}
    (starts : storage.Starts handle data file)
    (read : readFrames file.frames storage = .ok frames middle)
    (placed : placeContent handle (file.contentAfter frames data)
      { middle with table := middle.table.releaseEach file.frames } =
        .ok (targets, claimed, result) next) :
    (file.contentAfter frames data).length = max file.length (file.position + data.length) ∧
      targets.Pairwise FrameLocation.Precedes ∧
      (∀ location ∈ targets, storage.config.geometry.contains location = true ∧
        (storage.table.releaseEach file.frames).owner? location = none) ∧
      claimed <+: targets ∧
      (result = .ok () → claimed = targets ∧
        targets.length = framesFor (file.contentAfter frames data).length storage.frameSize) ∧
      ∃ transport active cache,
        cache.Keeps storage.config.cacheFrames (fun location frame =>
          ((storage.table.owner? location).isSome = true ∨ location ∈ claimed) ∧
            frame.length = storage.frameSize) ∧
        next = { storage with
          transport
          active
          cache := some cache
          table := (storage.table.releaseEach file.frames).claimEach handle claimed } := by
  obtain ⟨cache, held⟩ := sound.cache_of_on starts.on
  have length := (sound.length_contentAfter starts.on starts.present read data).2
  obtain ⟨_, values, transport, active, rfl⟩ := readFrames_ok held (sound.cached cache held)
    (sound.mayCache starts.present fun location member => member) read
  obtain ⟨shape, _, owners⟩ := @Ownership.releaseEach_spec storage.table file.frames
  have valid := sound.valid_releaseEach file.frames
  obtain ⟨found, prefixed, written, lastTransport, lastActive, part, covered, whole, rfl⟩ :=
    placeContent_spec (by exact sound.positive) placed
  refine ⟨length, ?_, ?_, prefixed, ?_, lastTransport, lastActive, _, ?_, rfl⟩
  · rw [found]
    exact Ownership.firstFree_pairwise valid _
  · intro location member
    rw [found] at member
    have free := Ownership.mem_firstFree valid member
    rw [shape, sound.shape] at free
    exact free
  · intro success
    obtain ⟨many, _, all⟩ := whole success
    exact ⟨all, many⟩
  · refine (((sound.cached cache held).readThroughAll values).imp ?_).putAll ?_
    · exact fun location frame _ both => ⟨Or.inl both.1, both.2⟩
    · intro piece member
      have claimedToo := covered.subset (List.mem_map_of_mem member)
      have block := (List.of_mem_zip (part.subset member)).2
      exact ⟨Or.inr claimedToo, length_of_mem_blocks block⟩

theorem write_run (sound : storage.Sound) (handle : Handle) (data : Bytes) :
    WriteRun handle data storage (Storage.write handle data storage) :=
  Storage.write_run handle data storage fun file present location member =>
    (sound.books.laid handle file present).inside location member

theorem write (sound : storage.Sound) (handle : Handle) (data : Bytes) :
    ((write handle data).after storage).Sound := by
  have ending := sound.write_run handle data
  unfold Operation.after
  generalize Storage.write handle data storage = result at ending
  cases ending with
  | off off => exact sound
  | invalid on absent => exact sound
  | nothing on present empty => exact sound
  | full on present some grows few => exact sound
  | unread starts run =>
    obtain ⟨cache, held⟩ := sound.cache_of_on starts.on
    obtain ⟨transport, active, after, keeps, rfl⟩ := readFrames_error held (sound.cached cache held)
      (sound.mayCache starts.present fun location member => member) run
    exact sound.carried starts.on transport active keeps
  | unstored starts run placed =>
    rename_i file frames middle targets claimed fault next
    obtain ⟨_, _, free, prefixed, _, transport, active, cache, keeps, rfl⟩ :=
      sound.rewritten starts run placed
    have undone := Ownership.restored sound.tableValid sound.books.within
      (fun location member => sound.books.owner_eq starts.present member)
      fun location member => (free location (prefixed.subset member)).2
    simp only [undone, Option.map_some]
    refine sound.carried starts.on transport active (keeps.invalidateAll.imp ?_)
    rintro location frame _ ⟨kept, owned | new, full⟩
    · exact ⟨owned, full⟩
    · exact absurd (List.mem_append_left _ new) kept
  | stored starts run placed =>
    rename_i file frames middle targets claimed next
    obtain ⟨length, ordered, free, prefixed, whole, transport, active, cache, keeps, rfl⟩ :=
      sound.rewritten starts run placed
    obtain ⟨rfl, count⟩ := whole rfl
    obtain ⟨shape, within, owners⟩ := @Ownership.exchanged storage.table handle file.frames claimed
      fun location member => ⟨by rw [sound.shape]; exact (free location member).1,
        (free location member).2⟩
    have laid : OpenFile.Laid { file with
        frames := claimed
        length := (file.contentAfter frames data).length
        position := file.position + data.length } storage.table.geometry := by
      rw [sound.shape]
      refine ⟨?_, count, fun location member => (free location member).1, ordered⟩
      rw [length]
      exact Nat.le_max_right _ _
    refine ⟨sound.valid, sound.sized, shape.trans sound.shape, ?_, starts.on, ?_,
      fun off => Bool.noConfusion (starts.on.symm.trans off)⟩
    · refine sound.books.replaced starts.present rfl laid shape (within sound.books.within) owners ?_
      intro location member
      have unowned := (free location member).2
      rw [(@Ownership.releaseEach_spec storage.table file.frames).2.2] at unowned
      by_cases mine : location ∈ file.frames
      · exact Or.inl mine
      · rw [if_neg mine] at unowned
        exact Or.inr unowned
    · rintro _ ⟨⟩
      refine keeps.invalidateAll.imp ?_
      rintro location frame _ ⟨kept, owned, full⟩
      refine ⟨?_, full⟩
      simp only [owners]
      by_cases new : location ∈ claimed
      · rw [if_pos new]
        rfl
      · -- what the file has given up is not cached any more
        have notOld : location ∉ file.frames := by
          intro old
          refine kept ?_
          rw [givenUp_eq_filter]
          exact List.mem_filter.mpr ⟨old, by simpa using new⟩
        rw [if_neg new, if_neg notOld]
        exact owned.resolve_right new

end Sound

variable [Transport σ] {starts : Config → σ → Prop} {meddles : σ → σ → Prop} {storage : Storage σ}

theorem Sound.respond (sound : storage.Sound) (call : Call) : (respond call storage).2.Sound :=
  respond_keeps Sound sound sound.powerOn sound.powerOff sound.openFile sound.closeFile sound.read
    sound.write sound.seek sound.setCacheFrames call

/-- Whatever the transport answers, and whatever happens to it between calls, each call leaves the
storage sound. -/
theorem Reached.sound (reached : Reached starts meddles storage) : storage.Sound := by
  induction reached with
  | created _ made => exact Sound.created made
  | called call _ sound => exact sound.respond call
  | meddled _ _ sound => exact sound.relayed _

/-- The files, the table of owners, the cache and the power switch agree in every state between
calls. -/
theorem Reached.consistent
    (reached : Reached (fun _ _ => True) (fun _ _ => True) storage) :
    (∀ handle file, storage.files.get? handle = some file →
      file.position ≤ file.length ∧
        file.frames.length = framesFor file.length storage.frameSize ∧
        file.frames.Pairwise FrameLocation.Precedes ∧
        ∀ location ∈ file.frames, storage.config.geometry.contains location = true ∧
          storage.table.owner? location = some handle) ∧
      (∀ location handle, storage.table.owner? location = some handle →
        ∃ file, storage.files.get? handle = some file ∧ location ∈ file.frames ∧
          ∀ other second, storage.files.get? other = some second →
            location ∈ second.frames → other = handle) ∧
      (storage.openFiles.flatMap (·.frames)).Nodup ∧
      storage.table.used = (storage.openFiles.map (·.frames.length)).sum ∧
      storage.table.free + storage.table.used = storage.config.geometry.totalFrames ∧
      (∀ cache, storage.cache = some cache →
        cache.capacity = storage.config.cacheFrames ∧
          ∀ entry ∈ cache.entries, (storage.table.owner? entry.location).isSome = true ∧
            entry.frame.length = storage.frameSize) ∧
      (storage.poweredOn = true ↔ storage.cache.isSome = true) ∧
      (storage.poweredOn = false →
        storage.files = {} ∧ storage.table = Ownership.ofGeometry storage.config.geometry ∧
          storage.active = none) := by
  have sound := reached.sound
  have books := sound.books
  refine ⟨fun handle file present => ?_, fun location handle isOwner => ?_, books.frames_nodup,
    books.used_eq_sum sound.tableValid, ?_, fun cache held => ?_, by rw [sound.power], sound.off⟩
  · have laid := sound.laid present
    exact ⟨laid.cursor, laid.count, laid.ordered, fun location member =>
      ⟨laid.inside location member, books.owner_eq present member⟩⟩
  · obtain ⟨file, present, member⟩ := (books.owned location handle).mp isOwner
    refine ⟨file, present, member, fun other second found inside => ?_⟩
    exact Option.some.inj ((books.owner_eq found inside).symm.trans isOwner)
  · have total : storage.table.total = storage.config.geometry.totalFrames := by
      rw [Ownership.total, sound.shape]
    exact (Ownership.free_add_used books.within).trans total
  · have keeps := sound.cached cache held
    exact ⟨keeps.capacity_eq,
      (FrameCache.forall_entries_iff keeps.distinct).mpr keeps.frames⟩

/-- Two cartridges of two frames of four bytes, after some calls. -/
def twoByTwo (faults : Countdowns) (calls : List Call) : Storage Device :=
  (respondAll calls {
    config := { geometry := ⟨2, 2, 4⟩, cacheFrames := 2 }
    transport := { geometry := ⟨2, 2, 4⟩, faults }
    table := Ownership.ofGeometry ⟨2, 2, 4⟩ }).2

theorem twoByTwo_reached {starts : Config → Device → Prop} {meddles : Device → Device → Prop}
    {faults : Countdowns} (start : starts { geometry := ⟨2, 2, 4⟩, cacheFrames := 2 }
      { geometry := ⟨2, 2, 4⟩, faults }) (calls : List Call) :
    Reached starts meddles (twoByTwo faults calls) :=
  Reached.all (.created start (create_eq_ok_iff.mpr ⟨rfl, rfl⟩)) calls

/-- Five bytes lie in two frames of the four. -/
theorem Reached.consistent_two_frames :
    (twoByTwo {} [.powerOn, .openFile "a", .write ⟨0⟩ [1, 2, 3, 4, 5]]).table.used = 2 ∧
      (twoByTwo {} [.powerOn, .openFile "a", .write ⟨0⟩ [1, 2, 3, 4, 5]]).table.free + 2 = 4 := by
  have reached := @twoByTwo_reached (fun _ _ => True) (fun _ _ => True) {} trivial
    [.powerOn, .openFile "a", .write ⟨0⟩ [1, 2, 3, 4, 5]]
  obtain ⟨_, _, _, used, total, _⟩ := reached.consistent
  have lengths : ((twoByTwo {} [.powerOn, .openFile "a", .write ⟨0⟩ [1, 2, 3, 4, 5]]).openFiles.map
      (·.frames.length)).sum = 2 := by cbv
  have frames : (twoByTwo {} [.powerOn, .openFile "a",
      .write ⟨0⟩ [1, 2, 3, 4, 5]]).config.geometry.totalFrames = 4 := by cbv
  rw [lengths] at used
  rw [used, frames] at total
  exact ⟨used, total⟩

end Storage

end CartridgeBank
