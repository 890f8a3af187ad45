import CartridgeBank.Proofs.FirstFit
import CartridgeBank.Proofs.GuardedRead

namespace CartridgeBank

/-- As long as a frame is free, it is counted as such. -/
theorem Ownership.Within.free_pos_of_claim {table after : Ownership} {location : FrameLocation}
    {handle : Handle} (within : table.Within)
    (claimed : table.claim location handle = .ok after) : 0 < table.free := by
  obtain ⟨_, inside, unowned, _⟩ := claim_ok claimed
  have found := Geometry.index?_of_contains inside
  rw [owner?_of_index? found] at unowned
  exact within.free_pos (Geometry.index?_lt_totalFrames found) unowned

namespace Guarded

variable {σ : Type} {storage : Storage σ} {handle : Handle}

theorem claim_apply {location : FrameLocation} {table : Ownership} (within : storage.table.Within)
    (claimed : storage.table.claim location handle = .ok table) :
    claim handle location storage = .ok () { storage with table } := by
  simp only [claim, Operation.bind_apply, Operation.get_apply, claimed, agreed_ok,
    Checked.sub_ok (within.free_pos_of_claim claimed), grant_ok, Operation.modify_apply]

theorem release_apply {location : FrameLocation} {owner : Handle} {table : Ownership}
    (released : storage.table.release location = .ok (some owner, table)) :
    release location storage = .ok () { storage with table } := by
  simp only [release, Operation.bind_apply, Operation.get_apply, released, agreed_ok,
    insist_true Option.isSome_some, Operation.modify_apply]

/-- A guarded loop does what the plain one does, if each step does as long as something holds of the
items that are left, and keeps it. -/
theorem forM_plain {α : Type} {step : α → Operation σ PUnit} {guarded : α → Guarded σ PUnit}
    (keeps : List α → Storage σ → Prop)
    (each : ∀ item rest storage, keeps (item :: rest) storage →
      ∃ next, step item storage = .ok () next ∧ guarded item storage = .ok () next ∧ keeps rest next)
    (items : List α) (start : keeps items storage) :
    items.forM guarded storage = plain (items.forM step) storage := by
  induction items generalizing storage with
  | nil => rfl
  | cons item rest ih =>
    obtain ⟨next, run, guardedRun, kept⟩ := each item rest storage start
    rw [plain, Operation.forM_cons_apply, Operation.forM_cons_apply, run, guardedRun]
    exact ih kept

/-- Frames that have owners are given back one after the other. -/
theorem forM_release {locations : List FrameLocation} (distinct : locations.Nodup)
    (owned : ∀ location ∈ locations, (storage.table.owner? location).isSome = true) :
    locations.forM release storage = plain (locations.forM Storage.release) storage := by
  refine forM_plain (fun left storage => left.Nodup ∧
    ∀ location ∈ left, (storage.table.owner? location).isSome = true) ?_ locations ⟨distinct, owned⟩
  rintro location rest storage ⟨distinct, owned⟩
  obtain ⟨owner, after, released, ownedRest⟩ := Ownership.release_next distinct owned
  refine ⟨{ storage with table := after }, ?_, release_apply released,
    (List.nodup_cons.mp distinct).2, ownedRest⟩
  rw [Storage.release_eq, released]

theorem forM_giveBack {claimed : List FrameLocation} (distinct : claimed.Nodup)
    (owned : ∀ location ∈ claimed, (storage.table.owner? location).isSome = true) :
    (claimed.forM fun location => do
      release location
      plain (Storage.invalidate location)) storage =
        plain (claimed.forM fun location => do
          Storage.ignoring (Storage.release location)
          Storage.invalidate location) storage := by
  refine forM_plain (fun left storage => left.Nodup ∧
    ∀ location ∈ left, (storage.table.owner? location).isSome = true) ?_ claimed ⟨distinct, owned⟩
  rintro location rest storage ⟨distinct, owned⟩
  obtain ⟨owner, after, released, ownedRest⟩ := Ownership.release_next distinct owned
  refine ⟨{ storage with
    table := after, cache := storage.cache.map (·.invalidateAll [location]) }, ?_, ?_,
    (List.nodup_cons.mp distinct).2, ownedRest⟩
  · simp only [Operation.bind_apply, Storage.ignoring_release, Storage.invalidate_apply,
      Ownership.releaseEach_cons, Ownership.releaseEach_nil, released, Except.toOption,
      Option.map_some, Option.getD_some]
  · simp only [Operation.bind_apply, release_apply released, plain, Storage.invalidate_apply]

theorem forM_takeBack {old : List FrameLocation} (distinct : old.Nodup)
    (free : ∀ location ∈ old, storage.table.geometry.contains location = true ∧
      storage.table.owner? location = none) (within : storage.table.Within) :
    (old.forM fun location => do
      claim handle location
      plain (Storage.invalidate location)) storage =
        plain (old.forM fun location => do
          Storage.ignoring (Storage.claim handle location)
          Storage.invalidate location) storage := by
  refine forM_plain (fun left storage => left.Nodup ∧
    (∀ location ∈ left, storage.table.geometry.contains location = true ∧
      storage.table.owner? location = none) ∧ storage.table.Within) ?_ old ⟨distinct, free, within⟩
  rintro location rest storage ⟨distinct, free, within⟩
  obtain ⟨after, claimed, freeRest⟩ := Ownership.claim_next handle distinct free
  refine ⟨{ storage with
    table := after, cache := storage.cache.map (·.invalidateAll [location]) }, ?_, ?_,
    (List.nodup_cons.mp distinct).2, freeRest, within.claim claimed⟩
  · simp only [Operation.bind_apply, Storage.ignoring_claim, Storage.invalidate_apply,
      Ownership.claimEach_cons, Ownership.claimEach_nil, claimed, Except.toOption, Option.getD_some]
  · simp only [Operation.bind_apply, claim_apply within claimed, plain, Storage.invalidate_apply]

/-- Undoing a write that failed meets with no frame that cannot be given back or taken back. -/
theorem rollBack_eq {claimed old : List FrameLocation} (claimedDistinct : claimed.Nodup)
    (owned : ∀ location ∈ claimed, (storage.table.owner? location).isSome = true)
    (within : storage.table.Within) (oldDistinct : old.Nodup)
    (free : ∀ location ∈ old, storage.table.geometry.contains location = true ∧
      (storage.table.releaseEach claimed).owner? location = none) :
    rollBack handle claimed old storage = plain (Storage.rollBack handle claimed old) storage := by
  obtain ⟨shape, keepsWithin, _⟩ := @Ownership.releaseEach_spec storage.table claimed
  unfold rollBack Storage.rollBack
  rw [Operation.bind_apply, forM_giveBack claimedDistinct owned, plain, plain, Operation.bind_apply,
    Storage.forM_giveBack]
  refine (forM_takeBack oldDistinct (fun location member => ?_) (keepsWithin within)).trans rfl
  obtain ⟨inside, unowned⟩ := free location member
  exact ⟨shape ▸ inside, unowned⟩

section Checks

variable {data : Bytes} {file : OpenFile}

theorem ensureRoom_eq (positive : 0 < storage.frameSize) (file : OpenFile) (added : Nat) :
    ensureRoom file added (max file.length (file.position + added)) storage =
      plain (Storage.ensureRoom file added) storage := by
  have grows : file.length < max file.length (file.position + added) ↔
      file.length < file.position + added := by omega
  simp only [ensureRoom, Storage.ensureRoom, grows]
  by_cases grown : file.length < file.position + added
  · by_cases full : storage.table.free < framesFor (file.length + added) storage.frameSize <;>
      simp [plain, grown, full, Checked.frames_ok positive]
  · simp [plain, grown]

/-- All the frames that a write needs lie on the bank. -/
theorem needed_le (sound : storage.Sound) (starts : storage.Starts handle data file) :
    framesFor (max file.length (file.position + data.length)) storage.frameSize *
      storage.frameSize ≤ storage.config.geometry.totalBytes := by
  obtain ⟨shape, within, _⟩ := @Ownership.releaseEach_spec storage.table file.frames
  have counted := (within sound.books.within).counted
  rw [Ownership.total, shape, sound.shape] at counted
  exact Nat.mul_le_mul_right _ (Nat.le_trans (sound.room starts) (by omega))

/-- The content read back, with the data put in. -/
theorem overwrite_content {frames : List Bytes} (data : Bytes)
    (cursor : file.position ≤ file.length) (enough : file.length ≤ frames.flatten.length) :
    Checked.overwrite
        (resize (resize frames.flatten file.length) (max file.length (file.position + data.length)))
        file.position (file.position + data.length) data =
      .ok (file.contentAfter frames data) := by
  have whole : resize frames.flatten file.length = frames.flatten.take file.length := by
    rw [resize, Nat.sub_eq_zero_of_le enough, List.replicate_zero, List.append_nil]
  have length : (frames.flatten.take file.length).length = file.length := by
    rw [List.length_take, Nat.min_eq_left enough]
  have filled : resize (frames.flatten.take file.length)
      (max file.length (file.position + data.length)) = frames.flatten.take file.length ++
        List.replicate (file.position + data.length - file.length) 0 := by
    rw [resize, List.take_of_length_le (by omega), length]
    congr 2
    omega
  rw [whole, filled, Checked.overwrite_ok rfl (by
    rw [List.length_append, length, List.length_replicate]
    omega)]
  rw [OpenFile.contentAfter, Storage.splice, Storage.splice,
    List.take_append_of_le_length (by omega), List.drop_append, length]
  have zeros : (List.replicate (file.position + data.length - file.length) (0 : UInt8)).drop
      (file.position + data.length - file.length) = [] :=
    List.drop_of_length_le (by rw [List.length_replicate])
  rw [zeros, List.append_nil]

end Checks

variable [Transport σ]

theorem store_eq {pieces : List (FrameLocation × Bytes)} (distinct : (pieces.map Prod.fst).Nodup)
    (free : ∀ location ∈ pieces.map Prod.fst, storage.table.geometry.contains location = true ∧
      storage.table.owner? location = none) (within : storage.table.Within) :
    store handle pieces storage =
      .ok ((Storage.store handle pieces storage).1, (Storage.store handle pieces storage).2.1)
        (Storage.store handle pieces storage).2.2 := by
  induction pieces generalizing storage with
  | nil => rfl
  | cons piece rest ih =>
    obtain ⟨location, frame⟩ := piece
    obtain ⟨table, claimed, freeRest⟩ := Ownership.claim_next handle distinct free
    unfold store Storage.store
    rw [Operation.bind_apply, claim_apply within claimed, Storage.claim_eq, claimed]
    simp only [Operation.bind_apply, attempt]
    cases written : Storage.writeFrame location frame { storage with table } with
    | error fault next => rfl
    | ok done next =>
      obtain ⟨transport, rfl⟩ := Storage.writeFrame_ok written
      simp only [Operation.bind_apply]
      rw [ih (List.nodup_cons.mp distinct).2 freeRest (within.claim claimed)]
      rfl

/-- As long as enough frames are free, content is cut into as many pieces as it finds frames. -/
theorem placeContent_eq {content : Bytes} (positive : 0 < storage.frameSize)
    (valid : storage.table.geometry.Valid) (within : storage.table.Within)
    (room : framesFor content.length storage.frameSize ≤ storage.table.free) :
    placeContent handle content (framesFor content.length storage.frameSize) storage =
      plain (Storage.placeContent handle content) storage := by
  have found := Ownership.length_firstFree valid within
    (framesFor content.length storage.frameSize)
  rw [Nat.min_eq_left room] at found
  have cut := length_chunks positive content
  have locations : ((storage.table.firstFree (framesFor content.length storage.frameSize)).zip
      ((chunks content storage.frameSize).map (padFrame · storage.frameSize))).map Prod.fst = _ :=
    Storage.firstFree_zip_blocks positive storage.table content
  have distinct := Ownership.firstFree_nodup valid (framesFor content.length storage.frameSize)
  rw [← locations] at distinct
  have stored := @store_eq _ storage handle _ _ distinct
    (by rw [locations]; exact fun location => Ownership.mem_firstFree valid) within
  simp only [placeContent, Operation.bind_apply, Operation.get_apply, found,
    insist_true (Nat.le_refl _), insist_true cut, stored, Operation.pure_apply, plain,
    Storage.placeContent, Nat.lt_irrefl, if_false]

variable {data : Bytes} {file : OpenFile}

/-- What a write has claimed it can give back, and what it has given up it can take back then. -/
theorem rollBack_rewritten (sound : storage.Sound) (starts : storage.Starts handle data file)
    {frames : List Bytes} {middle last : Storage σ} {targets claimed : List FrameLocation}
    {result : Except Fault Unit}
    (read : Storage.readFrames file.frames storage = .ok frames middle)
    (placed : Storage.placeContent handle (file.contentAfter frames data)
      { middle with table := middle.table.releaseEach file.frames } =
        .ok (targets, claimed, result) last) :
    rollBack handle claimed file.frames last =
      plain (Storage.rollBack handle claimed file.frames) last := by
  have laid := sound.books.laid handle file starts.present
  obtain ⟨_, ordered, free, prefixed, _, transport, active, cache, _, rfl⟩ :=
    sound.rewritten starts read placed
  obtain ⟨shape₁, within₁, owners₁⟩ := @Ownership.releaseEach_spec storage.table file.frames
  obtain ⟨shape₂, within₂, owners₂⟩ :=
    @Ownership.claimEach_spec (storage.table.releaseEach file.frames) handle claimed
  obtain ⟨_, _, owners₃⟩ := @Ownership.releaseEach_spec
    ((storage.table.releaseEach file.frames).claimEach handle claimed) claimed
  refine rollBack_eq ((ordered.imp FrameLocation.Precedes.ne).sublist prefixed.sublist)
    (fun location member => ?_) (within₂ (within₁ sound.books.within))
    (laid.ordered.imp FrameLocation.Precedes.ne) fun location member => ⟨?_, ?_⟩
  · obtain ⟨inside, unowned⟩ := free location (prefixed.subset member)
    rw [owners₂, if_pos ⟨member, by rw [shape₁, sound.shape]; exact inside, unowned⟩]
    rfl
  · rw [shape₂, shape₁]
    exact laid.inside location member
  · rw [owners₃, owners₂]
    by_cases again : location ∈ claimed
    · rw [if_pos again]
    · rw [if_neg again, if_neg fun both => again both.1, owners₁, if_pos member]

/-- Once a file has given up its frames, its new content finds enough others. -/
theorem placeContent_given_up (sound : storage.Sound) (starts : storage.Starts handle data file)
    {frames : List Bytes} {middle : Storage σ}
    (read : Storage.readFrames file.frames storage = .ok frames middle) :
    placeContent handle (file.contentAfter frames data)
        (framesFor (file.contentAfter frames data).length storage.frameSize)
        { middle with table := middle.table.releaseEach file.frames } =
      plain (Storage.placeContent handle (file.contentAfter frames data))
        { middle with table := middle.table.releaseEach file.frames } := by
  obtain ⟨_, length⟩ := sound.length_contentAfter starts.on starts.present read data
  obtain ⟨transport, active, cache, rfl⟩ := Storage.readFrames_leaves read
  have room := sound.room starts
  rw [← length] at room
  exact @placeContent_eq σ { storage with
    transport, active, cache, table := storage.table.releaseEach file.frames } handle _ _
    sound.positive (sound.valid_releaseEach file.frames)
    ((Ownership.releaseEach_spec file.frames).2.1 sound.books.within) room

/-- What comes behind the checks of a write goes as far as the requests do. -/
theorem rewrite_eq (sound : storage.Sound) (starts : storage.Starts handle data file) :
    rewrite handle file data (file.position + data.length)
        (max file.length (file.position + data.length))
        (framesFor (max file.length (file.position + data.length)) storage.frameSize) storage =
      plain (Storage.write handle data) storage := by
  have laid := sound.books.laid handle file starts.present
  have distinct : file.frames.Nodup := laid.ordered.imp FrameLocation.Precedes.ne
  rw [plain, starts.write_eq laid.inside, rewrite, Operation.bind_apply]
  cases read : Storage.readFrames file.frames storage with
  | error fault next => rw [plain_error read]
  | ok frames middle =>
    obtain ⟨enough, length⟩ := sound.length_contentAfter starts.on starts.present read data
    obtain ⟨transport, active, cache, rfl⟩ := Storage.readFrames_leaves read
    have released := (@forM_release σ { storage with transport, active, cache } _ distinct
      fun location => sound.owned starts.present).trans (plain_ok (Storage.forM_release laid.inside))
    obtain ⟨targets, claimed, result, last, placed⟩ := Storage.placeContent_total handle
      (file.contentAfter frames data) { storage with
        transport, active, cache, table := storage.table.releaseEach file.frames }
    have placing := (placeContent_given_up sound starts read).trans (plain_ok placed)
    rw [plain_ok read]
    simp only [Operation.bind_apply, overwrite_content data laid.cursor enough, grant_ok, released]
    rw [← length]
    cases result with
    | error fault =>
      have undone := (rollBack_rewritten sound starts read placed).trans
        (plain_ok (Storage.rollBack_eq handle claimed file.frames))
      simp only [placing, placed, Operation.bind_apply, undone, Operation.throw_apply]
    | ok stored =>
      obtain ⟨_, _, _, _, _, transport, active, cache, _, rfl⟩ := sound.rewritten starts read placed
      simp only [placing, placed, Operation.bind_apply, plain, Storage.forM_invalidate,
        Operation.get_apply, Registry.get_of_get? starts.present, agreed_ok,
        Operation.modify_apply, Operation.pure_apply]

/-- A write that finds the file and the room comes to what is behind its checks. -/
theorem write_starts (sound : storage.Sound) (starts : storage.Starts handle data file)
    (fits : file.position + data.length < 2 ^ 64) :
    write handle data storage = plain (Storage.write handle data) storage := by
  have capacity := Nat.le_trans (needed_le sound starts) sound.valid.totalBytes_le
  have room : ¬(file.length < file.position + data.length ∧
      storage.table.free < framesFor (file.length + data.length) storage.frameSize) :=
    fun full => Nat.not_lt.mpr (starts.room full.1) full.2
  have passed := (ensureRoom_eq sound.positive file data.length).trans
    (plain_ok ((Storage.ensureRoom_eq file data.length).trans (if_neg room)))
  simp only [write, Operation.bind_apply, plain_ok (Storage.ensurePowered_on starts.on),
    Operation.get_apply, Registry.get_of_get? starts.present, plain_require_ok,
    if_neg starts.nonempty, Checked.add_ok fits, Checked.frames_ok sound.positive, grant_ok, passed,
    Checked.mul_ok (Nat.lt_of_le_of_lt capacity (by decide)), rewrite_eq sound starts]

theorem write_eq (sound : storage.Sound)
    (fits : ∀ file, storage.files.get? handle = some file → file.position + data.length < 2 ^ 64) :
    write handle data storage = plain (Storage.write handle data) storage := by
  have ending := sound.write_run handle data
  generalize run : Storage.write handle data storage = result at ending
  cases ending with
  | off off =>
    simp only [write, plain, Operation.bind_apply, run, Storage.ensurePowered_off off]
  | invalid on absent =>
    simp only [write, plain, Operation.bind_apply, run, Storage.ensurePowered_on on,
      Operation.get_apply, Registry.get_error absent, Storage.require_error]
  | nothing on present empty =>
    simp only [write, plain, Operation.bind_apply, run, Storage.ensurePowered_on on,
      Operation.get_apply, Registry.get_of_get? present, Storage.require_ok, if_pos empty,
      Operation.pure_apply]
  | @full file on present nonempty grows few =>
    have refused := (ensureRoom_eq sound.positive file data.length).trans
      (plain_error ((Storage.ensureRoom_eq file data.length).trans (if_pos ⟨grows, few⟩)))
    simp only [write, Operation.bind_apply, plain_ok (Storage.ensurePowered_on on),
      Operation.get_apply, Registry.get_of_get? present, plain_require_ok, if_neg nonempty,
      Checked.add_ok (fits file present), Checked.frames_ok sound.positive, grant_ok, refused,
      plain_error run]
  | unread starts => exact write_starts sound starts (fits _ starts.present)
  | unstored starts => exact write_starts sound starts (fits _ starts.present)
  | stored starts => exact write_starts sound starts (fits _ starts.present)

end Guarded

end CartridgeBank
