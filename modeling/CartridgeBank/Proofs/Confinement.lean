import CartridgeBank.Proofs.Aim
import CartridgeBank.Proofs.StoredFrames

namespace CartridgeBank

/-- The open file that a call is about, if it is about one. -/
def Call.subject? : Call → Option Handle
  | .closeFile handle | .read handle _ | .readToEnd handle | .write handle _ | .seek handle _
  | .info handle => some handle
  | .powerOn | .powerOff | .openFile _ | .lookup _ | .openFiles | .stats | .setCacheFrames _ => none

namespace Storage

section Others

variable {σ : Type} [Transport σ] {storage : Storage σ} {handle other : Handle} {file : OpenFile}

theorem read_others (wanted : Nat) (different : other ≠ handle)
    (present : storage.files.get? other = some file) :
    ((read handle wanted).after storage).files.get? other = some file := by
  have ending := read_run handle wanted storage
  unfold Operation.after
  generalize Storage.read handle wanted storage = result at ending
  cases ending with
  | off off => exact present
  | invalid on absent => exact present
  | nothing on found none => exact present
  | atEnd on found some ended => exact present
  | unread on found some more run =>
    obtain ⟨transport, active, cache, rfl⟩ := readFrames_leaves_error run
    exact present
  | done on found some more run =>
    obtain ⟨transport, active, cache, rfl⟩ := readFrames_leaves run
    dsimp only
    rw [Registry.get?_update found, if_neg different]
    exact present

theorem write_others (sound : storage.Sound) (data : Bytes) (different : other ≠ handle)
    (present : storage.files.get? other = some file) :
    ((write handle data).after storage).files.get? other = some file := by
  have ending := sound.write_run handle data
  unfold Operation.after
  generalize Storage.write handle data storage = result at ending
  cases ending with
  | off off => exact present
  | invalid on absent => exact present
  | nothing on found empty => exact present
  | full on found some grows few => exact present
  | unread starts run =>
    obtain ⟨transport, active, cache, rfl⟩ := readFrames_leaves_error run
    exact present
  | unstored starts run placed =>
    obtain ⟨_, _, _, _, _, transport, active, cache, _, rfl⟩ := sound.rewritten starts run placed
    exact present
  | stored starts run placed =>
    obtain ⟨_, _, _, _, _, transport, active, cache, _, rfl⟩ := sound.rewritten starts run placed
    dsimp only
    rw [Registry.get?_update starts.present, if_neg different]
    exact present

/-- During a session, a call changes no open file but the one that it is about. -/
theorem Sound.respond_others (sound : storage.Sound) {call : Call}
    (session : call ≠ .powerOn ∧ call ≠ .powerOff) (apart : call.subject? ≠ some other)
    (present : storage.files.get? other = some file) :
    (Storage.respond call storage).2.files.get? other = some file := by
  have different {handle : Handle} (about : call.subject? = some handle) : other ≠ handle := by
    rintro rfl
    exact apart about
  have discarding {α : Type} (operation : Operation σ α) (function : α → Reply)
      (kept : (operation.after storage).files.get? other = some file) :
      ((do return function (← operation) : Operation σ Reply).after storage).files.get? other =
        some file := by
    rwa [Operation.after_bind_pure]
  rw [respond_snd]
  cases call with
  | powerOn => exact absurd rfl session.1
  | powerOff => exact absurd rfl session.2
  | openFile name =>
    refine discarding _ _ ?_
    unfold Operation.after
    rw [openFile_eq]
    by_cases on : storage.poweredOn = true
    · rw [if_pos on]
      cases opened : storage.files.insert name with
      | error fault => exact present
      | ok pair =>
        obtain ⟨_, _, _, vacant, found, _⟩ := Registry.insert_ok opened
        have old : other ≠ pair.1 := by
          rintro rfl
          cases vacant.symm.trans present
        exact (found other).trans ((if_neg old).trans present)
    · rw [if_neg on]
      exact present
  | closeFile handle =>
    refine discarding _ _ ?_
    unfold Operation.after
    rw [closeFile_eq]
    by_cases on : storage.poweredOn = true
    · rw [if_pos on]
      cases closed : storage.files.erase handle with
      | error fault => exact present
      | ok pair =>
        obtain ⟨_, found, _⟩ := Registry.erase_ok closed
        exact (found other).trans ((if_neg (different rfl)).trans present)
    · rw [if_neg on]
      exact present
  | read handle wanted => exact discarding _ _ (read_others wanted (different rfl) present)
  | readToEnd handle =>
    refine discarding _ _ ?_
    rcases readToEnd_after handle storage with same | ⟨wanted, same⟩
    · rwa [same]
    · rw [same]
      exact read_others wanted (different rfl) present
  | write handle data => exact discarding _ _ (write_others sound data (different rfl) present)
  | seek handle offset =>
    refine discarding _ _ ?_
    unfold Operation.after
    rw [seek_eq]
    by_cases on : storage.poweredOn = true
    · rw [if_pos on]
      cases found : storage.files.get? handle with
      | none => exact present
      | some sought =>
        by_cases beyond : sought.length < offset
        · simp only [if_pos beyond]
          exact present
        · simp only [if_neg beyond]
          exact (Registry.get?_update found).trans ((if_neg (different rfl)).trans present)
    · rw [if_neg on]
      exact present
  | info handle =>
    refine discarding _ _ ?_
    rwa [info_after]
  | lookup name => exact present
  | openFiles => exact present
  | stats => exact present
  | setCacheFrames frames =>
    refine discarding _ _ ?_
    rcases @setCacheFrames_after _ storage frames with same | ⟨_, same⟩
    · rwa [same]
    · rwa [same]

end Others

/-- The pieces of a file's new content with their places: the first frames that are free or its own.
The file's frames hold `frames` before. -/
def placement {σ : Type} (storage : Storage σ) (file : OpenFile) (frames : List Bytes)
    (data : Bytes) : List (FrameLocation × Bytes) :=
  let content := file.contentAfter frames data
  ((storage.table.releaseEach file.frames).firstFree
    (framesFor content.length storage.frameSize)).zip (blocks content storage.frameSize)

namespace Sound

variable {σ : Type} {storage : Storage σ} {handle : Handle} {file : OpenFile}

theorem placement_fst (sound : storage.Sound) (file : OpenFile) (frames : List Bytes)
    (data : Bytes) :
    (storage.placement file frames data).map Prod.fst =
      (storage.table.releaseEach file.frames).firstFree
        (framesFor (file.contentAfter frames data).length storage.frameSize) :=
  firstFree_zip_blocks sound.positive _ _

theorem placement_nodup (sound : storage.Sound) (file : OpenFile) (frames : List Bytes)
    (data : Bytes) : ((storage.placement file frames data).map Prod.fst).Nodup := by
  rw [sound.placement_fst]
  exact Ownership.firstFree_nodup (sound.valid_releaseEach file.frames) _

/-- A write takes no frame of another file. -/
theorem owner_placement (sound : storage.Sound) (present : storage.files.get? handle = some file)
    {frames : List Bytes} {data : Bytes} {piece : FrameLocation × Bytes}
    (member : piece ∈ storage.placement file frames data) :
    storage.table.owner? piece.1 = none ∨ storage.table.owner? piece.1 = some handle := by
  have target := List.mem_map_of_mem (f := Prod.fst) member
  rw [sound.placement_fst] at target
  obtain ⟨_, unowned⟩ := Ownership.mem_firstFree (sound.valid_releaseEach file.frames) target
  rw [(Ownership.releaseEach_spec file.frames).2.2] at unowned
  by_cases mine : piece.1 ∈ file.frames
  · exact Or.inr (sound.books.owner_eq present mine)
  · rw [if_neg mine] at unowned
    exact Or.inl unowned

end Sound

variable {storage next : Storage (Recorded Unreliable)} {handle : Handle} {data : Bytes}

/-- However a write ends once it has read its old frames, it has stored the first pieces of its new
content, and all if it succeeds. -/
theorem rewrite_stores {file : OpenFile} {frames : List Bytes} {middle : Storage (Recorded Unreliable)}
    {targets claimed : List FrameLocation} {result : Except Fault Unit}
    (coherent : Coherent Recorded.device [] storage) (on : storage.cache.isSome = true)
    (read : readFrames file.frames storage = .ok frames middle)
    (placed : placeContent handle (file.contentAfter frames data)
      { middle with table := middle.table.releaseEach file.frames } =
        .ok (targets, claimed, result) next) :
    ∃ stored, stored <+: storage.placement file (file.frames.map storage.transport.device.content)
        data ∧ Stores stored storage.transport next.transport := by
  obtain ⟨⟨_, stays⟩, values⟩ := readFrames_relayed relays coherent on file.frames
  have reading := readFrames_stores file.frames storage
  obtain ⟨transport, active, cache, same⟩ := @readFrames_after _ storage _ file.frames
  rw [same] at reading stays
  obtain rfl := (Operation.after_of_ok read).symm.trans same
  obtain rfl := values frames _ read
  obtain ⟨rfl, ⟨_, rfl, rfl, rfl⟩ | ⟨_, stored⟩⟩ := placeContent_ok placed
  · exact ⟨[], List.nil_prefix, reading⟩
  · obtain ⟨pieces, part, _, stores⟩ := store_stores stays.inStep.framed stored
    exact ⟨pieces, part, reading.trans stores⟩

theorem write_stores (sound : storage.Sound) (coherent : Coherent Recorded.device [] storage)
    (handle : Handle) (data : Bytes) :
    ∃ stored, Stores stored storage.transport ((write handle data).after storage).transport ∧
      (stored = [] ∨ ∃ file, storage.files.get? handle = some file ∧
        stored <+: storage.placement file (file.frames.map storage.transport.device.content)
          data) := by
  have ending := sound.write_run handle data
  unfold Operation.after
  generalize Storage.write handle data storage = result at ending
  cases ending with
  | off off => exact ⟨[], .none _, Or.inl rfl⟩
  | invalid on absent => exact ⟨[], .none _, Or.inl rfl⟩
  | nothing on present empty => exact ⟨[], .none _, Or.inl rfl⟩
  | full on present some grows few => exact ⟨[], .none _, Or.inl rfl⟩
  | @unread file fault next starts run =>
    have stores := readFrames_stores file.frames storage
    rw [Operation.after_of_error run] at stores
    exact ⟨[], stores, Or.inl rfl⟩
  | @unstored file _ _ _ _ _ _ starts run placed =>
    have on : storage.cache.isSome = true := sound.power.symm.trans starts.on
    obtain ⟨stored, part, stores⟩ := rewrite_stores coherent on run placed
    exact ⟨stored, stores, Or.inr ⟨file, starts.present, part⟩⟩
  | @stored file _ _ _ _ _ starts run placed =>
    have on : storage.cache.isSome = true := sound.power.symm.trans starts.on
    obtain ⟨stored, part, stores⟩ := rewrite_stores coherent on run placed
    exact ⟨stored, stores, Or.inr ⟨file, starts.present, part⟩⟩

theorem read_stores (handle : Handle) (wanted : Nat) (storage : Storage (Recorded Unreliable)) :
    Stores [] storage.transport ((read handle wanted).after storage).transport := by
  have ending := read_run handle wanted storage
  unfold Operation.after
  generalize Storage.read handle wanted storage = result at ending
  cases ending with
  | off off => exact .none _
  | invalid on absent => exact .none _
  | nothing on present none => exact .none _
  | atEnd on present some ended => exact .none _
  | @unread file _ _ on present some more run =>
    have stores := readFrames_stores (covering file storage.frameSize (readable file wanted)) storage
    rwa [Operation.after_of_error run] at stores
  | @done file _ _ on present some more run =>
    have stores := readFrames_stores (covering file storage.frameSize (readable file wanted)) storage
    rwa [Operation.after_of_ok run] at stores

/-- During a session, a call other than a write stores nothing. -/
theorem respond_stores_none (storage : Storage (Recorded Unreliable)) {call : Call}
    (session : call ≠ .powerOn ∧ call ≠ .powerOff) (other : ∀ handle data, call ≠ .write handle data) :
    Stores [] storage.transport (respond call storage).2.transport := by
  have discarding {α : Type} (operation : Operation (Recorded Unreliable) α) (function : α → Reply)
      (stores : Stores [] storage.transport (operation.after storage).transport) :
      Stores [] storage.transport
        ((do return function (← operation) : Operation _ Reply).after storage).transport := by
    rwa [Operation.after_bind_pure]
  have silent {α : Type} (operation : Operation (Recorded Unreliable) α) (function : α → Reply)
      (same : (operation.after storage).transport = storage.transport) :
      Stores [] storage.transport
        ((do return function (← operation) : Operation _ Reply).after storage).transport :=
    discarding operation function (same.symm ▸ .none storage.transport)
  rw [respond_snd]
  cases call with
  | powerOn => exact absurd rfl session.1
  | powerOff => exact absurd rfl session.2
  | openFile name =>
    obtain ⟨files, same⟩ := @openFile_after _ storage name
    exact silent _ _ (by rw [same])
  | closeFile handle =>
    obtain ⟨files, table, locations, same⟩ := @closeFile_after _ storage handle
    exact silent _ _ (by rw [same])
  | read handle wanted => exact discarding _ _ (read_stores handle wanted storage)
  | readToEnd handle =>
    refine discarding _ _ ?_
    rcases readToEnd_after handle storage with same | ⟨wanted, same⟩
    · rw [same]
      exact .none _
    · rw [same]
      exact read_stores handle wanted storage
  | write handle data => exact absurd rfl (other handle data)
  | seek handle offset =>
    obtain ⟨files, same⟩ := @seek_after _ storage handle offset
    exact silent _ _ (by rw [same])
  | info handle => exact silent _ _ (congrArg Storage.transport (info_after handle))
  | lookup name => exact .none _
  | openFiles => exact .none _
  | stats => exact .none _
  | setCacheFrames frames =>
    rcases @setCacheFrames_after _ storage frames with same | ⟨_, same⟩
    · exact silent _ _ (by rw [same])
    · exact silent _ _ (by rw [same])

/-- During a session, only a write stores anything, and only pieces of the new content. -/
theorem respond_stores (sound : storage.Sound) (coherent : Coherent Recorded.device [] storage)
    {call : Call} (session : call ≠ .powerOn ∧ call ≠ .powerOff) :
    ∃ stored, Stores stored storage.transport (respond call storage).2.transport ∧
      (stored = [] ∨ ∃ handle data file, call = .write handle data ∧
        storage.files.get? handle = some file ∧
        stored <+: storage.placement file (file.frames.map storage.transport.device.content)
          data) := by
  by_cases writes : ∃ handle data, call = .write handle data
  · obtain ⟨handle, data, rfl⟩ := writes
    obtain ⟨stored, stores, placed⟩ := write_stores sound coherent handle data
    rw [respond_snd, perform, Operation.after_bind_pure]
    refine ⟨stored, stores, placed.imp_right ?_⟩
    rintro ⟨file, present, part⟩
    exact ⟨handle, data, file, rfl, present, part⟩
  · refine ⟨[], respond_stores_none storage session fun handle data same => ?_, Or.inl rfl⟩
    exact writes ⟨handle, data, same⟩

end Storage

/-- The frame that was stored last at a location is there, if each location is stored to only once. -/
theorem Device.content_storeAll_of_mem {device : Device} {pieces : List (FrameLocation × Bytes)}
    (distinct : (pieces.map Prod.fst).Nodup) {piece : FrameLocation × Bytes}
    (member : piece ∈ pieces) : (device.storeAll pieces).content piece.1 = piece.2 := by
  induction pieces generalizing device with
  | nil => cases member
  | cons first rest ih =>
    obtain ⟨apart, distinct⟩ := List.nodup_cons.mp distinct
    rw [storeAll, List.foldl_cons]
    rcases List.mem_cons.mp member with rfl | later
    · refine (content_storeAll_of_notMem apart).trans ?_
      rw [content_store, if_pos rfl]
    · exact ih distinct later

/-- A device of the configured geometry behind an unreliable connection, whatever it has been
through. -/
def Recorded.Fits (config : Config) (recorded : Recorded Unreliable) : Prop :=
  Unreliable.Fits config recorded.transport

namespace Storage

variable {storage : Storage (Recorded Unreliable)}

theorem Reached.recorded_coherent (reached : Reached Recorded.Fits Recorded.Retuned storage) :
    Coherent Recorded.device [] storage :=
  reached.coherent relays (fun _ _ fits => ⟨fits.1, fits.2.whole⟩) fun before after retuned => by
    obtain ⟨_, faults, same⟩ := retuned
    change after.transport.device.plain = before.transport.device.plain
    rw [same]
    rfl

/-- Whatever becomes of the single requests, the only frames that change on the device during a call
are those of a WRFRME that the device has carried out for a write. Each holds its piece of the new
content, and none belongs to another file. All other files stay as they are. -/
theorem Reached.confined (reached : Reached Recorded.Fits Recorded.Retuned storage) {call : Call}
    (session : call ≠ .powerOn ∧ call ≠ .powerOff) :
    ∃ sent, (respond call storage).2.transport.sent = storage.transport.sent ++ sent ∧
      (∀ location, location ∉ (sent.filterMap Sent.stored?).map Prod.fst →
        (respond call storage).2.transport.device.content location =
          storage.transport.device.content location) ∧
      (∀ piece ∈ sent.filterMap Sent.stored?,
        (respond call storage).2.transport.device.content piece.1 = piece.2 ∧
          ∃ handle data file, call = .write handle data ∧
            storage.files.get? handle = some file ∧
            piece ∈ storage.placement file
              (file.frames.map storage.transport.device.content) data ∧
            (storage.table.owner? piece.1 = none ∨
              storage.table.owner? piece.1 = some handle)) ∧
      ∀ other file, storage.files.get? other = some file → call.subject? ≠ some other →
        (respond call storage).2.files.get? other = some file ∧
          ∀ location ∈ file.frames, (respond call storage).2.transport.device.content location =
            storage.transport.device.content location := by
  have sound := reached.sound
  obtain ⟨stored, ⟨⟨sent, logged, rfl⟩, frames⟩, placed⟩ :=
    respond_stores sound reached.recorded_coherent session
  have others : ∀ location, location ∉ (sent.filterMap Sent.stored?).map Prod.fst →
      (respond call storage).2.transport.device.content location =
        storage.transport.device.content location := by
    intro location apart
    rw [frames.content]
    exact Device.content_storeAll_of_notMem apart
  refine ⟨sent, logged, others, fun piece member => ?_, fun other file present apart => ?_⟩
  · rcases placed with nothing | ⟨handle, data, file, rfl, present, part⟩
    · rw [nothing] at member
      cases member
    · have distinct := (sound.placement_nodup file
        (file.frames.map storage.transport.device.content) data).sublist (part.map Prod.fst).sublist
      refine ⟨?_, handle, data, file, rfl, present, part.subset member,
        sound.owner_placement present (part.subset member)⟩
      rw [frames.content]
      exact Device.content_storeAll_of_mem distinct member
  · refine ⟨sound.respond_others session apart present, fun location inside => ?_⟩
    refine others location fun touched => ?_
    obtain ⟨piece, member, rfl⟩ := List.mem_map.mp touched
    rcases placed with nothing | ⟨handle, data, own, rfl, found, part⟩
    · rw [nothing] at member
      cases member
    · -- what is stored lies in a frame that was free or belonged to the file that is written
      have owner := sound.books.owner_eq present inside
      rcases sound.owner_placement found (part.subset member) with free | mine
      · cases owner.symm.trans free
      · obtain rfl := Option.some.inj (owner.symm.trans mine)
        exact apart rfl

/-- Two files, over a connection that will lose the answer to the second WRFRME of the next write to the
first one. -/
def beforeLostAnswer : Storage (Recorded Unreliable) :=
  (respondAll [.powerOn, .openFile "a", .openFile "b", .write ⟨0⟩ [1, 2, 3, 4], .write ⟨1⟩ [5, 6]] {
    config := { geometry := ⟨2, 2, 4⟩, cacheFrames := 1 }
    transport := {
      transport := {
        device := { geometry := ⟨2, 2, 4⟩ }
        fates := List.replicate 11 .answered ++ [.lost .notConnected] } }
    table := Ownership.ofGeometry ⟨2, 2, 4⟩ }).2

theorem Reached.confined_lost_answer :
    (respond (.write ⟨0⟩ [7, 8, 9]) beforeLostAnswer).1 = .error .notConnected ∧
      (respond (.write ⟨0⟩ [7, 8, 9]) beforeLostAnswer).2.transport.device.content ⟨1, 0⟩ =
        [7, 8, 9, 0] ∧
      ∃ file, beforeLostAnswer.files.get? ⟨1⟩ = some file ∧
        (respond (.write ⟨0⟩ [7, 8, 9]) beforeLostAnswer).2.files.get? ⟨1⟩ = some file ∧
        ∀ location ∈ file.frames,
          (respond (.write ⟨0⟩ [7, 8, 9]) beforeLostAnswer).2.transport.device.content location =
            beforeLostAnswer.transport.device.content location := by
  have fits : Recorded.Fits { geometry := ⟨2, 2, 4⟩, cacheFrames := 1 } {
      transport := {
        device := { geometry := ⟨2, 2, 4⟩ }
        fates := List.replicate 11 .answered ++ [.lost .notConnected] } } :=
    ⟨rfl, .created _⟩
  have reached : Reached Recorded.Fits Recorded.Retuned beforeLostAnswer :=
    Reached.all (.created fits (create_eq_ok_iff.mpr ⟨rfl, rfl⟩)) _
  have failed : (respond (.write ⟨0⟩ [7, 8, 9]) beforeLostAnswer).1 = .error .notConnected := by cbv
  have stored : (respond (.write ⟨0⟩ [7, 8, 9]) beforeLostAnswer).2.transport.device.content ⟨1, 0⟩ =
      [7, 8, 9, 0] := by cbv
  have present : (beforeLostAnswer.files.get? ⟨1⟩).isSome = true := by cbv
  obtain ⟨file, present⟩ := Option.isSome_iff_exists.mp present
  obtain ⟨_, _, _, _, others⟩ := @Reached.confined _ reached (.write ⟨0⟩ [7, 8, 9]) ⟨by decide, by decide⟩
  exact ⟨failed, stored, file, present, others ⟨1⟩ file present (by decide)⟩

end Storage

end CartridgeBank
