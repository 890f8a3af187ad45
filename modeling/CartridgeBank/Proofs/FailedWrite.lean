import CartridgeBank.Proofs.Atomicity
import CartridgeBank.Proofs.Direct
import CartridgeBank.Proofs.Quiet

namespace CartridgeBank

/-- The bytes of a file as a device keeps them. -/
def OpenFile.bytesOn (file : OpenFile) (device : Device) : Bytes :=
  (file.frames.flatMap device.content).take file.length

/-- Frames that are stored elsewhere do not change the bytes of a file. -/
theorem OpenFile.bytesOn_storeAll {file : OpenFile} {device : Device}
    {pieces : List (FrameLocation × Bytes)} (apart : ∀ piece ∈ pieces, piece.1 ∉ file.frames) :
    file.bytesOn (device.storeAll pieces) = file.bytesOn device := by
  have same : ∀ location ∈ file.frames,
      (device.storeAll pieces).content location = device.content location := by
    intro location inside
    refine Device.content_storeAll_of_notMem fun touched => ?_
    obtain ⟨piece, member, rfl⟩ := List.mem_map.mp touched
    exact apart piece member inside
  simp only [bytesOn, List.flatMap_congr same]

theorem Device.SameFrames.bytesOn {before after : Device} (same : before.SameFrames after)
    (file : OpenFile) : file.bytesOn after = file.bytesOn before := by
  simp only [OpenFile.bytesOn, same.content]

namespace Storage

theorem Reached.settles {storage : Storage (Recorded Unreliable)}
    (reached : Reached Recorded.Fits Recorded.Retuned storage) : storage.Settled := by
  induction reached with
  | created fits made =>
    obtain ⟨_, rfl⟩ := create_eq_ok_iff.mp made
    exact ⟨⟨fits.1, fits.2.whole, nofun⟩, nofun⟩
  | called call reached settled => exact (settled.respond reached.sound call).2
  | meddled _ retuned settled => exact settled.retuned retuned

variable {storage : Storage Device} {handle : Handle} {file : OpenFile}

theorem Reached.ready (reached : Reached Device.Fits Device.Retuned storage)
    (on : storage.poweredOn = true) : storage.transport.initialized = true := by
  obtain ⟨recorded, direct, reached⟩ := reached.recorded
  rw [← direct.device]
  exact reached.settles.ready on

theorem Reached.device_coherent (reached : Reached Device.Fits Device.Retuned storage) :
    Coherent (fun device => device) [] storage :=
  reached.coherent Device.relays (fun _ _ fits => ⟨fits.1, fits.2.whole⟩) fun before after retuned => by
    obtain ⟨faults, rfl⟩ := retuned
    rfl

/-- What reading a range of a file returns once the device is to refuse nothing. -/
def readRange (handle : Handle) (offset count : Nat) (storage : Storage Device) :
    Except Fault Reply :=
  (respond (.read handle count)
    (respond (.seek handle offset) { storage with transport := storage.transport.clearFaults }).2).1

/-- What a read at a cursor returns of a file that holds `bytes`. -/
def rangeOf (bytes : Bytes) (offset count : Nat) : Except Fault Reply :=
  if count = 0 then .ok (.bytes [])
  else if bytes.length ≤ offset then .error .endOfFile
  else .ok (.bytes ((bytes.drop offset).take count))

theorem Sound.on_of_present {σ : Type} {storage : Storage σ} (sound : storage.Sound)
    (present : storage.files.get? handle = some file) : storage.poweredOn = true := by
  by_contra off
  rw [(sound.off (Bool.eq_false_iff.mpr off)).1, Registry.get?_empty] at present
  cases present

theorem length_bytesOn (sound : storage.Sound) (coherent : Coherent (fun device => device) [] storage)
    (present : storage.files.get? handle = some file) :
    (file.bytesOn storage.transport).length = file.length := by
  have laid := sound.laid present
  have full : ∀ frame ∈ file.frames.map storage.transport.content,
      frame.length = storage.frameSize := by
    intro frame member
    obtain ⟨location, _, rfl⟩ := List.mem_map.mp member
    rw [coherent.inStep.whole.length_content, coherent.inStep.shape]
    rfl
  have enough : file.length ≤ (file.frames.flatMap storage.transport.content).length := by
    rw [List.flatMap, length_flatten full, List.length_map, laid.count]
    exact le_framesFor_mul sound.positive file.length
  exact List.length_take_of_le enough

/-- A device that refuses nothing has the bytes of the file read. -/
theorem read_exact (sound : storage.Sound) (coherent : Coherent (fun device => device) [] storage)
    (quiet : storage.transport.Quiet) (present : storage.files.get? handle = some file)
    (count : Nat) :
    (respond (.read handle count) storage).1 =
      rangeOf (file.bytesOn storage.transport) file.position count := by
  have on := sound.on_of_present present
  have isOn : storage.cache.isSome = true := sound.power.symm.trans on
  have ending := read_run handle count storage
  unfold rangeOf
  rw [length_bytesOn sound coherent present]
  cases run : read handle count storage with
  | ok bytes next =>
    have whole : perform (.read handle count) storage = .ok (.bytes bytes) next :=
      Operation.bind_pure_ok.mpr ⟨bytes, run, rfl⟩
    obtain ⟨other, found, _, value⟩ := coherent.read_ok Device.relays sound run
    obtain rfl := Option.some.inj (present.symm.trans found)
    rw [respond_of_ok whole, value]
    rw [run] at ending
    cases ending with
    | nothing on _ none =>
      rw [if_pos none, none]
      rfl
    | done on found some more read =>
      obtain rfl := Option.some.inj (present.symm.trans found)
      rw [if_neg (Nat.ne_of_gt some), if_neg (Nat.not_le.mpr more)]
      rfl
  | error fault next =>
    have whole : perform (.read handle count) storage = .error fault next :=
      Operation.bind_pure_error.mpr run
    rw [respond_of_error whole]
    rw [run] at ending
    cases ending with
    | off off => exact Bool.noConfusion (on.symm.trans off)
    | invalid _ absent => cases present.symm.trans absent
    | atEnd on found some ended =>
      obtain rfl := Option.some.inj (present.symm.trans found)
      rw [if_neg (Nat.ne_of_gt some), if_pos ended]
    | unread on found some more failed =>
      obtain rfl := Option.some.inj (present.symm.trans found)
      have inside : ∀ location ∈ covering file storage.frameSize (readable file count),
          storage.config.geometry.contains location = true := fun location member =>
        (sound.laid present).inside location (Sound.covering_subset member)
      obtain ⟨_, _, succeeded, _⟩ := readFrames_quiet coherent quiet isOn inside
      cases succeeded.symm.trans failed

/-- In every state between calls, reading a range of a file returns the bytes that the device holds
for it. -/
theorem Reached.readRange_eq (reached : Reached Device.Fits Device.Retuned storage)
    (present : storage.files.get? handle = some file) {offset : Nat} (within : offset ≤ file.length)
    (count : Nat) :
    readRange handle offset count storage =
      rangeOf (file.bytesOn storage.transport) offset count := by
  have on := reached.sound.on_of_present present
  have cleared : Reached Device.Fits Device.Retuned
      { storage with transport := storage.transport.clearFaults } :=
    reached.meddled ⟨_, rfl⟩
  have sought : (respond (.seek handle offset)
      { storage with transport := storage.transport.clearFaults }).2 = { storage with
        transport := storage.transport.clearFaults
        files := storage.files.update handle { file with position := offset } } := by
    rw [respond_snd]
    refine (Operation.after_bind_pure _ _).trans ?_
    unfold Operation.after
    rw [seek_eq]
    simp only [on, if_true, present, if_neg (Nat.not_lt.mpr within)]
  have moved := cleared.called (.seek handle offset)
  unfold readRange
  rw [sought] at moved ⊢
  have found : (storage.files.update handle { file with position := offset }).get? handle =
      some { file with position := offset } := by
    rw [Registry.get?_update present, if_pos rfl]
  exact read_exact moved.sound moved.device_coherent ⟨rfl, reached.ready on⟩ found count

/-- Whole ranges tell the bytes apart. -/
theorem rangeOf_injective {left right : Bytes} (same : left.length = right.length)
    (alike : rangeOf left 0 left.length = rangeOf right 0 left.length) : left = right := by
  by_cases empty : left.length = 0
  · rw [List.length_eq_zero_iff.mp empty, List.length_eq_zero_iff.mp (same.symm.trans empty)]
  · unfold rangeOf at alike
    have more : ¬left.length ≤ 0 := by omega
    rw [if_neg empty, if_neg empty, if_neg more, ← same, if_neg more, List.drop_zero,
      List.drop_zero, List.take_length, same, List.take_length] at alike
    simpa using alike

/-- What a write that fails has stored: the first pieces of the new content, in their places. -/
theorem Reached.failed_stores (reached : Reached Device.Fits Device.Retuned storage)
    (present : storage.files.get? handle = some file) (data : Bytes) :
    ∃ stored, stored <+: storage.placement file (file.frames.map storage.transport.content) data ∧
      (storage.transport.storeAll stored).SameFrames
        (respond (.write handle data) storage).2.transport := by
  obtain ⟨recorded, direct, recordedReached⟩ := reached.recorded
  obtain ⟨_, after, _⟩ := respond_direct direct (.write handle data)
  obtain ⟨stored, ⟨_, frames⟩, placed⟩ :=
    write_stores recordedReached.sound recordedReached.recorded_coherent handle data
  rw [respond_snd, perform, Operation.after_bind_pure] at after
  have frames : (recorded.device.storeAll stored).SameFrames
      ((write handle data).after (storage.via recorded)).transport.device := frames
  rw [direct.device, after.device] at frames
  refine ⟨stored, ?_, frames⟩
  rcases placed with rfl | ⟨other, found, part⟩
  · exact List.nil_prefix
  · obtain rfl := Option.some.inj (present.symm.trans found)
    have part : stored <+: storage.placement file (file.frames.map recorded.device.content) data :=
      part
    rwa [direct.device] at part

/-- A write that fails leaves the files and the owners of all frames as they were, but the first
pieces of the new content may have been stored already. What is read of the file afterwards is what
its frames hold then. So it is unchanged exactly if those pieces leave its bytes alone, as they do
when they all lie in frames that are new to it. -/
theorem Reached.failed_write (reached : Reached Device.Fits Device.Retuned storage)
    (present : storage.files.get? handle = some file) {data : Bytes} {fault : Fault}
    (failed : (respond (.write handle data) storage).1 = .error fault) :
    SameBooks storage (respond (.write handle data) storage).2 ∧
      ∃ stored,
        stored <+: storage.placement file (file.frames.map storage.transport.content) data ∧
        (storage.transport.storeAll stored).SameFrames
          (respond (.write handle data) storage).2.transport ∧
        (∀ offset count, offset ≤ file.length →
          readRange handle offset count storage =
              rangeOf (file.bytesOn storage.transport) offset count ∧
            readRange handle offset count (respond (.write handle data) storage).2 =
              rangeOf (file.bytesOn (storage.transport.storeAll stored)) offset count) ∧
        ((∀ offset count, offset ≤ file.length →
            readRange handle offset count (respond (.write handle data) storage).2 =
              readRange handle offset count storage) ↔
          file.bytesOn (storage.transport.storeAll stored) = file.bytesOn storage.transport) ∧
        ((∀ piece ∈ stored, piece.1 ∉ file.frames) →
          ∀ offset count, offset ≤ file.length →
            readRange handle offset count (respond (.write handle data) storage).2 =
              readRange handle offset count storage) := by
  have books : SameBooks storage (respond (.write handle data) storage).2 :=
    reached.sound.respond_error nofun failed
  have later := reached.called (.write handle data)
  have still : (respond (.write handle data) storage).2.files.get? handle = some file := by
    rw [books.1]
    exact present
  obtain ⟨stored, part, frames⟩ := reached.failed_stores present data
  -- both before and after, reading tells what the device holds in the frames of the file
  have before := fun offset count (within : offset ≤ file.length) =>
    reached.readRange_eq present within count
  have after := fun offset count (within : offset ≤ file.length) =>
    (later.readRange_eq still within count).trans
      (congrArg (rangeOf · offset count) (frames.bytesOn file))
  have length : (file.bytesOn storage.transport).length = file.length :=
    length_bytesOn reached.sound reached.device_coherent present
  have lengthAfter : (file.bytesOn (storage.transport.storeAll stored)).length = file.length := by
    rw [← frames.bytesOn file]
    exact length_bytesOn later.sound later.device_coherent still
  have unchanged (same : file.bytesOn (storage.transport.storeAll stored) =
      file.bytesOn storage.transport) : ∀ offset count, offset ≤ file.length →
        readRange handle offset count (respond (.write handle data) storage).2 =
          readRange handle offset count storage := by
    intro offset count within
    rw [after offset count within, before offset count within, same]
  refine ⟨books, stored, part, frames,
    fun offset count within => ⟨before offset count within, after offset count within⟩,
    ⟨fun alike => ?_, unchanged⟩, fun apart => unchanged (OpenFile.bytesOn_storeAll apart)⟩
  have whole := alike 0 file.length (Nat.zero_le _)
  rw [after 0 _ (Nat.zero_le _), before 0 _ (Nat.zero_le _), ← lengthAfter] at whole
  exact rangeOf_injective (lengthAfter.trans length.symm) whole

/-- A file of one frame, over a device that will refuse the third WRFRME from the start. -/
def beforeAppend : Storage Device :=
  twoByTwo { wrfrme := some 3 } [.powerOn, .openFile "a", .write ⟨0⟩ [1, 2, 3, 4]]

/-- That file. -/
def appended : OpenFile where
  name := "a"
  length := 4
  position := 4
  frames := [⟨0, 0⟩]

/-- The frame that the file had is stored once more as it was, and the new one is refused. -/
theorem Reached.failed_write_append :
    (respond (.write ⟨0⟩ [5, 6]) beforeAppend).1 =
        .error (.deviceFailure .wrfrme ((Opcode.request .wrfrme 0 1).withRet true)) ∧
      ∀ offset count, offset ≤ 4 →
        readRange ⟨0⟩ offset count (respond (.write ⟨0⟩ [5, 6]) beforeAppend).2 =
          readRange ⟨0⟩ offset count beforeAppend := by
  have fits : Device.Fits { geometry := ⟨2, 2, 4⟩, cacheFrames := 2 }
      { geometry := ⟨2, 2, 4⟩, faults := { wrfrme := some 3 } } :=
    ⟨rfl, .armed .wrfrme 3 (.created _)⟩
  have reached : Reached Device.Fits Device.Retuned beforeAppend := twoByTwo_reached fits _
  have present : beforeAppend.files.get? ⟨0⟩ = some appended := by cbv
  have failed : (respond (.write ⟨0⟩ [5, 6]) beforeAppend).1 =
      .error (.deviceFailure .wrfrme ((Opcode.request .wrfrme 0 1).withRet true)) := by cbv
  obtain ⟨_, stored, part, _, _, unchanged, _⟩ := reached.failed_write present failed
  -- however many of the pieces are stored, the first one is what its frame holds already
  have alike : ((beforeAppend.placement appended
      (appended.frames.map beforeAppend.transport.content) [5, 6]).inits.all fun pieces =>
        appended.bytesOn (beforeAppend.transport.storeAll pieces) ==
          appended.bytesOn beforeAppend.transport) = true := by cbv
  exact ⟨failed, unchanged.mpr
    (eq_of_beq (List.all_eq_true.mp alike stored ((List.mem_inits _ _).mpr part)))⟩

/-- A file of two frames, over a device that will refuse the fourth WRFRME from the start. -/
def beforeOverwrite : Storage Device :=
  twoByTwo { wrfrme := some 4 }
    [.powerOn, .openFile "a", .write ⟨0⟩ [1, 2, 3, 4, 5, 6, 7, 8], .seek ⟨0⟩ 0]

/-- A failed write may change the bytes of its file: the first of two frames is overwritten before
the second one is refused. -/
theorem failed_write_overwrites :
    Reached Device.Fits Device.Retuned beforeOverwrite ∧
      (respond (.write ⟨0⟩ [17, 18, 19, 20, 21, 22, 23, 24]) beforeOverwrite).1 =
        .error (.deviceFailure .wrfrme ((Opcode.request .wrfrme 0 1).withRet true)) ∧
      readRange ⟨0⟩ 0 8 beforeOverwrite = .ok (.bytes [1, 2, 3, 4, 5, 6, 7, 8]) ∧
      readRange ⟨0⟩ 0 8
          (respond (.write ⟨0⟩ [17, 18, 19, 20, 21, 22, 23, 24]) beforeOverwrite).2 =
        .ok (.bytes [17, 18, 19, 20, 5, 6, 7, 8]) := by
  have fits : Device.Fits { geometry := ⟨2, 2, 4⟩, cacheFrames := 2 }
      { geometry := ⟨2, 2, 4⟩, faults := { wrfrme := some 4 } } :=
    ⟨rfl, .armed .wrfrme 4 (.created _)⟩
  exact ⟨twoByTwo_reached fits _, by cbv, by cbv, by cbv⟩

end Storage

end CartridgeBank
