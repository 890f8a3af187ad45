import CartridgeBank.Proofs.GuardedWrite

namespace CartridgeBank

variable {size : Nat} {content : Bytes} {frames : List Bytes}

theorem getElem?_chunks (positive : 0 < size) (content : Bytes) (i : Nat) :
    (chunks content size)[i]? =
      if i * size < content.length then some ((content.drop (i * size)).take size) else none := by
  induction i generalizing content with
  | zero =>
    by_cases empty : content = []
    · simp [empty, chunks]
    · rw [chunks_eq_cons positive empty, List.getElem?_cons_zero, Nat.zero_mul,
        if_pos (List.length_pos_iff.mpr empty), List.drop_zero]
  | succ i ih =>
    by_cases empty : content = []
    · simp [empty, chunks]
    · have past : i * size < (content.drop size).length ↔ (i + 1) * size < content.length := by
        rw [List.length_drop, Nat.succ_mul]
        omega
      rw [chunks_eq_cons positive empty, List.getElem?_cons_succ, ih]
      simp only [past, List.drop_drop, Nat.succ_mul, Nat.add_comm]

/-- A chunk in its frame: its bytes, and zeros behind them. -/
theorem getElem?_padFrame (chunk : Bytes) {j : Nat} (inside : j < size) :
    (padFrame chunk size)[j]? = some (chunk[j]?.getD 0) := by
  rw [padFrame, List.getElem?_append, List.length_take, List.getElem?_take, if_pos inside]
  by_cases held : j < chunk.length
  · rw [if_pos (by omega), List.getElem?_eq_getElem held, Option.getD_some]
  · rw [if_neg (by omega), List.getElem?_replicate, if_pos (by omega),
      List.getElem?_eq_none (Nat.le_of_not_lt held), Option.getD_none]

/-- Each frame has the bytes of the content at its place, and zeros behind the end. -/
theorem getElem?_padFrame_chunks (positive : 0 < size) {i j : Nat} {chunk : Bytes}
    (found : (chunks content size)[i]? = some chunk) (inside : j < size) :
    (padFrame chunk size)[j]? = some (content[i * size + j]?.getD 0) := by
  rw [getElem?_chunks positive] at found
  split at found
  · obtain rfl := Option.some.inj found
    rw [getElem?_padFrame _ inside, List.getElem?_take, if_pos inside, List.getElem?_drop]
  · cases found

/-- Frames that hold a content: as many as it needs, each of them whole, with the bytes of the content
one after the other. What lies behind its end does not matter. -/
structure Holds (frames : List Bytes) (content : Bytes) (size : Nat) : Prop where
  count : frames.length = framesFor content.length size
  full : ∀ frame ∈ frames, frame.length = size
  bytes : ∀ i frame, frames[i]? = some frame → ∀ j < size, i * size + j < content.length →
    frame[j]? = content[i * size + j]?

theorem holds_blocks (positive : 0 < size) (content : Bytes) :
    Holds (blocks content size) content size where
  count := length_blocks positive content
  full _ := length_of_mem_blocks
  bytes i frame found j inside within := by
    rw [blocks, List.getElem?_map] at found
    obtain ⟨chunk, cut, rfl⟩ := Option.map_eq_some_iff.mp found
    rw [getElem?_padFrame_chunks positive cut inside, List.getElem?_eq_getElem within,
      Option.getD_some]

/-- The bytes of whole frames stand one frame after the other. -/
theorem getElem?_flatten (full : ∀ frame ∈ frames, frame.length = size) {i j : Nat} {frame : Bytes}
    (found : frames[i]? = some frame) (inside : j < size) :
    frames.flatten[i * size + j]? = frame[j]? := by
  obtain ⟨index, rfl⟩ := List.getElem?_eq_some_iff.mp found
  have length := full _ (List.getElem_mem index)
  rw [← List.getElem?_drop, ← flatten_drop full, List.drop_eq_getElem_cons index,
    List.flatten_cons, List.getElem?_append_left (by omega)]

namespace Holds

/-- Whatever frames hold a content, cut to its length they are the content. -/
theorem take_flatten (positive : 0 < size) (holds : Holds frames content size) :
    frames.flatten.take content.length = content := by
  refine List.ext_getElem? fun place => ?_
  rw [List.getElem?_take]
  split
  · rename_i within
    have split : place / size * size + place % size = place := by
      rw [Nat.mul_comm]
      exact Nat.div_add_mod _ _
    have inside : place % size < size := Nat.mod_lt _ positive
    have index : place / size < frames.length := by
      have capacity := le_framesFor_mul positive content.length
      rw [holds.count, Nat.div_lt_iff_lt_mul positive]
      omega
    have found : frames[place / size]? = some frames[place / size] :=
      List.getElem?_eq_getElem index
    have joined := getElem?_flatten holds.full found inside
    rw [holds.bytes _ _ found _ inside (by omega), split] at joined
    exact joined
  · rename_i behind
    rw [List.getElem?_eq_none (Nat.le_of_not_lt behind)]

theorem length_le (positive : 0 < size) (holds : Holds frames content size) :
    content.length ≤ frames.flatten.length := by
  rw [length_flatten holds.full, holds.count]
  exact le_framesFor_mul positive content.length

/-- Cutting the frames read back to the length of the file finds its content. -/
theorem resize (positive : 0 < size) (holds : Holds frames content size) :
    Guarded.resize frames.flatten content.length = content := by
  rw [Guarded.resize, Nat.sub_eq_zero_of_le (holds.length_le positive), List.replicate_zero,
    List.append_nil, holds.take_flatten positive]

/-- Frames that hold the content of a file are all that a write needs of it. -/
theorem contentAfter (positive : 0 < size) (holds : Holds frames content size) {file : OpenFile}
    (length : content.length = file.length) (data : Bytes) :
    file.contentAfter frames data = Storage.splice content file.position data := by
  rw [OpenFile.contentAfter, ← length, holds.take_flatten positive]

/-- The data goes over the content, grown to its new length. -/
theorem overwrite (positive : 0 < size) (holds : Holds frames content size) {position : Nat}
    (within : position ≤ content.length) (data : Bytes) :
    Checked.overwrite
        (Guarded.resize (Guarded.resize frames.flatten content.length)
          (max content.length (position + data.length)))
        position (position + data.length) data =
      .ok (Storage.splice content position data) := by
  let file : OpenFile := { name := "", length := content.length, position }
  have after : file.contentAfter frames data = Storage.splice content position data :=
    holds.contentAfter positive rfl data
  have put := @Guarded.overwrite_content file frames data within (holds.length_le positive)
  rwa [after] at put

end Holds

namespace Storage

variable {σ : Type} [Transport σ] {storage middle : Storage σ} {handle : Handle} {file : OpenFile}
  {data : Bytes}

/-- Behind the point where a write has read back its file, it stores a content: the frames that it
has found get just the pieces of that content, and the write ends as this does. -/
def StoresContent (handle : Handle) (file : OpenFile) (data content : Bytes)
    (storage middle : Storage σ) : Prop :=
  ∃ targets claimed result last,
    targets.length = framesFor content.length storage.frameSize ∧
    store handle
        (targets.zip ((chunks content storage.frameSize).map (padFrame · storage.frameSize)))
        { middle with table := middle.table.releaseEach file.frames } = (claimed, result, last) ∧
    (result = .ok () → ∃ next, write handle data storage = .ok data.length next ∧
      next.files.get? handle = some { file with
        frames := targets
        length := content.length
        position := file.position + data.length }) ∧
    ∀ fault, result = .error fault → ∃ next, write handle data storage = .error fault next

/-- A write that has read back its file finds a frame for each piece of the content. -/
theorem placeContent_found (sound : storage.Sound) (starts : storage.Starts handle data file)
    (read : readFrames file.frames storage = .ok frames middle)
    {targets claimed : List FrameLocation} {result : Except Fault Unit} {last : Storage σ}
    (placed : placeContent handle (file.contentAfter frames data)
      { middle with table := middle.table.releaseEach file.frames } =
        .ok (targets, claimed, result) last) :
    targets.length = framesFor (file.contentAfter frames data).length storage.frameSize ∧
      store handle (targets.zip (blocks (file.contentAfter frames data) storage.frameSize))
        { middle with table := middle.table.releaseEach file.frames } = (claimed, result, last) := by
  obtain ⟨_, length⟩ := sound.length_contentAfter starts.on starts.present read data
  obtain ⟨transport, active, cache, rfl⟩ := readFrames_leaves read
  have room := sound.room starts
  rw [← length] at room
  have many := Ownership.length_firstFree (sound.valid_releaseEach file.frames)
    ((Ownership.releaseEach_spec file.frames).2.1 sound.books.within)
    (framesFor (file.contentAfter frames data).length storage.frameSize)
  rw [Nat.min_eq_left room] at many
  obtain ⟨found, ⟨few, _⟩ | ⟨_, stored⟩⟩ := placeContent_ok placed
  · rw [found] at few
    exact absurd few (Nat.not_lt.mpr (Nat.le_of_eq many.symm))
  · rw [found]
    rw [found] at stored
    exact ⟨many, stored⟩

theorem Sound.storesContent (sound : storage.Sound) (starts : storage.Starts handle data file)
    (read : readFrames file.frames storage = .ok frames middle) :
    StoresContent handle file data (file.contentAfter frames data) storage middle := by
  have ending := starts.write_eq (sound.books.laid handle file starts.present).inside
  obtain ⟨targets, claimed, result, last, placed⟩ := placeContent_total handle
    (file.contentAfter frames data) { middle with table := middle.table.releaseEach file.frames }
  rw [read] at ending
  dsimp only at ending
  rw [placed] at ending
  have found := placeContent_found sound starts read placed
  refine ⟨targets, claimed, result, last, found.1, found.2, ?_, ?_⟩
  · rintro rfl
    obtain ⟨_, _, _, _, _, transport, active, cache, _, rfl⟩ := sound.rewritten starts read placed
    exact ⟨_, ending, (Registry.get?_update starts.present).trans (if_pos rfl)⟩
  · rintro fault rfl
    exact ⟨_, ending⟩

end Storage

/-- Content is cut into just as many chunks as it needs frames. Each of these in its frame fills it, with
the bytes of the content at its place and zeros behind the end, and the frames put together and cut to
the length of the content are the content again. So a write finds the content of a file in any frames
that hold it, whatever stands behind its end there, and nothing but this content and the data is
stored. -/
theorem splitting_exact (positive : 0 < size) (content : Bytes) :
    let padded := (chunks content size).map (padFrame · size)
    (chunks content size).length = framesFor content.length size ∧
      (∀ i frame, padded[i]? = some frame → frame.length = size ∧ ∀ j < size,
        (i * size + j < content.length → frame[j]? = content[i * size + j]?) ∧
        (content.length ≤ i * size + j → frame[j]? = some 0)) ∧
      padded.flatten.take content.length = content ∧
      Holds padded content size ∧
      ∀ frames, Holds frames content size →
        Guarded.resize frames.flatten content.length = content ∧
        (∀ position data, position ≤ content.length →
          let longer := max content.length (position + data.length)
          let written := Storage.splice content position data
          Checked.overwrite (Guarded.resize (Guarded.resize frames.flatten content.length) longer)
              position (position + data.length) data = .ok written ∧
            written.length = longer ∧
            ∀ place, written[place]? =
              if position ≤ place ∧ place < position + data.length then data[place - position]?
              else content[place]?) ∧
        ∀ (σ : Type) [Transport σ] (storage middle : Storage σ) (handle : Handle) (file : OpenFile)
          (data : Bytes), Storage.Reached (fun _ _ => True) (fun _ _ => True) storage →
          storage.frameSize = size → storage.Starts handle data file →
          file.length = content.length →
          Storage.readFrames file.frames storage = .ok frames middle →
          Storage.StoresContent handle file data (Storage.splice content file.position data)
            storage middle := by
  refine ⟨length_chunks positive content, fun i frame found => ?_, take_flatten_blocks positive content,
    holds_blocks positive content, fun frames holds => ⟨?_, fun position data within => ?_, ?_⟩⟩
  · rw [List.getElem?_map] at found
    obtain ⟨chunk, cut, rfl⟩ := Option.map_eq_some_iff.mp found
    refine ⟨length_padFrame chunk, fun j inside => ?_⟩
    rw [getElem?_padFrame_chunks positive cut inside]
    refine ⟨fun held => ?_, fun behind => ?_⟩
    · rw [List.getElem?_eq_getElem held, Option.getD_some]
    · rw [List.getElem?_eq_none behind, Option.getD_none]
  · exact holds.resize positive
  · exact ⟨holds.overwrite positive within data, Storage.length_splice within data,
      Storage.getElem?_splice within data⟩
  · rintro σ _ storage middle handle file data reached rfl starts length read
    rw [← holds.contentAfter positive length.symm data]
    exact reached.sound.storesContent starts read

namespace Storage

/-- Five bytes in two frames, with something else behind their end on the bank. -/
def stained : Storage Device :=
  let storage := twoByTwo {} [.powerOn, .openFile "a", .write ⟨0⟩ [1, 2, 3, 4, 5], .openFile "b",
    .write ⟨1⟩ [7, 7, 7, 7, 7], .closeFile ⟨1⟩]
  { storage with transport :=
    { storage.transport with frames := storage.transport.frames.insert ⟨0, 1⟩ [5, 9, 9, 9] } }

theorem stained_reached : Reached (fun _ _ => True) (fun _ _ => True) stained :=
  .meddled (twoByTwo_reached trivial _) trivial

end Storage

/-- A byte more goes behind the five, and what stood there is gone. -/
theorem splitting_exact_stained :
    (chunks [1, 2, 3, 4, 5] 4).length = 2 ∧
      Guarded.resize [1, 2, 3, 4, 5, 9, 9, 9] 5 = [1, 2, 3, 4, 5] ∧
      ∃ middle, Storage.readFrames [⟨0, 0⟩, ⟨0, 1⟩] Storage.stained =
          .ok [[1, 2, 3, 4], [5, 9, 9, 9]] middle ∧
        Storage.StoresContent ⟨0⟩
          { name := "a", length := 5, position := 5, frames := [⟨0, 0⟩, ⟨0, 1⟩] } [6]
          [1, 2, 3, 4, 5, 6] Storage.stained middle := by
  obtain ⟨count, _, _, _, joined⟩ := @splitting_exact 4 (by decide) [1, 2, 3, 4, 5]
  have holds : Holds [[1, 2, 3, 4], [5, 9, 9, 9]] [1, 2, 3, 4, 5] 4 := by
    refine ⟨by decide, by decide, ?_⟩
    rintro (_ | _ | i) frame ⟨⟩
    · decide
    · decide
  obtain ⟨whole, _, writes⟩ := joined _ holds
  have back : EStateM.run' (Storage.readFrames [⟨0, 0⟩, ⟨0, 1⟩]) Storage.stained =
      some [[1, 2, 3, 4], [5, 9, 9, 9]] := by cbv
  obtain ⟨middle, read⟩ := Operation.ok_of_run back
  refine ⟨count, whole, middle, read, ?_⟩
  exact writes Device Storage.stained middle ⟨0⟩ _ [6] Storage.stained_reached (by cbv)
    ⟨by cbv, by cbv, by decide, fun _ => by cbv⟩ rfl read

end CartridgeBank
