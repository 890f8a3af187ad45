import CartridgeBank.Proofs.Guarded
import CartridgeBank.Proofs.Soundness

namespace CartridgeBank

namespace Storage

theorem splice_nil (content : Bytes) (position : Nat) : splice content position [] = content := by
  simp [splice]

/-- Two pieces put in one behind the other are one piece put in. -/
theorem splice_splice {content : Bytes} {position : Nat} (within : position ≤ content.length)
    (first second : Bytes) :
    splice (splice content position first) (position + first.length) second =
      splice content position (first ++ second) := by
  have front : (content.take position ++ first).length = position + first.length := by
    rw [List.length_append, List.length_take, Nat.min_eq_left within]
  have ahead : (splice content position first).take (position + first.length) =
      content.take position ++ first := by
    rw [splice, List.take_append_of_le_length (by omega), List.take_of_length_le (by omega)]
  have behind : (splice content position first).drop (position + first.length + second.length) =
      content.drop (position + (first ++ second).length) := by
    rw [splice, List.drop_append, List.drop_of_length_le (by omega), List.nil_append, List.drop_drop,
      front, List.length_append]
    congr 1
    omega
  rw [splice, ahead, behind, splice]
  simp only [List.append_assoc]

end Storage

/-- A window onto frames begins with what the first of them holds of it. -/
theorem take_drop_flatten_cons {frame : Bytes} {start : Nat} (within : start ≤ frame.length)
    (rest : List Bytes) (count : Nat) :
    ((frame :: rest).flatten.drop start).take count =
      (frame.drop start).take count ++ rest.flatten.take (count - (frame.length - start)) := by
  rw [List.flatten_cons, List.drop_append_of_le_length within, List.take_append, List.length_drop]

namespace Guarded

namespace Window

variable {window : Window}

/-- The place in the file where a frame begins. -/
def base (window : Window) (offset : Nat) : Nat := (window.first + offset) * window.frameSize

/-- How many bytes are copied when it is a frame's turn. -/
def copied (window : Window) (offset : Nat) : Nat :=
  min window.count (window.base offset - window.position)

/-- From a frame on, that many frames hold the rest of the window, and each of them some of it. -/
structure Spans (window : Window) (offset frames : Nat) : Prop where
  begun : window.position < window.base offset + window.frameSize
  needed : window.base offset + frames * window.frameSize <
    window.position + window.count + window.frameSize
  enough : window.position + window.count ≤ window.base offset + frames * window.frameSize

theorem base_succ (window : Window) (offset : Nat) :
    window.base (offset + 1) = window.base offset + window.frameSize := by
  rw [base, ← Nat.add_assoc, Nat.succ_mul, base]

theorem Spans.next {offset frames : Nat} (spans : window.Spans offset (frames + 1)) :
    window.Spans (offset + 1) frames := by
  obtain ⟨begun, needed, enough⟩ := spans
  rw [Nat.succ_mul] at needed enough
  constructor <;> rw [base_succ] <;> omega

/-- As long as frames are left, all bytes of the earlier ones are copied. -/
theorem Spans.copied_eq {offset frames : Nat} (spans : window.Spans offset (frames + 1)) :
    window.copied offset = window.base offset - window.position ∧
      window.base offset < window.position + window.count := by
  obtain ⟨begun, needed, enough⟩ := spans
  rw [Nat.succ_mul] at needed
  have less : window.base offset < window.position + window.count := by omega
  refine ⟨?_, less⟩
  rw [copied]
  omega

theorem Spans.copied_last {offset : Nat} (spans : window.Spans offset 0) :
    window.copied offset = window.count := by
  obtain ⟨begun, needed, enough⟩ := spans
  rw [copied]
  omega

/-- A frame holds the rest of the window or all its bytes from where the window reaches it. -/
theorem Spans.copied_next {offset frames : Nat} (spans : window.Spans offset (frames + 1)) :
    window.copied (offset + 1) = window.copied offset +
      min (window.frameSize - (window.position - window.base offset))
        (window.count - window.copied offset) := by
  obtain ⟨copied, less⟩ := spans.copied_eq
  obtain ⟨begun, _, _⟩ := spans
  rw [copied, Window.copied, base_succ]
  omega

/-- What is left of a window is what the next frame holds of it, and what is left then. -/
theorem Spans.split {offset frames : Nat} (spans : window.Spans offset (frames + 1)) {frame : Bytes}
    (full : frame.length = window.frameSize) (rest : List Bytes) :
    let piece := (frame.drop (window.position - window.base offset)).take
      (window.count - window.copied offset)
    window.copied offset + piece.length = window.copied (offset + 1) ∧
      ((frame :: rest).flatten.drop (window.position - window.base offset)).take
          (window.count - window.copied offset) =
        piece ++ (rest.flatten.drop (window.position - window.base (offset + 1))).take
          (window.count - window.copied (offset + 1)) := by
  have next := spans.copied_next
  obtain ⟨begun, _, _⟩ := spans
  have last : window.position - window.base (offset + 1) = 0 := by
    rw [base_succ]
    omega
  refine ⟨?_, ?_⟩
  · rw [List.length_take, List.length_drop, full, next]
    omega
  · rw [take_drop_flatten_cons (by omega), full, last, List.drop_zero, next]
    congr 2
    omega

/-- No step of the copying breaches anything, and it copies what the frame holds of the window. -/
theorem Spans.copy {offset frames : Nat} (spans : window.Spans offset (frames + 1))
    (fits : window.position + window.count < 2 ^ 64) {frame buffer : Bytes}
    (full : frame.length = window.frameSize) (room : window.count ≤ buffer.length) :
    window.copy offset (window.copied offset) frame buffer =
      .ok (window.copied (offset + 1), Storage.splice buffer (window.copied offset)
        ((frame.drop (window.position - window.base offset)).take
          (window.count - window.copied offset))) := by
  have filled := spans.copied_next
  obtain ⟨copied, less⟩ := spans.copied_eq
  obtain ⟨begun, _, _⟩ := spans
  have index : window.first + offset ≤ window.base offset :=
    Nat.le_mul_of_pos_right _ (by omega)
  have reached : window.position + window.copied offset - window.base offset =
      window.position - window.base offset := by omega
  rw [filled, Window.copy]
  unfold base at *
  generalize window.copied offset = done at *
  generalize product : (window.first + offset) * window.frameSize = passed at *
  generalize window.position - passed = start at *
  generalize least : min (window.frameSize - start) (window.count - done) = taken at *
  have piece : (frame.drop start).take (window.count - done) = (frame.drop start).take taken := by
    rw [← least, List.take_eq_take_iff, List.length_drop, full]
    omega
  have size : ((frame.drop start).take taken).length = taken := by
    rw [List.length_take, List.length_drop, full]
    omega
  have slice : Checked.slice frame start (start + taken) = .ok ((frame.drop start).take taken) := by
    rw [Checked.slice_ok (Nat.le_add_right _ _) (by omega), Nat.add_sub_cancel_left]
  rw [piece, Checked.add_ok (by omega), Checked.ok_bind, Checked.add_ok (by omega), Checked.ok_bind,
    Checked.mul_ok (by omega), Checked.ok_bind, product, Checked.sub_ok (by omega), Checked.ok_bind,
    reached, Checked.sub_ok (by omega), Checked.ok_bind, Checked.sub_ok (by omega), Checked.ok_bind]
  dsimp only
  rw [least, Checked.add_ok (by omega), Checked.ok_bind, slice, Checked.ok_bind,
    Checked.add_ok (by omega), Checked.ok_bind, Checked.overwrite_ok (by rw [size]) (by omega),
    Checked.ok_bind]
  rfl

/-- The frames from the one that a window begins in to the one that it ends in span it. -/
theorem spans_covering {position count frameSize : Nat} (positive : 0 < frameSize)
    (some : 0 < count) :
    Spans { position, count, frameSize, first := position / frameSize } 0
      ((position + count - 1) / frameSize + 1 - position / frameSize) := by
  have first := Nat.div_add_mod position frameSize
  have last := Nat.div_add_mod (position + count - 1) frameSize
  have ordered : position / frameSize ≤ (position + count - 1) / frameSize :=
    Nat.div_le_div_right (by omega)
  have inFirst := Nat.mod_lt position positive
  have inLast := Nat.mod_lt (position + count - 1) positive
  rw [Nat.mul_comm] at first last
  have whole : position / frameSize * frameSize +
      ((position + count - 1) / frameSize + 1 - position / frameSize) * frameSize =
        (position + count - 1) / frameSize * frameSize + frameSize := by
    rw [← Nat.add_mul, ← Nat.succ_mul]
    congr 1
    omega
  constructor <;> simp only [base, Nat.add_zero] <;> omega

end Window

section Reading

variable {σ : Type} [Transport σ] {storage : Storage σ}

/-- Copying frame by frame fills the buffer as copying the window at once does. -/
theorem copyFrames_eq {window : Window} (fits : window.position + window.count < 2 ^ 64)
    {locations : List FrameLocation} {offset capacity : Nat} {buffer : Bytes} {cache : FrameCache}
    (spans : window.Spans offset locations.length) (room : window.count ≤ buffer.length)
    (size : storage.frameSize = window.frameSize) (on : storage.cache = some cache)
    (keeps : cache.Keeps capacity fun _ frame => frame.length = window.frameSize) :
    copyFrames window offset (window.copied offset) buffer locations storage =
      match Storage.readFrames locations storage with
      | .ok frames next => .ok (window.count, Storage.splice buffer (window.copied offset)
          ((frames.flatten.drop (window.position - window.base offset)).take
            (window.count - window.copied offset))) next
      | .error fault next => .error (.fault fault) next := by
  induction locations generalizing offset buffer storage cache with
  | nil =>
    rw [copyFrames, spans.copied_last]
    simp [Storage.readFrames, Storage.splice_nil]
  | cons location rest ih =>
    rw [copyFrames, Operation.bind_apply, Storage.readFrames_cons]
    cases read : Storage.readFrame location storage with
    | error fault next => rw [plain_error read]
    | ok frame next =>
      obtain ⟨value, transport, active, rfl⟩ := Storage.readFrame_ok on read
      have full : frame.length = window.frameSize := by
        rcases value with cached | ⟨_, fetched⟩
        · exact keeps.frames location frame cached
        · exact fetched.trans size
      rw [plain_ok read]
      dsimp only
      rw [spans.copy fits full room, Operation.bind_apply, grant_ok]
      dsimp only
      have reached : window.copied offset ≤ window.count := Nat.min_le_left _ _
      have kept : (cache.readThrough location frame).Keeps capacity
          fun _ frame => frame.length = window.frameSize := keeps.readThrough full
      refine (ih spans.next ?_ ?_ rfl kept).trans ?_
      · rw [Storage.length_splice (by omega)]
        exact Nat.le_trans room (Nat.le_max_left _ _)
      · exact size
      · cases Storage.readFrames rest { storage with
            transport, active, cache := some (cache.readThrough location frame) } with
        | error fault last => rfl
        | ok frames last =>
          obtain ⟨behind, whole⟩ := spans.split full frames
          dsimp only
          rw [whole, ← Storage.splice_splice (by omega), behind]

omit [Transport σ] in
/-- The frames that a read touches are among those of the file. -/
theorem slice_covering (sound : storage.Sound) {handle : Handle} {file : OpenFile}
    (present : storage.files.get? handle = some file) {count : Nat} (some : 0 < count)
    (within : file.position + count ≤ file.length) :
    Checked.slice file.frames (file.position / storage.frameSize)
        ((file.position + count - 1) / storage.frameSize + 1) =
          .ok (Storage.covering file storage.frameSize count) ∧
      (Storage.covering file storage.frameSize count).length =
        (file.position + count - 1) / storage.frameSize + 1 - file.position / storage.frameSize := by
  have ordered : file.position / storage.frameSize ≤
      (file.position + count - 1) / storage.frameSize := Nat.div_le_div_right (by omega)
  have last : (file.position + count - 1) / storage.frameSize < file.frames.length := by
    rw [Nat.div_lt_iff_lt_mul sound.positive]
    have enough := (framesFor_le_iff sound.positive).mp (Nat.le_of_eq (sound.laid present).count.symm)
    exact Nat.lt_of_lt_of_le (by omega) enough
  refine ⟨Checked.slice_ok (by omega) last, ?_⟩
  simp only [Storage.covering, List.length_take, List.length_drop]
  omega

theorem copyFrames_covering (sound : storage.Sound) {handle : Handle} {file : OpenFile}
    (on : storage.poweredOn = true) (present : storage.files.get? handle = some file)
    {count : Nat} {buffer : Bytes} (some : 0 < count)
    (within : file.position + count ≤ file.length) (room : count ≤ buffer.length) :
    copyFrames ⟨file.position, count, storage.frameSize, file.position / storage.frameSize⟩ 0 0
        buffer (Storage.covering file storage.frameSize count) storage =
      match Storage.readFrames (Storage.covering file storage.frameSize count) storage with
      | .ok frames next => .ok (count, Storage.splice buffer 0
          ((frames.flatten.drop (file.position % storage.frameSize)).take count)) next
      | .error fault next => .error (.fault fault) next := by
  have bound := Nat.le_trans (sound.length_le present) sound.valid.totalBytes_le
  obtain ⟨cache, held⟩ := sound.cache_of_on on
  have spans : Window.Spans ⟨file.position, count, storage.frameSize,
      file.position / storage.frameSize⟩ 0 _ := Window.spans_covering sound.positive some
  rw [← (slice_covering sound present some within).2] at spans
  have base : Window.base ⟨file.position, count, storage.frameSize,
      file.position / storage.frameSize⟩ 0 = file.position / storage.frameSize * storage.frameSize :=
    rfl
  have parts := Nat.div_add_mod file.position storage.frameSize
  rw [Nat.mul_comm] at parts
  have start : Window.copied ⟨file.position, count, storage.frameSize,
      file.position / storage.frameSize⟩ 0 = 0 := by
    rw [Window.copied, base]
    dsimp only
    omega
  have skipped : file.position - file.position / storage.frameSize * storage.frameSize =
      file.position % storage.frameSize := by omega
  have copying := copyFrames_eq (by dsimp only; omega) spans room rfl held (sound.wholeCached held)
  rw [start, base] at copying
  dsimp only at copying
  rwa [skipped, Nat.sub_zero] at copying

/-- A read that finds bytes to read copies them from the frames that hold them. -/
theorem read_copies (sound : storage.Sound) {handle : Handle} {file : OpenFile} {buffer : Bytes}
    (on : storage.poweredOn = true) (present : storage.files.get? handle = some file)
    (some : 0 < buffer.length) (more : file.position < file.length) :
    read handle buffer storage =
      match Storage.readFrames
          (Storage.covering file storage.frameSize (Storage.readable file buffer.length)) storage with
      | .ok frames next =>
        .ok (Storage.readable file buffer.length, Storage.splice buffer 0
            ((frames.flatten.drop (file.position % storage.frameSize)).take
              (Storage.readable file buffer.length))) { next with
          files := next.files.update handle
            { file with position := file.position + Storage.readable file buffer.length } }
      | .error fault next => .error (.fault fault) next := by
  have nonempty : buffer ≠ [] := List.ne_nil_of_length_pos some
  have bound := Nat.le_trans (sound.length_le present) sound.valid.totalBytes_le
  have least : min buffer.length (file.length - file.position) =
      Storage.readable file buffer.length := rfl
  generalize Storage.readable file buffer.length = count at *
  have nonzero : 0 < count := by omega
  have within : file.position + count ≤ file.length := by omega
  have room : count ≤ buffer.length := by omega
  have small := Nat.div_le_self (file.position + count - 1) storage.frameSize
  simp only [read, Operation.bind_apply, plain_ok (Storage.ensurePowered_on on),
    Operation.get_apply, Registry.get_of_get? present, plain_require_ok, if_neg nonempty,
    if_neg (Nat.not_le.mpr more), Checked.sub_ok (Nat.le_of_lt more), grant_ok,
    Checked.div_ok sound.positive, least,
    Checked.add_ok (show file.position + count < 2 ^ 64 by omega),
    Checked.sub_ok (show 1 ≤ file.position + count by omega),
    Checked.add_ok (show (file.position + count - 1) / storage.frameSize + 1 < 2 ^ 64 by omega),
    (slice_covering sound present nonzero within).1,
    copyFrames_covering sound on present nonzero within room]
  cases read : Storage.readFrames (Storage.covering file storage.frameSize count) storage with
  | error fault next => rfl
  | ok frames next =>
    obtain ⟨transport, active, cache, rfl⟩ := Storage.readFrames_leaves read
    simp only [insist_true, Registry.get_of_get? present, agreed_ok, Operation.modify_apply,
      Operation.pure_apply]

/-- A read that succeeds has found as many bytes as there are to read. -/
theorem length_read (sound : storage.Sound) {handle : Handle} {file : OpenFile}
    (on : storage.poweredOn = true) (present : storage.files.get? handle = some file) {count : Nat}
    (some : 0 < count) (within : file.position + count ≤ file.length) {frames : List Bytes}
    {next : Storage σ}
    (run : Storage.readFrames (Storage.covering file storage.frameSize count) storage =
      .ok frames next) :
    ((frames.flatten.drop (file.position % storage.frameSize)).take count).length = count := by
  obtain ⟨cache, held⟩ := sound.cache_of_on on
  obtain ⟨as, full⟩ := Storage.readFrames_full held (sound.wholeCached held) run
  have parts := Nat.div_add_mod file.position storage.frameSize
  rw [Nat.mul_comm] at parts
  have spans : Window.Spans ⟨file.position, count, storage.frameSize,
      file.position / storage.frameSize⟩ 0 _ := Window.spans_covering sound.positive some
  have enough := spans.enough
  rw [← (slice_covering sound present some within).2, ← as] at enough
  simp only [Window.base, Nat.add_zero] at enough
  rw [List.length_take, List.length_drop, length_flatten full]
  omega

/-- A read of a file's bytes into a buffer puts them at its front. -/
theorem read_eq (sound : storage.Sound) (handle : Handle) (buffer : Bytes) :
    read handle buffer storage = plain (do
      let bytes ← Storage.read handle buffer.length
      return (bytes.length, Storage.splice buffer 0 bytes)) storage := by
  have ending := Storage.read_run handle buffer.length storage
  generalize run : Storage.read handle buffer.length storage = result at ending
  cases ending with
  | off off =>
    simp only [read, plain, Operation.bind_apply, run, Storage.ensurePowered_off off]
  | invalid on absent =>
    simp only [read, plain, Operation.bind_apply, run, Storage.ensurePowered_on on,
      Operation.get_apply, Registry.get_error absent, Storage.require_error]
  | nothing on present zero =>
    simp only [read, plain, Operation.bind_apply, run, Storage.ensurePowered_on on,
      Operation.get_apply, Registry.get_of_get? present, Storage.require_ok]
    obtain rfl := List.eq_nil_of_length_eq_zero zero
    rfl
  | atEnd on present some ended =>
    have nonempty : buffer ≠ [] := List.ne_nil_of_length_pos some
    simp only [read, plain, Operation.bind_apply, run, Storage.ensurePowered_on on,
      Operation.get_apply, Registry.get_of_get? present, Storage.require_ok, if_neg nonempty,
      if_pos ended]
    rfl
  | unread on present some more failed =>
    rw [read_copies sound on present some more, failed]
    simp only [plain, Operation.bind_apply, run]
  | @done file frames next on present some more found =>
    have nonzero : 0 < Storage.readable file buffer.length := by
      unfold Storage.readable
      omega
    have within : file.position + Storage.readable file buffer.length ≤ file.length := by
      unfold Storage.readable
      omega
    rw [read_copies sound on present some more, found]
    simp only [plain, Operation.bind_apply, run, Operation.pure_apply,
      length_read sound on present nonzero within found]

theorem readFresh_eq (sound : storage.Sound) (handle : Handle) (wanted : Nat) :
    readFresh handle wanted storage = plain (Storage.read handle wanted) storage := by
  rw [readFresh, Operation.bind_apply, read_eq sound]
  simp only [plain, Operation.bind_apply, List.length_replicate]
  cases Storage.read handle wanted storage with
  | error fault next => rfl
  | ok bytes next =>
    have front := @Storage.take_drop_splice (List.replicate wanted 0) 0 (Nat.zero_le _) bytes
    rw [List.drop_zero] at front
    simp only [Operation.pure_apply, front]

theorem readToEnd_eq (sound : storage.Sound) (handle : Handle) :
    readToEnd handle storage = plain (Storage.readToEnd handle) storage := by
  have known := @Storage.info_eq σ storage handle
  by_cases on : storage.poweredOn = true
  · cases present : storage.files.get? handle with
    | none =>
      rw [if_pos on, Registry.info_error present] at known
      simp only [readToEnd, plain, Operation.bind_apply, known, Storage.readToEnd_eq, if_pos on,
        present]
    | some file =>
      rw [if_pos on, Registry.info_of_get? present] at known
      have remaining : Checked.sub (file.info handle).length (file.info handle).position =
        .ok (file.length - file.position) := Checked.sub_ok (sound.laid present).cursor
      simp only [readToEnd, Operation.bind_apply, plain_ok known, remaining, grant_ok]
      by_cases ended : file.length - file.position = 0
      · simp only [plain, Storage.readToEnd_eq, if_pos on, present, if_pos ended,
          Operation.pure_apply]
      · simp only [plain, Storage.readToEnd_eq, if_pos on, present, if_neg ended]
        exact readFresh_eq sound handle _
  · rw [if_neg on] at known
    simp only [readToEnd, plain, Operation.bind_apply, known, Storage.readToEnd_eq, if_neg on]

end Reading

end Guarded

end CartridgeBank
