import CartridgeBank.Proofs.Refines

namespace CartridgeBank.Storage.Refines

variable {reference : Reference} {storage : Storage Device} {handle : Handle} {file : ByteFile}

theorem powerOn (refines : Refines reference storage) : Agrees .powerOn reference storage := by
  cases on : storage.poweredOn with
  | true =>
    have running := refines.power on
    refine refines.refused (Operation.bind_pure_error.mpr ?_) (if_pos running)
    simp [Storage.powerOn, on]
  | false =>
    have gone := refines.power on
    obtain ⟨transport, active, faults, ready, run⟩ := powerOn_quiet refines.coherent.inStep
      refines.shows.faults refines.sound.valid refines.sound.sized on
    refine .of_eq (respond_of_ok (Operation.bind_pure_ok.mpr ⟨(), run, rfl⟩))
      (if_neg (by rw [gone]; exact Bool.false_ne_true))
      ⟨refines.shows.config, rfl, rfl, ?_, fun file member => ?_, faults, fun _ => ready⟩
    · have sized := refines.sound.sized
      rw [refines.shows.config] at sized ⊢
      exact .some (.created sized.1)
    · cases List.mem_singleton.mp member

theorem powerOff (refines : Refines reference storage) : Agrees .powerOff reference storage := by
  cases on : storage.poweredOn with
  | false =>
    have gone := refines.power on
    refine refines.refused (Operation.bind_pure_error.mpr ?_)
      (if_neg (by rw [gone]; exact Bool.false_ne_true))
    rw [powerOff_eq, if_neg (by rw [on]; exact Bool.false_ne_true)]
  | true =>
    have running := refines.power on
    obtain ⟨transport, faults, run⟩ := powerOff_quiet (refines.quiet running) on
    refine .of_eq (respond_of_ok (Operation.bind_pure_ok.mpr ⟨(), run, rfl⟩)) (if_pos running)
      ⟨refines.shows.config, rfl, rfl, .none, fun file member => ?_, faults, nofun⟩
    cases List.mem_singleton.mp member

theorem setCacheFrames (refines : Refines reference storage) (frames : Nat) :
    Agrees (.setCacheFrames frames) reference storage := by
  have inUse : storage.cache.isSome = reference.poweredOn :=
    refines.sound.power.symm.trans refines.shows.poweredOn
  have run := @setCacheFrames_eq Device storage frames
  rw [inUse] at run
  by_cases running : reference.poweredOn = true
  · rw [if_pos running] at run
    exact refines.refused (Operation.bind_pure_error.mpr run) (if_pos running)
  · rw [if_neg running] at run
    by_cases impossible : frames = 0 ∨ maxCacheFrames < frames
    · rw [if_pos impossible] at run
      exact refines.refused (Operation.bind_pure_error.mpr run)
        ((if_neg running).trans (if_pos impossible))
    · rw [if_neg impossible] at run
      have shows := refines.shows
      refine .of_eq (respond_of_ok (Operation.bind_pure_ok.mpr ⟨(), run, rfl⟩))
        ((if_neg running).trans (if_neg impossible))
        ⟨?_, shows.poweredOn, shows.slots, shows.cache, shows.contents, shows.faults, shows.ready⟩
      rw [shows.config]

theorem openFile (refines : Refines reference storage) (name : String) :
    Agrees (.openFile name) reference storage := by
  have run := @openFile_eq Device storage name
  rw [refines.shows.poweredOn, Registry.insert_eq, refines.lookup?] at run
  by_cases running : reference.poweredOn = true
  · rw [if_pos running] at run
    by_cases unnamed : name = ""
    · rw [if_pos unnamed] at run
      refine refines.refused (Operation.bind_pure_error.mpr run) ?_
      simp [Reference.respond, Reference.openNew, running, unnamed]
    · rw [if_neg unnamed] at run
      by_cases taken : (reference.lookup? name).isSome = true
      · rw [if_pos taken] at run
        refine refines.refused (Operation.bind_pure_error.mpr run) ?_
        simp [Reference.respond, Reference.openNew, running, unnamed, taken]
      · rw [if_neg taken] at run
        have opened : Reference.respond (.openFile name) reference =
            (.ok (.handle ⟨storage.files.vacancy⟩), { reference with
              slots := reference.slots.take storage.files.vacancy ++
                some { name } :: reference.slots.drop (storage.files.vacancy + 1) }) := by
          simp [Reference.respond, Reference.openNew, running, unnamed, taken, refines.vacancy]
        have shows := refines.shows
        refine .of_eq (respond_of_ok (Operation.bind_pure_ok.mpr ⟨_, run, rfl⟩)) opened
          ⟨shows.config, rfl, ?_, shows.cache, fun file member => ?_, shows.faults,
            shows.ready⟩
        · rw [Registry.place_eq Registry.vacancy_le, shows.slots]
          simp [ByteFile.stored]
        · rcases List.mem_append.mp member with before | rest
          · exact shows.contents file (List.mem_of_mem_take before)
          · rcases List.mem_cons.mp rest with new | behind
            · cases new
              exact blocks_nil.symm
            · exact shows.contents file (List.mem_of_mem_drop behind)
  · rw [if_neg running] at run
    refine refines.refused (Operation.bind_pure_error.mpr run) ?_
    simp [Reference.respond, Reference.openNew, running]

theorem closeFile (refines : Refines reference storage) (handle : Handle) :
    Agrees (.closeFile handle) reference storage := by
  rcases refines.named handle with ⟨off, gone⟩ | ⟨on, running, ⟨absent, none⟩ | ⟨file, held, present⟩⟩
  · refine refines.refused (Operation.bind_pure_error.mpr ?_) (Reference.onFile_off gone)
    simp [closeFile_eq, off]
  · refine refines.refused (Operation.bind_pure_error.mpr ?_) (Reference.onFile_absent running none)
    rw [closeFile_eq, if_pos on, Registry.erase_error absent]
  · obtain ⟨files, erased, slots⟩ := Registry.erase_of_get? held
    have run : Storage.closeFile handle storage = .ok () { storage with
        files
        table := (storage.table.releaseAll handle).2
        cache := storage.cache.map (·.invalidateAll file.frames) } := by
      rw [closeFile_eq, if_pos on, erased]
      rfl
    exact .of_eq (respond_of_ok (Operation.bind_pure_ok.mpr ⟨(), run, rfl⟩))
      (Reference.onFile_present running present)
      (refines.shows.updated rfl rfl slots rfl (fun _ _ used => used.invalidateAll file.frames)
        (refines.quiet running) nofun fun _ _ _ _ => rfl)

theorem seek (refines : Refines reference storage) (handle : Handle) (offset : Nat) :
    Agrees (.seek handle offset) reference storage := by
  rcases refines.named handle with ⟨off, gone⟩ | ⟨on, running, ⟨absent, none⟩ | ⟨file, held, present⟩⟩
  · refine refines.refused (Operation.bind_pure_error.mpr ?_) (Reference.onFile_off gone)
    simp [seek_eq, off]
  · refine refines.refused (Operation.bind_pure_error.mpr ?_) (Reference.onFile_absent running none)
    rw [seek_eq, if_pos on, absent]
  · by_cases within : offset ≤ file.content.length
    · have run : Storage.seek handle offset storage = .ok () { storage with
          files := storage.files.update handle { file.stored with position := offset } } := by
        rw [seek_eq, if_pos on, held]
        exact if_neg (Nat.not_lt.mpr within)
      refine .of_eq (respond_of_ok (Operation.bind_pure_ok.mpr ⟨(), run, rfl⟩))
        ((Reference.onFile_present running present).trans (if_pos within))
        (refines.shows.updated rfl rfl rfl (congrFun Option.map_id _).symm (fun _ _ used => used)
          (refines.quiet running) ?_ fun _ _ _ _ => rfl)
      rintro _ ⟨⟩
      exact refines.shows.contents file (Reference.mem_slots present)
    · refine refines.refused (Operation.bind_pure_error.mpr ?_)
        ((Reference.onFile_present running present).trans (if_neg within))
      rw [seek_eq, if_pos on, held]
      exact if_pos (Nat.lt_of_not_le within)

theorem info (refines : Refines reference storage) (handle : Handle) :
    Agrees (.info handle) reference storage := by
  rcases refines.named handle with ⟨off, gone⟩ | ⟨on, running, ⟨absent, none⟩ | ⟨file, held, present⟩⟩
  · refine refines.refused (Operation.bind_pure_error.mpr ?_) (Reference.onFile_off gone)
    simp [info_eq, off]
  · refine refines.refused (Operation.bind_pure_error.mpr ?_) (Reference.onFile_absent running none)
    rw [info_eq, if_pos on, Registry.info_error absent]
  · refine .of_eq (respond_of_ok (Operation.bind_pure_ok.mpr ⟨_, ?_, rfl⟩))
      (Reference.onFile_present running present) refines.shows
    rw [info_eq, if_pos on, Registry.info_of_get? held]
    rfl

/-- The device is asked for the frames that the reference touches, and they hold what it expects. -/
theorem touched (refines : Refines reference storage)
    (present : reference.file? handle = some file) (count : Nat) :
    (covering file.stored storage.frameSize count).zip
        ((covering file.stored storage.frameSize count).map storage.transport.content) =
      reference.touched file count := by
  have contents := refines.shows.contents file (Reference.mem_slots present)
  rw [covering, List.map_take, List.map_drop, refines.frameSize]
  change (((file.frames.drop _).take _).zip (((file.frames.map _).drop _).take _)) = _
  simp only [contents, Reference.touched, Reference.pieces, List.zip, List.drop_zipWith,
    List.take_zipWith]
  rfl

/-- The frames that the cursor reaches hold the bytes wanted. -/
theorem window (refines : Refines reference storage)
    (present : reference.file? handle = some file) {wanted : Nat} (some : 0 < wanted)
    (more : file.position < file.content.length) :
    (((covering file.stored storage.frameSize (readable file.stored wanted)).map
        storage.transport.content).flatten.drop
          (file.position % storage.frameSize)).take (readable file.stored wanted) =
      (file.content.drop file.position).take
        (min wanted (file.content.length - file.position)) := by
  have contents := refines.shows.contents file (Reference.mem_slots present)
  have count : readable file.stored wanted =
      min wanted (file.content.length - file.position) := rfl
  rw [count, covering, List.map_take, List.map_drop]
  change ((((file.frames.map _).drop _).take _).flatten.drop _).take _ = _
  rw [contents, ← refines.frameSize]
  exact blocks_window refines.sound.positive (by omega) (by omega)

theorem read (refines : Refines reference storage) (handle : Handle) (wanted : Nat) :
    Agrees (.read handle wanted) reference storage := by
  have ending := read_run handle wanted storage
  generalize run : Storage.read handle wanted storage = result at ending
  cases ending with
  | off off =>
    have gone := refines.power off
    exact refines.refused (Operation.bind_pure_error.mpr run) (Reference.onFile_off gone)
  | invalid on absent =>
    have running := refines.power on
    exact refines.refused (Operation.bind_pure_error.mpr run)
      (Reference.onFile_absent running (refines.absent absent))
  | nothing on found zero =>
    have running := refines.power on
    obtain ⟨file, present, rfl⟩ := refines.held found
    exact .of_eq (respond_of_ok (Operation.bind_pure_ok.mpr ⟨_, run, rfl⟩))
      ((Reference.onFile_present running present).trans (if_pos zero)) refines.shows
  | atEnd on found some ended =>
    have running := refines.power on
    obtain ⟨file, present, rfl⟩ := refines.held found
    exact refines.refused (Operation.bind_pure_error.mpr run)
      ((Reference.onFile_present running present).trans
        ((if_neg (Nat.ne_of_gt some)).trans (if_pos ended)))
  | unread on found some more failed =>
    have running := refines.power on
    obtain ⟨file, present, rfl⟩ := refines.held found
    obtain ⟨cache, held⟩ := refines.sound.cache_of_on on
    obtain ⟨_, _, _, exact, _⟩ := readFrames_exact refines.coherent (refines.quiet running) held
      fun location member => (refines.laid present).inside location (Sound.covering_subset member)
    cases failed.symm.trans exact
  | done on found some more read =>
    have running := refines.power on
    obtain ⟨file, present, rfl⟩ := refines.held found
    obtain ⟨cache, held⟩ := refines.sound.cache_of_on on
    obtain ⟨_, transport, active, exact, rfl, quiet, same, _⟩ :=
      readFrames_exact refines.coherent (refines.quiet running) held
        fun location member => (refines.laid present).inside location (Sound.covering_subset member)
    cases read.symm.trans exact
    have contents := refines.shows.contents file (Reference.mem_slots present)
    have value := congrArg Reply.bytes (refines.window present some more)
    have answer : Reference.respond (.read handle wanted) reference =
        reference.readAt handle file wanted :=
      (Reference.onFile_present running present).trans
        ((if_neg (Nat.ne_of_gt some)).trans (if_neg (Nat.not_le.mpr more)))
    refine .of_eq (respond_of_ok (Operation.bind_pure_ok.mpr ⟨_, run, value⟩)) answer
      (refines.shows.updated rfl rfl rfl ?_ (fun _ _ used => used.readThroughAll _) quiet ?_
        fun _ _ _ _ => ?_)
    · rw [held, ← refines.touched present]
      rfl
    · rintro _ ⟨⟩
      rw [same.content]
      exact contents
    · rw [same.content]

theorem readToEnd (refines : Refines reference storage) (handle : Handle) :
    Agrees (.readToEnd handle) reference storage := by
  have run := readToEnd_eq handle storage
  rcases refines.named handle with ⟨off, gone⟩ | ⟨on, running, ⟨absent, none⟩ | ⟨file, held, present⟩⟩
  · refine refines.refused (Operation.bind_pure_error.mpr ?_) (Reference.onFile_off gone)
    rw [run, if_neg (by rw [off]; exact Bool.false_ne_true)]
  · refine refines.refused (Operation.bind_pure_error.mpr ?_) (Reference.onFile_absent running none)
    rw [run, if_pos on, absent]
  · rw [if_pos on, held] at run
    by_cases ended : file.content.length ≤ file.position
    · have nothing : Storage.readToEnd handle storage = .ok [] storage :=
        run.trans (if_pos (Nat.sub_eq_zero_of_le ended))
      exact .of_eq (respond_of_ok (Operation.bind_pure_ok.mpr ⟨_, nothing, rfl⟩))
        ((Reference.onFile_present running present).trans (if_pos ended)) refines.shows
    · -- what is left is read like any other number of bytes
      have left : file.content.length - file.position ≠ 0 := by omega
      have rest : Storage.readToEnd handle storage =
          Storage.read handle (file.content.length - file.position) storage :=
        run.trans (if_neg left)
      have sameRun : respond (.readToEnd handle) storage =
          respond (.read handle (file.content.length - file.position)) storage := by
        simp only [respond, perform, Operation.bind_apply, rest]
      have sameAnswer : Reference.respond (.readToEnd handle) reference =
          Reference.respond (.read handle (file.content.length - file.position)) reference :=
        ((Reference.onFile_present running present).trans (if_neg ended)).trans
          ((Reference.onFile_present running present).trans
            ((if_neg left).trans (if_neg ended))).symm
      have agrees := refines.read handle (file.content.length - file.position)
      exact ⟨by rw [sameRun, sameAnswer]; exact agrees.reply,
        by rw [sameRun, sameAnswer]; exact agrees.shows⟩

/-- New content finds the frames that the reference places it in. -/
theorem place (refines : Refines reference storage) (present : reference.file? handle = some file)
    (wanted : Nat) :
    (storage.table.releaseEach file.frames).firstFree wanted = reference.place handle wanted := by
  obtain ⟨shape, _⟩ := @Ownership.releaseEach_spec storage.table file.frames
  have shape := shape.trans refines.sound.shape
  rw [Ownership.firstFree_eq (by rw [shape]; exact refines.sound.valid), shape,
    refines.shows.config, Reference.place]
  congr 1
  refine List.filter_congr fun location _ => Bool.eq_iff_iff.mpr ?_
  rw [Option.isNone_iff_eq_none, List.all_eq_true]
  refine (refines.sound.books.unowned_iff (refines.present present)).trans ?_
  constructor
  · rintro apart ⟨other, second⟩ listed
    have found := refines.present (Reference.mem_files.mp listed)
    by_cases inside : location ∈ second.frames
    · simp [apart other second.stored found inside]
    · simp [inside]
  · intro apart other stored found inside
    obtain ⟨second, listed, rfl⟩ := refines.held found
    have inside : location ∈ second.frames := inside
    simpa [inside] using apart (other, second) (Reference.mem_files.mpr listed)

theorem place_nodup (refines : Refines reference storage)
    (present : reference.file? handle = some file) (wanted : Nat) :
    (reference.place handle wanted).Nodup := by
  rw [← refines.place present]
  exact Ownership.firstFree_nodup (refines.sound.valid_releaseEach file.frames) wanted

/-- No frame of another file is taken. -/
theorem place_apart (refines : Refines reference storage)
    (present : reference.file? handle = some file) {wanted : Nat} {other : Handle}
    {second : ByteFile} {location : FrameLocation} (different : other ≠ handle)
    (listed : reference.file? other = some second) (inside : location ∈ second.frames) :
    location ∉ reference.place handle wanted := by
  intro taken
  obtain ⟨shape, _⟩ := @Ownership.releaseEach_spec storage.table file.frames
  rw [← refines.place present] at taken
  have unowned :=
    (Ownership.mem_firstFree (by rw [shape]; exact refines.sound.tableValid) taken).2
  exact different ((refines.sound.books.unowned_iff (refines.present present)).mp unowned other
    second.stored (refines.present listed) inside)

theorem contentAfter (refines : Refines reference storage)
    (present : reference.file? handle = some file) (data : Bytes) :
    file.stored.contentAfter (blocks file.content reference.frameSize) data =
      file.overwritten data := by
  have positive := refines.sound.positive
  have cursor : file.position ≤ file.content.length := (refines.laid present).cursor
  rw [refines.frameSize] at positive
  rw [ByteFile.overwritten_eq cursor]
  exact congrArg (splice · file.position data) (take_flatten_blocks positive file.content)

/-- New content needs no more frames than are free once the old ones are given up. -/
theorem room (refines : Refines reference storage) (present : reference.file? handle = some file)
    {data : Bytes} (starts : storage.Starts handle data file.stored) :
    framesFor (file.overwritten data).length reference.frameSize ≤
      (storage.table.releaseEach file.frames).free := by
  have cursor : file.position ≤ file.content.length := (refines.laid present).cursor
  rw [ByteFile.overwritten_eq cursor, length_splice cursor, ← refines.frameSize]
  exact refines.sound.room starts

/-- A write that finds the file and the room for the data goes through. -/
theorem rewrites (refines : Refines reference storage)
    (present : reference.file? handle = some file) {data content : Bytes}
    {targets : List FrameLocation} (starts : storage.Starts handle data file.stored)
    (written : content = file.overwritten data)
    (placed : targets = reference.place handle (framesFor content.length reference.frameSize)) :
    ∃ middle transport active,
      readFrames file.frames storage = .ok (blocks file.content reference.frameSize) middle ∧
      placeContent handle content
          { middle with table := middle.table.releaseEach file.frames } =
        .ok (targets, targets, .ok ()) { storage with
          transport
          active
          table := (storage.table.releaseEach file.frames).claimEach handle targets
          cache := storage.cache.map fun cache =>
            (cache.readThroughAll (reference.pieces file)).putAll
              (targets.zip (blocks content reference.frameSize)) } ∧
      transport.Quiet ∧ targets.length = framesFor content.length reference.frameSize ∧
      transport.content = (storage.transport.storeAll
        (targets.zip (blocks content reference.frameSize))).content := by
  have running := refines.power starts.on
  have laid := refines.laid present
  have contents : file.stored.frames.map storage.transport.content =
      blocks file.content reference.frameSize :=
    refines.shows.contents file (Reference.mem_slots present)
  obtain ⟨cache, held⟩ := refines.sound.cache_of_on starts.on
  obtain ⟨middle, transport, active, read, between, quiet, same, coherent⟩ :=
    readFrames_exact refines.coherent (refines.quiet running) held laid.inside
  have size : storage.frameSize = reference.frameSize := refines.frameSize
  rw [contents, ← size] at read between
  subst between
  obtain ⟨shape, within, _⟩ := @Ownership.releaseEach_spec storage.table file.frames
  have released : Coherent (fun device => device) [] { storage with
      transport
      active
      cache := some (cache.readThroughAll
        (file.frames.zip (blocks file.content storage.frameSize)))
      table := storage.table.releaseEach file.frames } :=
    coherent.framed
  have room := refines.room present starts
  rw [← written, ← size] at room
  rw [← size] at placed ⊢
  obtain ⟨last, lastActive, quiet, stored, count, run⟩ := placeContent_exact released rfl quiet
    refines.sound.valid (shape.trans refines.sound.shape) (within refines.sound.books.within) room
    (placed.trans (refines.place present _).symm)
  refine ⟨_, last, lastActive, read, ?_, quiet, count, ((same.storeAll _).trans stored).content⟩
  rw [held, Reference.pieces, ← size]
  exact run

theorem write (refines : Refines reference storage) (handle : Handle) (data : Bytes) :
    Agrees (.write handle data) reference storage := by
  have ending := refines.sound.write_run handle data
  generalize run : Storage.write handle data storage = result at ending
  cases ending with
  | off off =>
    have gone := refines.power off
    exact refines.refused (Operation.bind_pure_error.mpr run) (Reference.onFile_off gone)
  | invalid on absent =>
    have running := refines.power on
    exact refines.refused (Operation.bind_pure_error.mpr run)
      (Reference.onFile_absent running (refines.absent absent))
  | nothing on found empty =>
    have running := refines.power on
    obtain ⟨file, present, rfl⟩ := refines.held found
    exact .of_eq (respond_of_ok (Operation.bind_pure_ok.mpr ⟨_, run, rfl⟩))
      ((Reference.onFile_present running present).trans (if_pos empty)) refines.shows
  | full on found some grows few =>
    have running := refines.power on
    obtain ⟨file, present, rfl⟩ := refines.held found
    rw [refines.free, refines.frameSize] at run few
    exact refines.refused (Operation.bind_pure_error.mpr run)
      ((Reference.onFile_present running present).trans
        ((if_neg some).trans (if_pos ⟨grows, few⟩)))
  | unread starts failed =>
    obtain ⟨file, present, rfl⟩ := refines.held starts.present
    obtain ⟨_, _, _, read, _⟩ := refines.rewrites present starts rfl rfl
    cases failed.symm.trans read
  | unstored starts read failed =>
    obtain ⟨file, present, rfl⟩ := refines.held starts.present
    obtain ⟨_, _, _, exact, placed, _⟩ := refines.rewrites present starts rfl rfl
    cases read.symm.trans exact
    rw [refines.contentAfter present] at failed
    cases failed.symm.trans placed
  | stored starts read written =>
    have running := refines.power starts.on
    obtain ⟨file, present, rfl⟩ := refines.held starts.present
    obtain ⟨_, transport, active, exact, placed, quiet, count, contents⟩ :=
      refines.rewrites present starts rfl rfl
    cases read.symm.trans exact
    rw [refines.contentAfter present] at written run
    cases written.symm.trans placed
    have positive := refines.sound.positive
    have room := starts.room
    rw [refines.frameSize] at positive
    rw [refines.frameSize, refines.free] at room
    have answer : Reference.respond (.write handle data) reference =
        reference.writeAt handle file data :=
      (Reference.onFile_present running present).trans ((if_neg starts.nonempty).trans
        (if_neg fun full => Nat.not_lt.mpr (room full.1) full.2))
    have sameCount := count.trans (length_blocks positive _).symm
    refine .of_eq (respond_of_ok (Operation.bind_pure_ok.mpr ⟨_, run, rfl⟩)) answer
      (refines.shows.updated rfl rfl rfl ?_
        (fun _ _ used => ((used.readThroughAll _).putAll _).invalidateAll _) quiet ?_
        fun other second different listed => ?_)
    · rw [givenUp_eq_filter, Option.map_map]
      rfl
    · rintro _ ⟨⟩
      rw [contents]
      exact Device.map_content_storeAll (refines.place_nodup present _) sameCount
    · rw [contents]
      refine List.map_congr_left fun location inside => Device.content_storeAll_of_notMem ?_
      rw [List.map_fst_zip (Nat.le_of_eq sameCount)]
      exact refines.place_apart present different listed inside

end CartridgeBank.Storage.Refines
