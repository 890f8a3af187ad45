import CartridgeBank.Proofs.Soundness

namespace CartridgeBank

namespace Storage

variable {σ : Type} [Transport σ] {storage next : Storage σ} {handle : Handle} {fault : Fault}

/-- The files and the owners of all frames are as before. -/
def SameBooks (before after : Storage σ) : Prop :=
  after.files = before.files ∧ after.table = before.table

namespace Sound

theorem powerOn_error (sound : storage.Sound) (failed : Storage.powerOn storage = .error fault next) :
    storage.SameBooks next := by
  have ending := powerOn_run storage
  rw [failed] at ending
  cases ending with
  | already on => exact ⟨rfl, rfl⟩
  | unsized off refused => exact ⟨rfl, rfl⟩
  | failed off made run =>
    obtain ⟨transport, active, same⟩ :=
      @initializeDevice_after σ _ { storage.cleared with cache := some _ }
    obtain rfl := (Operation.after_of_error run).symm.trans same
    obtain ⟨noFiles, noOwners, _⟩ := sound.off off
    have blank : storage.table.reset = storage.table := by rw [noOwners]; rfl
    exact ⟨noFiles.symm, blank⟩

theorem read_error {wanted : Nat} (failed : Storage.read handle wanted storage = .error fault next) :
    storage.SameBooks next := by
  have ending := read_run handle wanted storage
  rw [failed] at ending
  cases ending with
  | off off => exact ⟨rfl, rfl⟩
  | invalid on absent => exact ⟨rfl, rfl⟩
  | atEnd on present some ended => exact ⟨rfl, rfl⟩
  | unread on present some more run =>
    obtain ⟨transport, active, cache, rfl⟩ := readFrames_leaves_error run
    exact ⟨rfl, rfl⟩

/-- A write that fails gives back what it claimed and takes back what it had given up. -/
theorem write_error (sound : storage.Sound) {data : Bytes}
    (failed : Storage.write handle data storage = .error fault next) : storage.SameBooks next := by
  have ending := sound.write_run handle data
  rw [failed] at ending
  cases ending with
  | off off => exact ⟨rfl, rfl⟩
  | invalid on absent => exact ⟨rfl, rfl⟩
  | full on present some grows few => exact ⟨rfl, rfl⟩
  | unread starts run =>
    obtain ⟨transport, active, cache, rfl⟩ := readFrames_leaves_error run
    exact ⟨rfl, rfl⟩
  | unstored starts run placed =>
    obtain ⟨_, _, free, prefixed, _, transport, active, cache, _, rfl⟩ :=
      sound.rewritten starts run placed
    refine ⟨rfl, Ownership.restored sound.tableValid sound.books.within
      (fun location member => sound.books.owner_eq starts.present member)
      fun location member => (free location (prefixed.subset member)).2⟩

theorem respond_error (sound : storage.Sound) {call : Call} (other : call ≠ .powerOff)
    (failed : (Storage.respond call storage).1 = .error fault) :
    storage.SameBooks (Storage.respond call storage).2 := by
  have run := Storage.respond_error failed
  generalize (Storage.respond call storage).2 = next at run
  cases call with
  | powerOn => exact sound.powerOn_error (Operation.bind_pure_error.mp run)
  | powerOff => exact absurd rfl other
  | openFile name =>
    have run := Operation.bind_pure_error.mp run
    rw [openFile_eq] at run
    split at run
    · split at run <;> cases run
      exact ⟨rfl, rfl⟩
    · cases run
      exact ⟨rfl, rfl⟩
  | closeFile handle =>
    have run := Operation.bind_pure_error.mp run
    rw [closeFile_eq] at run
    split at run
    · split at run <;> cases run
      exact ⟨rfl, rfl⟩
    · cases run
      exact ⟨rfl, rfl⟩
  | read handle wanted => exact read_error (Operation.bind_pure_error.mp run)
  | readToEnd handle =>
    have run := Operation.bind_pure_error.mp run
    rw [readToEnd_eq] at run
    split at run
    · split at run
      · split at run
        · cases run
        · exact read_error run
      · cases run
        exact ⟨rfl, rfl⟩
    · cases run
      exact ⟨rfl, rfl⟩
  | write handle data => exact sound.write_error (Operation.bind_pure_error.mp run)
  | seek handle offset =>
    have run := Operation.bind_pure_error.mp run
    rw [seek_eq] at run
    split at run
    · split at run
      · split at run <;> cases run
        exact ⟨rfl, rfl⟩
      · cases run
        exact ⟨rfl, rfl⟩
    · cases run
      exact ⟨rfl, rfl⟩
  | info handle =>
    have same := @info_after σ storage handle
    rw [Operation.after_of_error (Operation.bind_pure_error.mp run)] at same
    rw [same]
    exact ⟨rfl, rfl⟩
  | lookup name => cases run
  | openFiles => cases run
  | stats => cases run
  | setCacheFrames frames =>
    have run := Operation.bind_pure_error.mp run
    rw [setCacheFrames_eq] at run
    split at run
    · cases run
      exact ⟨rfl, rfl⟩
    · split at run <;> cases run
      exact ⟨rfl, rfl⟩

/-- A write that fails while it stores forgets the cached bytes of all frames it may have changed. -/
theorem write_unstored (sound : storage.Sound) {data : Bytes} {file : OpenFile}
    {frames : List Bytes} {middle emptied stored : Storage σ} {targets claimed : List FrameLocation}
    (starts : storage.Starts handle data file)
    (read : readFrames file.frames storage = .ok frames middle)
    (released : file.frames.forM release middle = .ok () emptied)
    (placed : placeContent handle (file.contentAfter frames data) emptied =
      .ok (targets, claimed, .error fault) stored) :
    ∃ after cache, Storage.write handle data storage = .error fault after ∧
      after.cache = some cache ∧
      ∀ location ∈ file.frames ++ claimed, cache.contains location = false := by
  have inside := (sound.books.laid handle file starts.present).inside
  obtain ⟨transport, active, cache, rfl⟩ := readFrames_leaves read
  rw [forM_release (by exact inside)] at released
  cases released
  have ending := sound.write_run handle data
  generalize Storage.write handle data storage = result at ending
  cases ending with
  | off off => exact Bool.noConfusion (starts.on.symm.trans off)
  | invalid on absent => cases starts.present.symm.trans absent
  | nothing on present empty => exact absurd empty starts.nonempty
  | full on present some grows few =>
    obtain rfl := Option.some.inj (starts.present.symm.trans present)
    exact absurd few (Nat.not_lt.mpr (starts.room grows))
  | unread again run =>
    obtain rfl := Option.some.inj (starts.present.symm.trans again.present)
    cases read.symm.trans run
  | stored again run finished =>
    obtain rfl := Option.some.inj (starts.present.symm.trans again.present)
    cases read.symm.trans run
    cases placed.symm.trans finished
  | unstored again run failed =>
    obtain rfl := Option.some.inj (starts.present.symm.trans again.present)
    cases read.symm.trans run
    cases placed.symm.trans failed
    obtain ⟨_, _, _, _, _, _, _, cache, keeps, rfl⟩ := sound.rewritten starts read placed
    refine ⟨_, _, rfl, rfl, fun location member => FrameCache.frame?_eq_none_iff.mp ?_⟩
    rw [FrameCache.frame?_invalidateAll keeps.distinct, if_pos]
    rw [List.mem_append] at member ⊢
    exact member.symm

end Sound

/-- A call that fails, except for power-off, leaves the files and the owners of all frames as they
were. If it is a write that has begun to store, then no frame that it may have changed is cached. -/
theorem Reached.atomic (reached : Reached (fun _ _ => True) (fun _ _ => True) storage) :
    (∀ call fault, call ≠ .powerOff → (respond call storage).1 = .error fault →
      (respond call storage).2.files = storage.files ∧
        (respond call storage).2.table = storage.table) ∧
      ∀ handle data file frames middle emptied targets claimed fault stored,
        storage.Starts handle data file →
        readFrames file.frames storage = .ok frames middle →
        file.frames.forM release middle = .ok () emptied →
        placeContent handle (file.contentAfter frames data) emptied =
          .ok (targets, claimed, .error fault) stored →
        (respond (.write handle data) storage).1 = .error fault ∧
          ∃ cache, (respond (.write handle data) storage).2.cache = some cache ∧
            ∀ location ∈ file.frames ++ claimed, cache.contains location = false := by
  refine ⟨fun call fault other failed => reached.sound.respond_error other failed, ?_⟩
  intro handle data file frames middle emptied targets claimed fault stored starts read released
    placed
  obtain ⟨after, cache, run, held, forgotten⟩ :=
    reached.sound.write_unstored starts read released placed
  have whole : perform (.write handle data) storage = .error fault after :=
    Operation.bind_pure_error.mpr run
  unfold respond
  rw [whole]
  exact ⟨rfl, cache, held, forgotten⟩

/-- A file of two frames with a free frame before and behind them, over a device that will refuse the
fifth WRFRME from the start. -/
def enclosed : Storage Device :=
  twoByTwo { wrfrme := some 5 } [.powerOn, .openFile "a", .openFile "b", .write ⟨0⟩ [1, 2, 3, 4],
    .write ⟨1⟩ [1, 2, 3, 4, 5], .closeFile ⟨0⟩]

/-- That file. -/
def fiveBytes : OpenFile where
  name := "b"
  length := 5
  position := 5
  frames := [⟨0, 1⟩, ⟨1, 0⟩]

/-- An append would move the file up by one frame, into the free one before it and the first of its
own. The device refuses the second of them: the file has its two frames as before, and none of the
three is cached. -/
theorem Reached.atomic_second_frame :
    enclosed.files.get? ⟨1⟩ = some fiveBytes ∧
      (enclosed.cache.any fun cache => cache.contains ⟨0, 1⟩ && cache.contains ⟨1, 0⟩) = true ∧
      SameBooks enclosed (respond (.write ⟨1⟩ [6]) enclosed).2 ∧
      (respond (.write ⟨1⟩ [6]) enclosed).2.files.get? ⟨1⟩ = some fiveBytes ∧
      (respond (.write ⟨1⟩ [6]) enclosed).2.table.ownedBy ⟨1⟩ = [⟨0, 1⟩, ⟨1, 0⟩] ∧
      (respond (.write ⟨1⟩ [6]) enclosed).2.table.freeFrames = [⟨0, 0⟩, ⟨1, 1⟩] ∧
      ∃ cache, (respond (.write ⟨1⟩ [6]) enclosed).2.cache = some cache ∧
        ∀ location ∈ [⟨0, 0⟩, ⟨0, 1⟩, ⟨1, 0⟩], cache.contains location = false := by
  have reached : Reached (fun _ _ => True) (fun _ _ => True) enclosed := twoByTwo_reached trivial _
  have present : enclosed.files.get? ⟨1⟩ = some fiveBytes := by cbv
  have owned : enclosed.table.ownedBy ⟨1⟩ = [⟨0, 1⟩, ⟨1, 0⟩] := by cbv
  have free : enclosed.table.freeFrames = [⟨0, 0⟩, ⟨1, 1⟩] := by cbv
  have failed : (respond (.write ⟨1⟩ [6]) enclosed).1 =
      .error (.deviceFailure .wrfrme ((Opcode.request .wrfrme 0 1).withRet true)) := by cbv
  have starts : enclosed.Starts ⟨1⟩ [6] fiveBytes :=
    ⟨by cbv, present, List.cons_ne_nil _ _, fun _ => by cbv⟩
  have frames : EStateM.run' (readFrames fiveBytes.frames) enclosed =
      some [[1, 2, 3, 4], [5, 0, 0, 0]] := by cbv
  obtain ⟨middle, read⟩ := Operation.ok_of_run frames
  obtain rfl := Operation.after_of_ok read
  have given : EStateM.run' (fiveBytes.frames.forM release)
      ((readFrames fiveBytes.frames).after enclosed) = some () := by cbv
  obtain ⟨emptied, released⟩ := Operation.ok_of_run given
  obtain rfl := Operation.after_of_ok released
  have outcome : EStateM.run' (placeContent ⟨1⟩ [1, 2, 3, 4, 5, 6])
      ((fiveBytes.frames.forM release).after ((readFrames fiveBytes.frames).after enclosed)) =
        some ([⟨0, 0⟩, ⟨0, 1⟩], [⟨0, 0⟩, ⟨0, 1⟩],
          .error (.deviceFailure .wrfrme ((Opcode.request .wrfrme 0 1).withRet true))) := by cbv
  obtain ⟨stored, placed⟩ := Operation.ok_of_run outcome
  obtain ⟨kept, forgotten⟩ := reached.atomic
  have same := kept _ _ (by decide) failed
  obtain ⟨_, cache, held, absent⟩ := forgotten _ _ _ _ _ _ _ _ _ _ starts read released placed
  have among : [⟨0, 0⟩, ⟨0, 1⟩, ⟨1, 0⟩] ⊆ fiveBytes.frames ++ [⟨0, 0⟩, ⟨0, 1⟩] := by decide
  exact ⟨present, by cbv, same, by rw [same.1, present], by rw [same.2, owned],
    by rw [same.2, free], cache, held, fun location member => absent location (among member)⟩

end Storage

end CartridgeBank
