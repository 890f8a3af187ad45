import CartridgeBank.Proofs.Powering
import CartridgeBank.Proofs.Storing

namespace CartridgeBank

/-- A call of the interface of a storage. -/
inductive Call where
  | powerOn
  | powerOff
  | openFile (name : String)
  | closeFile (handle : Handle)
  | read (handle : Handle) (wanted : Nat)
  | readToEnd (handle : Handle)
  | write (handle : Handle) (data : Bytes)
  | seek (handle : Handle) (offset : Nat)
  | info (handle : Handle)
  | lookup (name : String)
  | openFiles
  | stats
  | setCacheFrames (frames : Nat)
deriving DecidableEq, Repr

/-- What a successful call returns. -/
inductive Reply where
  | done
  | handle (handle : Handle)
  | bytes (bytes : Bytes)
  | written (count : Nat)
  | info (info : FileInfo)
  | found (handle : Option Handle)
  | files (infos : List FileInfo)
  | stats (stats : StorageStats)
deriving DecidableEq, Repr

namespace Storage

variable {σ : Type} [Transport σ]

def perform : Call → Operation σ Reply
  | .powerOn => do
    powerOn
    return .done
  | .powerOff => do
    powerOff
    return .done
  | .openFile name => return .handle (← openFile name)
  | .closeFile handle => do
    closeFile handle
    return .done
  | .read handle wanted => return .bytes (← read handle wanted)
  | .readToEnd handle => return .bytes (← readToEnd handle)
  | .write handle data => return .written (← write handle data)
  | .seek handle offset => do
    seek handle offset
    return .done
  | .info handle => return .info (← info handle)
  | .lookup name => return .found ((← get).lookup? name)
  | .openFiles => return .files (← get).openFiles
  | .stats => return .stats (← get).stats
  | .setCacheFrames frames => do
    setCacheFrames frames
    return .done

/-- What a call returns, and the storage it leaves. -/
def respond (call : Call) (storage : Storage σ) : Except Fault Reply × Storage σ :=
  match perform call storage with
  | .ok reply next => (.ok reply, next)
  | .error fault next => (.error fault, next)

/-- Makes calls one after the other, whether they succeed or not. -/
def respondAll : List Call → Storage σ → List (Except Fault Reply) × Storage σ
  | [], storage => ([], storage)
  | call :: rest, storage =>
    let (reply, next) := respond call storage
    let (replies, last) := respondAll rest next
    (reply :: replies, last)

omit [Transport σ] in
/-- A new storage comes from a configuration that passes its check, and has no other state. -/
theorem create_eq_ok_iff {config : Config} {transport : σ} {storage : Storage σ} :
    create config transport = .ok storage ↔ config.validate = .ok () ∧
      storage = { config, transport, table := Ownership.ofGeometry config.geometry } := by
  unfold create
  cases config.validate with
  | error fault => exact ⟨nofun, nofun⟩
  | ok passed => exact ⟨fun made => ⟨rfl, (Except.ok.inj made).symm⟩, fun made => made.2 ▸ rfl⟩

/-- The states of a storage between calls. A new storage starts over a transport of the given kind,
and between two calls the transport may be meddled with in the given ways. -/
inductive Reached (starts : Config → σ → Prop) (meddles : σ → σ → Prop) : Storage σ → Prop
  | created {config : Config} {transport : σ} {storage : Storage σ} : starts config transport →
      create config transport = .ok storage → Reached starts meddles storage
  | called {storage : Storage σ} (call : Call) : Reached starts meddles storage →
      Reached starts meddles (respond call storage).2
  | meddled {storage : Storage σ} {transport : σ} : Reached starts meddles storage →
      meddles storage.transport transport → Reached starts meddles { storage with transport }

section Single

omit [Transport σ]

variable {storage : Storage σ}

theorem openFile_eq (name : String) :
    openFile name storage =
      if storage.poweredOn then
        match storage.files.insert name with
        | .ok (handle, files) => .ok handle { storage with files }
        | .error fault => .error fault storage
      else .error .notPoweredOn storage := by
  unfold openFile
  by_cases on : storage.poweredOn = true
  · simp only [Operation.bind_apply, ensurePowered_on on, Operation.get_apply, if_pos on]
    cases storage.files.insert name with
    | error fault => rfl
    | ok opened => simp only [require_ok, Operation.modify_apply, Operation.pure_apply]
  · simp [on]

theorem closeFile_eq (handle : Handle) :
    closeFile handle storage =
      if storage.poweredOn then
        match storage.files.erase handle with
        | .ok (file, files) => .ok () { storage with
            files
            table := (storage.table.releaseAll handle).2
            cache := storage.cache.map (·.invalidateAll file.frames) }
        | .error fault => .error fault storage
      else .error .notPoweredOn storage := by
  unfold closeFile
  by_cases on : storage.poweredOn = true
  · simp only [Operation.bind_apply, ensurePowered_on on, Operation.get_apply, if_pos on]
    cases storage.files.erase handle with
    | error fault => rfl
    | ok closed => simp only [require_ok, Operation.modify_apply, forM_invalidate]
  · simp [on]

theorem info_eq (handle : Handle) :
    info handle storage =
      if storage.poweredOn then
        match storage.files.info handle with
        | .ok info => .ok info storage
        | .error fault => .error fault storage
      else .error .notPoweredOn storage := by
  unfold info
  by_cases on : storage.poweredOn = true
  · simp only [Operation.bind_apply, ensurePowered_on on, Operation.get_apply, if_pos on]
    cases storage.files.info handle <;> rfl
  · simp [on]

theorem seek_eq (handle : Handle) (offset : Nat) :
    seek handle offset storage =
      if storage.poweredOn then
        match storage.files.get? handle with
        | some file =>
          if file.length < offset then .error (.invalidSeek offset file.length) storage
          else .ok () { storage with
            files := storage.files.update handle { file with position := offset } }
        | none => .error (.invalidHandle handle) storage
      else .error .notPoweredOn storage := by
  unfold seek
  by_cases on : storage.poweredOn = true
  · simp only [Operation.bind_apply, ensurePowered_on on, Operation.get_apply, if_pos on]
    cases present : storage.files.get? handle with
    | none => simp only [Registry.get_error present, require_error]
    | some file =>
      rw [Registry.get_of_get? present, require_ok]
      by_cases beyond : file.length < offset <;> simp [beyond]
  · simp [on]

theorem setCacheFrames_eq (frames : Nat) :
    setCacheFrames frames storage =
      if storage.cache.isSome then .error .cacheInUse storage
      else if frames = 0 ∨ maxCacheFrames < frames then .error (.invalidCacheSize frames) storage
      else .ok () { storage with config := { storage.config with cacheFrames := frames } } := by
  unfold setCacheFrames
  by_cases inUse : storage.cache.isSome
  · simp [inUse]
  · by_cases impossible : frames = 0 ∨ maxCacheFrames < frames <;> simp [inUse, impossible]

theorem openFile_after (name : String) :
    ∃ files, (openFile name).after storage = { storage with files } := by
  unfold Operation.after
  rw [openFile_eq]
  by_cases on : storage.poweredOn = true
  · rw [if_pos on]
    cases storage.files.insert name <;> exact ⟨_, rfl⟩
  · rw [if_neg on]
    exact ⟨_, rfl⟩

theorem closeFile_after (handle : Handle) :
    ∃ files table locations, (closeFile handle).after storage = { storage with
      files, table, cache := storage.cache.map (·.invalidateAll locations) } := by
  have nothing : storage = { storage with cache := storage.cache.map (·.invalidateAll []) } := by
    simp [FrameCache.invalidateAll]
  unfold Operation.after
  rw [closeFile_eq]
  by_cases on : storage.poweredOn = true
  · rw [if_pos on]
    cases storage.files.erase handle with
    | error fault => exact ⟨_, _, _, nothing⟩
    | ok closed => exact ⟨_, _, _, rfl⟩
  · rw [if_neg on]
    exact ⟨_, _, _, nothing⟩

theorem seek_after (handle : Handle) (offset : Nat) :
    ∃ files, (seek handle offset).after storage = { storage with files } := by
  unfold Operation.after
  rw [seek_eq]
  by_cases on : storage.poweredOn = true
  · rw [if_pos on]
    cases storage.files.get? handle with
    | none => exact ⟨_, rfl⟩
    | some file =>
      by_cases beyond : file.length < offset
      · simp only [if_pos beyond]
        exact ⟨_, rfl⟩
      · simp only [if_neg beyond]
        exact ⟨_, rfl⟩
  · rw [if_neg on]
    exact ⟨_, rfl⟩

theorem setCacheFrames_after (frames : Nat) :
    (setCacheFrames frames).after storage = storage ∨
      storage.cache = none ∧ (setCacheFrames frames).after storage =
        { storage with config := { storage.config with cacheFrames := frames } } := by
  unfold Operation.after
  rw [setCacheFrames_eq]
  by_cases inUse : storage.cache.isSome = true
  · rw [if_pos inUse]
    exact Or.inl rfl
  · by_cases impossible : frames = 0 ∨ maxCacheFrames < frames
    · rw [if_neg inUse, if_pos impossible]
      exact Or.inl rfl
    · rw [if_neg inUse, if_neg impossible]
      exact Or.inr ⟨by simpa using inUse, rfl⟩

theorem info_after (handle : Handle) :
    (info handle).after storage = storage := by
  unfold Operation.after
  rw [info_eq]
  by_cases on : storage.poweredOn = true
  · rw [if_pos on]
    cases storage.files.info handle <;> rfl
  · rw [if_neg on]

end Single

/-- How many bytes a read of that many wanted ones returns. -/
def readable (file : OpenFile) (wanted : Nat) : Nat := min wanted (file.length - file.position)

/-- How a read ends: it is refused and nothing happens, there is nothing to read, a frame cannot be
read, or it succeeds. -/
inductive ReadRun (handle : Handle) (wanted : Nat) (storage : Storage σ) :
    EStateM.Result Fault (Storage σ) Bytes → Prop
  | off : storage.poweredOn = false → ReadRun handle wanted storage (.error .notPoweredOn storage)
  | invalid : storage.poweredOn = true → storage.files.get? handle = none →
      ReadRun handle wanted storage (.error (.invalidHandle handle) storage)
  | nothing {file : OpenFile} : storage.poweredOn = true →
      storage.files.get? handle = some file → wanted = 0 →
      ReadRun handle wanted storage (.ok [] storage)
  | atEnd {file : OpenFile} : storage.poweredOn = true →
      storage.files.get? handle = some file → 0 < wanted → file.length ≤ file.position →
      ReadRun handle wanted storage (.error .endOfFile storage)
  | unread {file : OpenFile} {fault : Fault} {next : Storage σ} : storage.poweredOn = true →
      storage.files.get? handle = some file → 0 < wanted → file.position < file.length →
      readFrames (covering file storage.frameSize (readable file wanted)) storage =
        .error fault next →
      ReadRun handle wanted storage (.error fault next)
  | done {file : OpenFile} {frames : List Bytes} {next : Storage σ} : storage.poweredOn = true →
      storage.files.get? handle = some file → 0 < wanted → file.position < file.length →
      readFrames (covering file storage.frameSize (readable file wanted)) storage =
        .ok frames next →
      ReadRun handle wanted storage
        (.ok ((frames.flatten.drop (file.position % storage.frameSize)).take (readable file wanted))
          { next with
            files := next.files.update handle
              { file with position := file.position + readable file wanted } })

theorem read_run (handle : Handle) (wanted : Nat) (storage : Storage σ) :
    ReadRun handle wanted storage (read handle wanted storage) := by
  unfold read
  cases on : storage.poweredOn with
  | false =>
    simp only [Operation.bind_apply, ensurePowered_off on]
    exact .off on
  | true =>
    simp only [Operation.bind_apply, ensurePowered_on on, Operation.get_apply]
    cases present : storage.files.get? handle with
    | none =>
      rw [Registry.get_error present, require_error]
      exact .invalid on present
    | some file =>
      rw [Registry.get_of_get? present, require_ok]
      dsimp only
      split
      · rename_i nothing
        exact .nothing on present nothing
      · rename_i something
        have some : 0 < wanted := Nat.pos_of_ne_zero something
        by_cases ended : file.length ≤ file.position
        · rw [if_pos ended]
          exact .atEnd on present some ended
        · rw [if_neg ended]
          simp only [Operation.bind_apply, Operation.get_apply]
          cases run : readFrames (covering file storage.frameSize (readable file wanted)) storage with
          | error fault next =>
            have started := run
            unfold readable at started
            rw [started]
            exact .unread on present some (Nat.lt_of_not_le ended) run
          | ok frames next =>
            have started := run
            unfold readable at started
            rw [started]
            exact .done on present some (Nat.lt_of_not_le ended) run

theorem readToEnd_eq (handle : Handle) (storage : Storage σ) :
    readToEnd handle storage =
      if storage.poweredOn then
        match storage.files.get? handle with
        | some file =>
          if file.length - file.position = 0 then .ok [] storage
          else read handle (file.length - file.position) storage
        | none => .error (.invalidHandle handle) storage
      else .error .notPoweredOn storage := by
  unfold readToEnd
  rw [Operation.bind_apply, info_eq]
  by_cases on : storage.poweredOn = true
  · rw [if_pos on, if_pos on]
    cases present : storage.files.get? handle with
    | none => simp [Registry.info_error present]
    | some file =>
      rw [Registry.info_of_get? present]
      by_cases atEnd : file.length - file.position = 0 <;> simp [OpenFile.info, atEnd]
  · rw [if_neg on, if_neg on]

theorem read_off {storage : Storage σ} (handle : Handle) (wanted : Nat)
    (off : storage.poweredOn = false) :
    read handle wanted storage = .error .notPoweredOn storage := by
  simp only [read, Operation.bind_apply, ensurePowered_off off]

theorem readToEnd_off {storage : Storage σ} (handle : Handle) (off : storage.poweredOn = false) :
    readToEnd handle storage = .error .notPoweredOn storage := by
  simp only [readToEnd, info, Operation.bind_apply, ensurePowered_off off]

theorem write_off {storage : Storage σ} (handle : Handle) (data : Bytes)
    (off : storage.poweredOn = false) :
    write handle data storage = .error .notPoweredOn storage := by
  simp only [write, Operation.bind_apply, ensurePowered_off off]

theorem readToEnd_after (handle : Handle) (storage : Storage σ) :
    (readToEnd handle).after storage = storage ∨
      ∃ wanted, (readToEnd handle).after storage = (read handle wanted).after storage := by
  unfold Operation.after
  rw [readToEnd_eq]
  by_cases on : storage.poweredOn = true
  · rw [if_pos on]
    cases storage.files.get? handle with
    | none => exact Or.inl rfl
    | some file =>
      by_cases atEnd : file.length - file.position = 0
      · simp only [if_pos atEnd]
        exact Or.inl trivial
      · simp only [if_neg atEnd]
        exact Or.inr ⟨_, rfl⟩
  · rw [if_neg on]
    exact Or.inl rfl

theorem respond_snd (call : Call) (storage : Storage σ) :
    (respond call storage).2 = (perform call).after storage := by
  unfold respond Operation.after
  cases perform call storage <;> rfl

theorem respond_of_ok {call : Call} {storage next : Storage σ} {reply : Reply}
    (run : perform call storage = .ok reply next) : respond call storage = (.ok reply, next) := by
  simp only [respond, run]

theorem respond_of_error {call : Call} {storage next : Storage σ} {fault : Fault}
    (run : perform call storage = .error fault next) :
    respond call storage = (.error fault, next) := by
  simp only [respond, run]

theorem respond_ok {call : Call} {storage : Storage σ} {reply : Reply}
    (success : (respond call storage).1 = .ok reply) :
    perform call storage = .ok reply (respond call storage).2 := by
  unfold respond at success ⊢
  cases run : perform call storage with
  | ok other next =>
    rw [run] at success
    cases success
    rfl
  | error fault next =>
    rw [run] at success
    cases success

theorem respond_error {call : Call} {storage : Storage σ} {fault : Fault}
    (failed : (respond call storage).1 = .error fault) :
    perform call storage = .error fault (respond call storage).2 := by
  unfold respond at failed ⊢
  cases run : perform call storage with
  | ok reply next =>
    rw [run] at failed
    cases failed
  | error other next =>
    rw [run] at failed
    cases failed
    rfl

/-- What every operation keeps, every call keeps. -/
theorem respond_keeps {storage : Storage σ} (keeps : Storage σ → Prop) (start : keeps storage)
    (onPowerOn : keeps (powerOn.after storage)) (onPowerOff : keeps (powerOff.after storage))
    (onOpen : ∀ name, keeps ((openFile name).after storage))
    (onClose : ∀ handle, keeps ((closeFile handle).after storage))
    (onRead : ∀ handle wanted, keeps ((read handle wanted).after storage))
    (onWrite : ∀ handle data, keeps ((write handle data).after storage))
    (onSeek : ∀ handle offset, keeps ((seek handle offset).after storage))
    (onSetCacheFrames : ∀ frames, keeps ((setCacheFrames frames).after storage)) (call : Call) :
    keeps (respond call storage).2 := by
  have discarding {α β : Type} (operation : Operation σ α) (function : α → β)
      (kept : keeps (operation.after storage)) :
      keeps ((do return function (← operation) : Operation σ β).after storage) := by
    rwa [Operation.after_bind_pure]
  rw [respond_snd]
  cases call with
  | powerOn => exact discarding _ _ onPowerOn
  | powerOff => exact discarding _ _ onPowerOff
  | openFile name => exact discarding _ _ (onOpen name)
  | closeFile handle => exact discarding _ _ (onClose handle)
  | read handle wanted => exact discarding _ _ (onRead handle wanted)
  | readToEnd handle =>
    refine discarding _ _ ?_
    rcases readToEnd_after handle storage with same | ⟨wanted, same⟩
    · rwa [same]
    · rw [same]
      exact onRead handle wanted
  | write handle data => exact discarding _ _ (onWrite handle data)
  | seek handle offset => exact discarding _ _ (onSeek handle offset)
  | info handle =>
    refine discarding _ _ ?_
    rwa [info_after]
  | lookup name => exact start
  | openFiles => exact start
  | stats => exact start
  | setCacheFrames frames => exact discarding _ _ (onSetCacheFrames frames)

theorem Reached.all {starts : Config → σ → Prop} {meddles : σ → σ → Prop} {storage : Storage σ}
    (reached : Reached starts meddles storage) (calls : List Call) :
    Reached starts meddles (respondAll calls storage).2 := by
  induction calls generalizing storage with
  | nil => exact reached
  | cons call rest ih => exact ih (reached.called call)

end Storage

end CartridgeBank
