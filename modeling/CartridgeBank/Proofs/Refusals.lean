import CartridgeBank.Proofs.Coupling
import CartridgeBank.Proofs.FaultKinds
import CartridgeBank.Proofs.Soundness

namespace CartridgeBank

/-- Faults that speak of a single frame: where it lies, who owns it, how long it is. -/
def Fault.OfFrame : Fault → Prop
  | .outsideGeometry _ | .alreadyOwned _ | .wrongFrameSize .. => True
  | _ => False

namespace Storage

section Reasons

variable {σ τ : Type}

/-- Why a call on an open file is refused: the storage is off, there is no such file, or the file does
not allow it. -/
def fileRefusal? (storage : Storage σ) (handle : Handle) (objection? : OpenFile → Option Fault) :
    Option Fault :=
  if storage.poweredOn then
    match storage.files.get? handle with
    | none => some (.invalidHandle handle)
    | some file => objection? file
  else some .notPoweredOn

section FileRefusal

variable {storage : Storage σ} {handle : Handle} {objection? : OpenFile → Option Fault}

theorem fileRefusal?_off (off : storage.poweredOn = false) :
    storage.fileRefusal? handle objection? = some .notPoweredOn := by
  simp only [fileRefusal?, off, Bool.false_eq_true, if_false]

theorem fileRefusal?_absent (on : storage.poweredOn = true)
    (absent : storage.files.get? handle = none) :
    storage.fileRefusal? handle objection? = some (.invalidHandle handle) := by
  simp only [fileRefusal?, on, if_true, absent]

theorem fileRefusal?_kind {kind : Fault → Prop} {fault : Fault} (off : kind .notPoweredOn)
    (absent : kind (.invalidHandle handle))
    (objections : ∀ file fault, objection? file = some fault → kind fault)
    (refused : storage.fileRefusal? handle objection? = some fault) : kind fault := by
  unfold fileRefusal? at refused
  split at refused
  · split at refused
    · cases refused
      exact absent
    · exact objections _ _ refused
  · cases refused
    exact off

theorem fileRefusal?_present {file : OpenFile} (on : storage.poweredOn = true)
    (present : storage.files.get? handle = some file) :
    storage.fileRefusal? handle objection? = objection? file := by
  simp only [fileRefusal?, on, if_true, present]

end FileRefusal

/-- Why a call is refused without a request, if it is. -/
def refusal? (storage : Storage σ) : Call → Option Fault
  | .powerOn =>
    if storage.poweredOn then some .alreadyPoweredOn
    else match FrameCache.ofCapacity storage.config.cacheFrames with
      | .error fault => some fault
      | .ok _ => none
  | .powerOff => if storage.poweredOn then none else some .notPoweredOn
  | .openFile name =>
    if storage.poweredOn then
      if name = "" then some .emptyName
      else if storage.files.names.contains name then some (.duplicateFile name)
      else none
    else some .notPoweredOn
  | .read handle wanted => storage.fileRefusal? handle fun file =>
    if 0 < wanted ∧ file.length ≤ file.position then some .endOfFile else none
  | .write handle data => storage.fileRefusal? handle fun file =>
    if data ≠ [] ∧ file.length < file.position + data.length ∧
        storage.table.free < framesFor (file.length + data.length) storage.frameSize then
      some (.outOfSpace (framesFor (file.length + data.length) storage.frameSize)
        storage.table.free)
    else none
  | .seek handle offset => storage.fileRefusal? handle fun file =>
    if file.length < offset then some (.invalidSeek offset file.length) else none
  | .closeFile handle | .readToEnd handle | .info handle =>
    storage.fileRefusal? handle fun _ => none
  | .setCacheFrames frames =>
    if storage.cache.isSome then some .cacheInUse
    else if frames = 0 ∨ maxCacheFrames < frames then some (.invalidCacheSize frames)
    else none
  | .lookup _ | .openFiles | .stats => none

/-- No call is refused for what a table of owners says of a frame, nor for the size of a frame. -/
theorem refusal?_not_ofFrame {storage : Storage σ} {call : Call} {fault : Fault}
    (refused : storage.refusal? call = some fault) : ¬fault.OfFrame := by
  have guarded {condition : Prop} [Decidable condition] {reason fault : Fault}
      (fine : ¬reason.OfFrame) (held : (if condition then some reason else none) = some fault) :
      ¬fault.OfFrame := by
    split at held
    · cases held
      exact fine
    · cases held
  have onFile {handle : Handle} {objection? : OpenFile → Option Fault}
      (fine : ∀ file fault, objection? file = some fault → ¬fault.OfFrame)
      (held : storage.fileRefusal? handle objection? = some fault) : ¬fault.OfFrame :=
    fileRefusal?_kind id id fine held
  have never (file : OpenFile) (fault : Fault) (held : none = some fault) : ¬fault.OfFrame := by
    cases held
  cases call with
  | powerOn =>
    simp only [refusal?, FrameCache.ofCapacity] at refused
    split at refused
    · cases refused
      exact id
    · split at refused
      · rename_i failed
        split at failed <;> cases failed
        cases refused
        exact id
      · cases refused
  | powerOff =>
    simp only [refusal?] at refused
    split at refused <;> cases refused
    exact id
  | openFile name =>
    simp only [refusal?] at refused
    split at refused
    · split at refused
      · cases refused
        exact id
      · exact guarded id refused
    · cases refused
      exact id
  | setCacheFrames frames =>
    simp only [refusal?] at refused
    split at refused
    · cases refused
      exact id
    · exact guarded id refused
  | read handle wanted => exact onFile (fun file fault => guarded id) refused
  | write handle data => exact onFile (fun file fault => guarded id) refused
  | seek handle offset => exact onFile (fun file fault => guarded id) refused
  | closeFile handle => exact onFile never refused
  | readToEnd handle => exact onFile never refused
  | info handle => exact onFile never refused
  | lookup name => cases refused
  | openFiles => cases refused
  | stats => cases refused

/-- The transport has no part in it. -/
theorem refusal?_via (storage : Storage σ) (transport : τ) (call : Call) :
    (storage.via transport).refusal? call = storage.refusal? call := by
  cases call <;> rfl

theorem Sound.via {storage : Storage σ} (sound : storage.Sound) (transport : τ) :
    (storage.via transport).Sound :=
  ⟨sound.valid, sound.sized, sound.shape, sound.books, sound.power, sound.cached, sound.off⟩

end Reasons

/-- How a call ends: it is refused for the given reason and nothing happens, or there is no such reason
and it fails for its transport or succeeds. -/
inductive Settles {σ α : Type} (reason : Option Fault) (storage : Storage σ) :
    EStateM.Result Fault (Storage σ) α → Prop
  | refused {fault : Fault} : reason = some fault → Settles reason storage (.error fault storage)
  | failed {fault : Fault} {next : Storage σ} : reason = none → fault.category = .transport →
      Settles reason storage (.error fault next)
  | done {value : α} {next : Storage σ} : reason = none → Settles reason storage (.ok value next)

theorem Settles.map {σ α β : Type} {reason : Option Fault} {storage : Storage σ}
    {operation : Operation σ α} {function : α → β}
    (settles : Settles reason storage (operation storage)) :
    Settles reason storage ((do return function (← operation) : Operation σ β) storage) := by
  rw [Operation.bind_apply]
  generalize operation storage = result at settles
  cases settles with
  | refused because => exact .refused because
  | failed free category => exact .failed free category
  | done free => exact .done free

/-- What there is a reason to refuse is refused. -/
theorem Settles.of_refused {σ α : Type} {fault : Fault} {storage : Storage σ}
    {result : EStateM.Result Fault (Storage σ) α} (settles : Settles (some fault) storage result) :
    result = .error fault storage := by
  cases settles with
  | refused because => rw [Option.some.inj because]
  | failed free => cases free
  | done free => cases free

namespace Sound

variable {σ : Type} [Transport σ] {storage : Storage σ}

theorem powerOn_settles (fails : Transport.FailsAsSuch σ) (storage : Storage σ) :
    Settles (storage.refusal? .powerOn) storage (Storage.powerOn storage) := by
  have ending := powerOn_run storage
  generalize Storage.powerOn storage = result at ending
  cases ending with
  | already on => exact .refused (by simp only [refusal?, on, if_true])
  | unsized off refused =>
    exact .refused (by simp only [refusal?, off, Bool.false_eq_true, if_false, refused])
  | failed off made run =>
    refine .failed ?_ (initializeDevice_fails fails _ _ _ run)
    simp only [refusal?, off, Bool.false_eq_true, if_false, made]
  | started off made run =>
    exact .done (by simp only [refusal?, off, Bool.false_eq_true, if_false, made])

theorem powerOff_settles (fails : Transport.FailsAsSuch σ) (storage : Storage σ) :
    Settles (storage.refusal? .powerOff) storage (Storage.powerOff storage) := by
  rw [powerOff_eq]
  by_cases on : storage.poweredOn = true
  · have free : storage.refusal? .powerOff = none := if_pos on
    rw [if_pos on]
    cases run : execute .powoff 0 0 none { storage.cleared with poweredOn := false } with
    | ok answer next => exact .done free
    | error fault next => exact .failed free (execute_fails fails _ _ _ _ _ _ _ run)
  · rw [if_neg on]
    exact .refused (if_neg on)

theorem read_settles (fails : Transport.FailsAsSuch σ) (storage : Storage σ) (handle : Handle)
    (wanted : Nat) :
    Settles (storage.refusal? (.read handle wanted)) storage (Storage.read handle wanted storage) := by
  have ending := read_run handle wanted storage
  generalize Storage.read handle wanted storage = result at ending
  cases ending with
  | off off => exact .refused (fileRefusal?_off off)
  | invalid on absent => exact .refused (fileRefusal?_absent on absent)
  | nothing on present zero =>
    exact .done ((fileRefusal?_present on present).trans (if_neg (by omega)))
  | atEnd on present some ended =>
    exact .refused ((fileRefusal?_present on present).trans (if_pos ⟨some, ended⟩))
  | unread on present some more run =>
    exact .failed ((fileRefusal?_present on present).trans (if_neg (by omega)))
      (readFrames_fails fails _ _ _ _ run)
  | done on present some more run =>
    exact .done ((fileRefusal?_present on present).trans (if_neg (by omega)))

theorem readToEnd_settles (fails : Transport.FailsAsSuch σ) (storage : Storage σ)
    (handle : Handle) :
    Settles (storage.refusal? (.readToEnd handle)) storage (Storage.readToEnd handle storage) := by
  rw [readToEnd_eq]
  cases on : storage.poweredOn with
  | false => exact .refused (fileRefusal?_off on)
  | true =>
    cases present : storage.files.get? handle with
    | none => exact .refused (fileRefusal?_absent on present)
    | some file =>
      have reason : storage.refusal? (.readToEnd handle) = none := fileRefusal?_present on present
      rw [reason]
      dsimp only
      rw [if_pos rfl]
      by_cases ended : file.length - file.position = 0
      · rw [if_pos ended]
        exact .done rfl
      · rw [if_neg ended]
        -- there is something left to read, so that the read cannot be refused
        have granted : storage.refusal? (.read handle (file.length - file.position)) = none :=
          (fileRefusal?_present on present).trans (if_neg (by omega))
        have settles := read_settles fails storage handle (file.length - file.position)
        rwa [granted] at settles

/-- A write finds room for all its frames once it has given up the old ones. -/
theorem unstored_fails (sound : storage.Sound) (fails : Transport.FailsAsSuch σ) {handle : Handle}
    {data : Bytes} {file : OpenFile} {frames : List Bytes} {middle next : Storage σ}
    {targets claimed : List FrameLocation} {fault : Fault} (starts : storage.Starts handle data file)
    (read : readFrames file.frames storage = .ok frames middle)
    (placed : placeContent handle (file.contentAfter frames data)
      { middle with table := middle.table.releaseEach file.frames } =
        .ok (targets, claimed, .error fault) next) : fault.category = .transport := by
  obtain ⟨length, ordered, free, _⟩ := sound.rewritten starts read placed
  obtain ⟨transport, active, cache, rfl⟩ := readFrames_leaves read
  obtain ⟨shape, within, _⟩ := @Ownership.releaseEach_spec storage.table file.frames
  obtain ⟨found, ⟨few, _⟩ | ⟨enough, stored⟩⟩ := placeContent_ok placed
  · have room := sound.room starts
    rw [← length] at room
    rw [found, Ownership.length_firstFree (sound.valid_releaseEach file.frames)
      (within sound.books.within)] at few
    exact absurd few (Nat.not_lt.mpr (Nat.le_min.mpr ⟨Nat.le_refl _, room⟩))
  · have locations : (targets.zip (blocks (file.contentAfter frames data) storage.frameSize)).map
        Prod.fst = targets := by
      rw [found]
      exact firstFree_zip_blocks sound.positive _ _
    have distinct : targets.Nodup := ordered.imp FrameLocation.Precedes.ne
    rw [← locations] at distinct
    refine store_fails fails distinct (fun location member => ?_) (congrArg (·.2.1) stored)
    rw [locations] at member
    obtain ⟨inside, unowned⟩ := free location member
    exact ⟨by rw [shape, sound.shape]; exact inside, unowned⟩

theorem write_settles (sound : storage.Sound) (fails : Transport.FailsAsSuch σ) (handle : Handle)
    (data : Bytes) :
    Settles (storage.refusal? (.write handle data)) storage (Storage.write handle data storage) := by
  have ending := sound.write_run handle data
  generalize Storage.write handle data storage = result at ending
  have granted {file : OpenFile} (starts : storage.Starts handle data file) :
      storage.refusal? (.write handle data) = none :=
    (fileRefusal?_present starts.on starts.present).trans
      (if_neg fun full => Nat.not_lt.mpr (starts.room full.2.1) full.2.2)
  cases ending with
  | off off => exact .refused (fileRefusal?_off off)
  | invalid on absent => exact .refused (fileRefusal?_absent on absent)
  | nothing on present empty =>
    exact .done ((fileRefusal?_present on present).trans (if_neg fun full => full.1 empty))
  | full on present some grows few =>
    exact .refused ((fileRefusal?_present on present).trans (if_pos ⟨some, grows, few⟩))
  | unread starts run => exact .failed (granted starts) (readFrames_fails fails _ _ _ _ run)
  | unstored starts read placed =>
    exact .failed (granted starts) (sound.unstored_fails fails starts read placed)
  | stored starts read placed => exact .done (granted starts)

end Sound

section Single

variable {σ : Type} (storage : Storage σ)

theorem openFile_settles (name : String) :
    Settles (storage.refusal? (.openFile name)) storage (openFile name storage) := by
  rw [openFile_eq]
  by_cases on : storage.poweredOn = true
  · rw [if_pos on, Registry.insert]
    by_cases unnamed : name = ""
    · rw [if_pos unnamed]
      exact .refused (by simp only [refusal?, on, unnamed, if_true])
    · rw [if_neg unnamed]
      by_cases inUse : storage.files.names.contains name = true
      · rw [if_pos inUse]
        exact .refused (by simp only [refusal?, on, unnamed, inUse, if_true, if_false])
      · rw [if_neg inUse]
        exact .done (by
          simp only [refusal?, on, unnamed, inUse, if_true, if_false, Bool.false_eq_true])
  · rw [if_neg on]
    exact .refused (if_neg on)

theorem closeFile_settles (handle : Handle) :
    Settles (storage.refusal? (.closeFile handle)) storage (closeFile handle storage) := by
  rw [closeFile_eq]
  cases on : storage.poweredOn with
  | false => exact .refused (fileRefusal?_off on)
  | true =>
    rw [if_pos rfl, Registry.erase]
    cases present : storage.files.get? handle with
    | none => exact .refused (fileRefusal?_absent on present)
    | some file => exact .done (fileRefusal?_present on present)

theorem seek_settles (handle : Handle) (offset : Nat) :
    Settles (storage.refusal? (.seek handle offset)) storage (seek handle offset storage) := by
  rw [seek_eq]
  cases on : storage.poweredOn with
  | false => exact .refused (fileRefusal?_off on)
  | true =>
    rw [if_pos rfl]
    cases present : storage.files.get? handle with
    | none => exact .refused (fileRefusal?_absent on present)
    | some file =>
      by_cases beyond : file.length < offset
      · simp only [if_pos beyond]
        exact .refused ((fileRefusal?_present on present).trans (if_pos beyond))
      · simp only [if_neg beyond]
        exact .done ((fileRefusal?_present on present).trans (if_neg beyond))

theorem info_settles (handle : Handle) :
    Settles (storage.refusal? (.info handle)) storage (info handle storage) := by
  rw [info_eq]
  cases on : storage.poweredOn with
  | false => exact .refused (fileRefusal?_off on)
  | true =>
    rw [if_pos rfl]
    cases present : storage.files.get? handle with
    | none =>
      rw [Registry.info_error present]
      exact .refused (fileRefusal?_absent on present)
    | some file =>
      rw [Registry.info_of_get? present]
      exact .done (fileRefusal?_present on present)

theorem setCacheFrames_settles (frames : Nat) :
    Settles (storage.refusal? (.setCacheFrames frames)) storage (setCacheFrames frames storage) := by
  rw [setCacheFrames_eq]
  by_cases inUse : storage.cache.isSome = true
  · rw [if_pos inUse]
    exact .refused (if_pos inUse)
  · rw [if_neg inUse]
    by_cases impossible : frames = 0 ∨ maxCacheFrames < frames
    · rw [if_pos impossible]
      exact .refused ((if_neg inUse).trans (if_pos impossible))
    · rw [if_neg impossible]
      exact .done ((if_neg inUse).trans (if_neg impossible))

end Single

variable {σ : Type} [Transport σ] {storage : Storage σ}

/-- Every call is refused at once for one of the given reasons, or fails for its transport, or
succeeds. -/
theorem Sound.settles (sound : storage.Sound) (fails : Transport.FailsAsSuch σ) (call : Call) :
    Settles (storage.refusal? call) storage (perform call storage) := by
  cases call with
  | powerOn => exact (powerOn_settles fails storage).map
  | powerOff => exact (powerOff_settles fails storage).map
  | openFile name => exact (openFile_settles storage name).map
  | closeFile handle => exact (closeFile_settles storage handle).map
  | read handle wanted => exact (read_settles fails storage handle wanted).map
  | readToEnd handle => exact (readToEnd_settles fails storage handle).map
  | write handle data => exact (sound.write_settles fails handle data).map
  | seek handle offset => exact (seek_settles storage handle offset).map
  | info handle => exact (info_settles storage handle).map
  | lookup name => exact .done rfl
  | openFiles => exact .done rfl
  | stats => exact .done rfl
  | setCacheFrames frames => exact (setCacheFrames_settles storage frames).map

/-- A call that fails, but not for its transport, has changed nothing at all, and has sent no request:
it is refused over a transport that keeps a record of requests, and the record stays as it is. No call
fails for what the storage itself asks of single frames. -/
theorem Reached.rejected_untouched (fails : Transport.FailsAsSuch σ)
    (reached : Reached (fun _ _ => True) (fun _ _ => True) storage) {call : Call} {fault : Fault}
    (rejected : (respond call storage).1 = .error fault) :
    (fault.category ≠ .transport → (respond call storage).2 = storage ∧
      ∀ recorded : Recorded σ,
        respond call (storage.via recorded) = (.error fault, storage.via recorded)) ∧
      (∀ location, fault ≠ .outsideGeometry location ∧ fault ≠ .alreadyOwned location) ∧
      ∀ expected actual, fault ≠ .wrongFrameSize expected actual := by
  have sound := reached.sound
  have run := respond_error rejected
  have settles := sound.settles fails call
  rw [run] at settles
  generalize (respond call storage).2 = next at settles ⊢
  cases settles with
  | failed free category =>
    refine ⟨fun other => absurd category other, fun location => ⟨?_, ?_⟩, fun expected actual => ?_⟩
    all_goals
      rintro rfl
      cases category
  | refused because =>
    refine ⟨fun _ => ⟨rfl, fun recorded => ?_⟩, fun location => ⟨?_, ?_⟩, fun expected actual => ?_⟩
    · have again := (sound.via recorded).settles (Recorded.failsAsSuch fails) call
      rw [refusal?_via, because] at again
      exact respond_of_error (Settles.of_refused again)
    all_goals
      rintro rfl
      exact refusal?_not_ofFrame because trivial

/-- A file that takes three frames of the four. -/
def crowded : Storage Device :=
  twoByTwo { rdfrme := some 1 } [.powerOn, .openFile "a", .write ⟨0⟩ (List.replicate 12 1)]

/-- The content does not fit a second time, so that a write at its end is refused. -/
theorem Reached.rejected_untouched_crowded :
    (respond (.write ⟨0⟩ (List.replicate 8 2)) crowded).1 = .error (.outOfSpace 5 1) ∧
      (respond (.write ⟨0⟩ (List.replicate 8 2)) crowded).2 = crowded := by
  have reached : Reached (fun _ _ => True) (fun _ _ => True) crowded := twoByTwo_reached trivial _
  have rejected : (respond (.write ⟨0⟩ (List.replicate 8 2)) crowded).1 =
      .error (.outOfSpace 5 1) := by cbv
  obtain ⟨untouched, _⟩ := reached.rejected_untouched Device.failsAsSuch rejected
  exact ⟨rejected, (untouched (by decide)).1⟩

end Storage

end CartridgeBank
