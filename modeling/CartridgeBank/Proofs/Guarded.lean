import CartridgeBank.Proofs.Calls

namespace CartridgeBank

/-- What a storage relies on never to happen. -/
inductive Breach where
  /-- A difference is below zero. -/
  | underflow
  /-- A sum or a product does not fit into 64 bits. -/
  | overflow
  | zeroDivisor
  /-- An index or a range lies outside of a list. -/
  | outOfRange
  /-- The tables of the storage do not agree. -/
  | inconsistent
deriving DecidableEq, Repr

namespace Checked

def add (a b : Nat) : Except Breach Nat :=
  if a + b < 2 ^ 64 then .ok (a + b) else .error .overflow

def mul (a b : Nat) : Except Breach Nat :=
  if a * b < 2 ^ 64 then .ok (a * b) else .error .overflow

def sub (a b : Nat) : Except Breach Nat := if b ≤ a then .ok (a - b) else .error .underflow

def div (a b : Nat) : Except Breach Nat := if b = 0 then .error .zeroDivisor else .ok (a / b)

def frames (bytes frameSize : Nat) : Except Breach Nat :=
  match framesFor? bytes frameSize with
  | none => .error .zeroDivisor
  | some frames => .ok frames

/-- The items from `start` on, up to `stop`. -/
def slice {α : Type} (items : List α) (start stop : Nat) : Except Breach (List α) :=
  if start ≤ stop ∧ stop ≤ items.length then .ok ((items.take stop).drop start)
  else .error .outOfRange

/-- Replaces the bytes from `start` on, up to `stop`, by as many others. -/
def overwrite (bytes : Bytes) (start stop : Nat) (data : Bytes) : Except Breach Bytes :=
  if start ≤ stop ∧ stop ≤ bytes.length ∧ data.length = stop - start then
    .ok (bytes.take start ++ data ++ bytes.drop stop)
  else .error .outOfRange

theorem ok_bind {α β : Type} (value : α) (rest : α → Except Breach β) :
    (Except.ok value >>= rest) = rest value := rfl

theorem add_ok {a b : Nat} (fits : a + b < 2 ^ 64) : add a b = .ok (a + b) := if_pos fits

theorem mul_ok {a b : Nat} (fits : a * b < 2 ^ 64) : mul a b = .ok (a * b) := if_pos fits

theorem sub_ok {a b : Nat} (le : b ≤ a) : sub a b = .ok (a - b) := if_pos le

theorem div_ok {b : Nat} (positive : 0 < b) (a : Nat) : div a b = .ok (a / b) :=
  if_neg (Nat.ne_of_gt positive)

theorem frames_ok {frameSize : Nat} (positive : 0 < frameSize) (bytes : Nat) :
    frames bytes frameSize = .ok (framesFor bytes frameSize) := by
  simp only [frames, framesFor?, if_neg (Nat.ne_of_gt positive)]

theorem slice_ok {α : Type} {items : List α} {start stop : Nat} (ordered : start ≤ stop)
    (within : stop ≤ items.length) :
    slice items start stop = .ok ((items.drop start).take (stop - start)) := by
  rw [slice, if_pos ⟨ordered, within⟩, List.drop_take]

theorem overwrite_ok {bytes data : Bytes} {start stop : Nat} (filled : start + data.length = stop)
    (within : stop ≤ bytes.length) :
    overwrite bytes start stop data = .ok (Storage.splice bytes start data) := by
  subst filled
  rw [overwrite, if_pos ⟨Nat.le_add_right _ _, within, by omega⟩]
  rfl

end Checked

/-- Why a guarded step stops. -/
inductive Halt where
  | fault (fault : Fault)
  | breach (breach : Breach)
deriving DecidableEq, Repr

/-- A step on a storage that takes nothing for granted. -/
abbrev Guarded (σ : Type) := EStateM Halt (Storage σ)

namespace Guarded

variable {σ α β : Type}

/-- An operation as it is. -/
def plain (operation : Operation σ α) : Guarded σ α := fun storage =>
  match operation storage with
  | .ok value next => .ok value next
  | .error fault next => .error (.fault fault) next

/-- An operation whose fault is dealt with later. -/
def attempt (operation : Operation σ α) : Guarded σ (Except Fault α) := fun storage =>
  match operation storage with
  | .ok value next => .ok (.ok value) next
  | .error fault next => .ok (.error fault) next

def grant : Except Breach α → Guarded σ α
  | .ok value => pure value
  | .error breach => throw (.breach breach)

/-- A result that cannot be a fault, as long as the tables agree. -/
def agreed : Except Fault α → Guarded σ α
  | .ok value => pure value
  | .error _ => throw (.breach .inconsistent)

/-- A condition that holds as long as the tables agree. -/
def insist (condition : Prop) [Decidable condition] : Guarded σ Unit :=
  if condition then pure () else throw (.breach .inconsistent)

section Parts

variable {storage : Storage σ}

@[simp] theorem grant_ok (value : α) :
    (grant (.ok value) : Guarded σ α) storage = .ok value storage := rfl

@[simp] theorem agreed_ok (value : α) :
    (agreed (.ok value) : Guarded σ α) storage = .ok value storage := rfl

theorem insist_true {condition : Prop} [Decidable condition] (holds : condition) :
    (insist condition : Guarded σ Unit) storage = .ok () storage := by
  simp only [insist, if_pos holds, Operation.pure_apply]

theorem plain_ok {operation : Operation σ α} {value : α} {next : Storage σ}
    (run : operation storage = .ok value next) : plain operation storage = .ok value next := by
  simp only [plain, run]

theorem plain_error {operation : Operation σ α} {fault : Fault} {next : Storage σ}
    (run : operation storage = .error fault next) :
    plain operation storage = .error (.fault fault) next := by
  simp only [plain, run]

@[simp] theorem plain_require_ok (value : α) :
    (plain (Storage.require (.ok value)) : Guarded σ α) storage = .ok value storage := rfl

/-- A guarded step does what an operation does, and whatever it relies on holds. -/
def Follows (guarded : Guarded σ α) (operation : Operation σ α) (storage : Storage σ) : Prop :=
  guarded storage = plain operation storage ∧
    ∀ breach next, guarded storage ≠ .error (.breach breach) next

theorem follows_of_eq {guarded : Guarded σ α} {operation : Operation σ α}
    (same : guarded storage = plain operation storage) : guarded.Follows operation storage := by
  refine ⟨same, fun breach next => ?_⟩
  rw [same, plain]
  split <;> nofun

end Parts

/-- Takes a frame for a file. It must be free, and counted as such. -/
def claim (handle : Handle) (location : FrameLocation) : Guarded σ Unit := do
  let before := (← get).table
  let table ← agreed (before.claim location handle)
  let _ ← grant (Checked.sub before.free 1)
  modify fun storage => { storage with table }

/-- Gives a frame back. It must have an owner. -/
def release (location : FrameLocation) : Guarded σ Unit := do
  let (previous, table) ← agreed ((← get).table.release location)
  insist (previous.isSome = true)
  modify fun storage => { storage with table }

variable [Transport σ]

/-- Closes a file, whose frames must be just those that the table takes from it. -/
def closeFile (handle : Handle) : Guarded σ Unit := do
  plain Storage.ensurePowered
  let (file, files) ← plain (Storage.require ((← get).files.erase handle))
  let (released, table) := (← get).table.releaseAll handle
  modify fun storage => { storage with files, table }
  insist (released = file.frames.length)
  plain (file.frames.forM Storage.invalidate)

/-- The part of a file that a read copies. -/
structure Window where
  position : Nat
  count : Nat
  frameSize : Nat
  /-- The first frame that it touches. -/
  first : Nat

/-- Copies what a frame holds of a window into a buffer, behind the bytes that are copied already. The
frame is told by its distance from the first one. -/
def Window.copy (window : Window) (offset copied : Nat) (frame buffer : Bytes) :
    Except Breach (Nat × Bytes) := do
  let reached ← Checked.add window.position copied
  let index ← Checked.add window.first offset
  let passed ← Checked.mul index window.frameSize
  let start ← Checked.sub reached passed
  let left ← Checked.sub window.frameSize start
  let missing ← Checked.sub window.count copied
  let taken := min left missing
  let stop ← Checked.add start taken
  let piece ← Checked.slice frame start stop
  let filled ← Checked.add copied taken
  let buffer ← Checked.overwrite buffer copied filled piece
  return (filled, buffer)

/-- Reads frames one after the other and copies each into the buffer. -/
def copyFrames (window : Window) (offset copied : Nat) (buffer : Bytes) :
    List FrameLocation → Guarded σ (Nat × Bytes)
  | [] => return (copied, buffer)
  | location :: rest => do
    let frame ← plain (Storage.readFrame location)
    let (copied, buffer) ← grant (window.copy offset copied frame buffer)
    copyFrames window (offset + 1) copied buffer rest

/-- Copies bytes at the cursor into a buffer, up to its length, and moves the cursor behind them. -/
def read (handle : Handle) (buffer : Bytes) : Guarded σ (Nat × Bytes) := do
  plain Storage.ensurePowered
  let frameSize := (← get).frameSize
  let file ← plain (Storage.require ((← get).files.get handle))
  if buffer = [] then return (0, buffer)
  if file.length ≤ file.position then throw (.fault .endOfFile)
  let left ← grant (Checked.sub file.length file.position)
  let count := min buffer.length left
  let first ← grant (Checked.div file.position frameSize)
  let stop ← grant (Checked.add file.position count)
  let last ← grant (Checked.sub stop 1)
  let last ← grant (Checked.div last frameSize)
  let behind ← grant (Checked.add last 1)
  let covering ← grant (Checked.slice file.frames first behind)
  let (copied, buffer) ← copyFrames { position := file.position, count, frameSize, first } 0 0 buffer
    covering
  insist (copied = count)
  let file ← agreed ((← get).files.get handle)
  modify fun storage => { storage with
    files := storage.files.update handle { file with position := stop } }
  return (count, buffer)

/-- Reads into a buffer of zeros, which is then cut to what was read. -/
def readFresh (handle : Handle) (wanted : Nat) : Guarded σ Bytes := do
  let (count, buffer) ← read handle (List.replicate wanted 0)
  return buffer.take count

/-- Reads from the cursor to the end of the file. -/
def readToEnd (handle : Handle) : Guarded σ Bytes := do
  let file ← plain (Storage.info handle)
  let remaining ← grant (Checked.sub file.length file.position)
  if remaining = 0 then return []
  readFresh handle remaining

/-- Cuts bytes to a length, or fills them up to it with zeros. -/
def resize (bytes : Bytes) (length : Nat) : Bytes :=
  bytes.take length ++ List.replicate (length - bytes.length) 0

/-- Claims and writes frames one after the other up to the first fault of a request. Returns the frames
claimed and how it ended. -/
def store (handle : Handle) :
    List (FrameLocation × Bytes) → Guarded σ (List FrameLocation × Except Fault Unit)
  | [] => return ([], .ok ())
  | (location, frame) :: rest => do
    claim handle location
    match ← attempt (Storage.writeFrame location frame) with
    | .error fault => return ([location], .error fault)
    | .ok () =>
      let (claimed, result) ← store handle rest
      return (location :: claimed, result)

/-- Undoes a write that failed. -/
def rollBack (handle : Handle) (claimed old : List FrameLocation) : Guarded σ Unit := do
  claimed.forM fun location => do
    release location
    plain (Storage.invalidate location)
  old.forM fun location => do
    claim handle location
    plain (Storage.invalidate location)

/-- Fails unless a file has room to grow to a length. -/
def ensureRoom (file : OpenFile) (added length : Nat) : Guarded σ Unit := do
  if file.length < length then
    let needed ← grant (Checked.frames (file.length + added) (← get).frameSize)
    let available := (← get).table.free
    if available < needed then throw (.fault (.outOfSpace needed available))

/-- Stores content in the first free frames. These must be enough, and as many as the pieces that the
content is cut into. -/
def placeContent (handle : Handle) (content : Bytes) (needed : Nat) :
    Guarded σ (List FrameLocation × List FrameLocation × Except Fault Unit) := do
  let frameSize := (← get).frameSize
  let targets := (← get).table.firstFree needed
  insist (needed ≤ targets.length)
  let pieces := chunks content frameSize
  insist (pieces.length = targets.length)
  let (claimed, result) ← store handle (targets.zip (pieces.map (padFrame · frameSize)))
  return (targets, claimed, result)

/-- The part of a write behind its checks: reads the content back, gives up its frames, and stores the
new content, which is to have the given length and to end the data at `stop`. -/
def rewrite (handle : Handle) (file : OpenFile) (data : Bytes) (stop length needed : Nat) :
    Guarded σ Nat := do
  let frames ← plain (Storage.readFrames file.frames)
  let content := resize (resize frames.flatten file.length) length
  let content ← grant (Checked.overwrite content file.position stop data)
  file.frames.forM release
  let (targets, claimed, result) ← placeContent handle content needed
  match result with
  | .error fault =>
    rollBack handle claimed file.frames
    throw (.fault fault)
  | .ok () =>
    plain ((Storage.givenUp file.frames targets).forM Storage.invalidate)
    let file ← agreed ((← get).files.get handle)
    modify fun storage => { storage with
      files := storage.files.update handle { file with frames := targets, length, position := stop } }
    return data.length

/-- Writes at the cursor and moves it behind the data. -/
def write (handle : Handle) (data : Bytes) : Guarded σ Nat := do
  plain Storage.ensurePowered
  let frameSize := (← get).frameSize
  let file ← plain (Storage.require ((← get).files.get handle))
  if data = [] then return 0
  let stop ← grant (Checked.add file.position data.length)
  let length := max file.length stop
  let needed ← grant (Checked.frames length frameSize)
  ensureRoom file data.length length
  let _ ← grant (Checked.mul needed frameSize)
  rewrite handle file data stop length needed

/-- How a storage stands. The frames that are not free are in use. -/
def stats : Guarded σ StorageStats := do
  let table := (← get).table
  let _ ← grant (Checked.sub table.total table.free)
  return (← get).stats

/-- Makes a call, with nothing taken for granted. -/
def perform : Call → Guarded σ Reply
  | .closeFile handle => do
    closeFile handle
    return .done
  | .read handle wanted => return .bytes (← readFresh handle wanted)
  | .readToEnd handle => return .bytes (← readToEnd handle)
  | .write handle data => return .written (← write handle data)
  | .stats => return .stats (← stats)
  | call => plain (Storage.perform call)

end Guarded

end CartridgeBank
