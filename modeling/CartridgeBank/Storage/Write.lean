import CartridgeBank.Storage.Transfer
import Std.Data.ExtTreeSet

namespace CartridgeBank.Storage

variable {σ : Type} [Transport σ]

/-- The content after writing `data` at `position`: it replaces what was there, and extends the
content where it reaches beyond the end. -/
def splice (content : Bytes) (position : Nat) (data : Bytes) : Bytes :=
  content.take position ++ data ++ content.drop (position + data.length)

/-- Takes a frame for a file, in the ownership table only. -/
def claim (handle : Handle) (location : FrameLocation) : Operation σ Unit := do
  let table ← require ((← get).table.claim location handle)
  modify fun storage => { storage with table }

/-- Gives a frame back, in the ownership table only. -/
def release (location : FrameLocation) : Operation σ Unit := do
  let (_, table) ← require ((← get).table.release location)
  modify fun storage => { storage with table }

/-- Claims and writes frames one after the other up to the first fault. Returns the frames claimed
and how it ended. -/
def store (handle : Handle) :
    List (FrameLocation × Bytes) → Storage σ → List FrameLocation × Except Fault Unit × Storage σ
  | [], storage => ([], .ok (), storage)
  | (location, frame) :: rest, storage =>
    match claim handle location storage with
    | .error fault storage => ([], .error fault, storage)
    | .ok () storage =>
      match writeFrame location frame storage with
      | .error fault storage => ([location], .error fault, storage)
      | .ok () storage =>
        let (claimed, result, storage) := store handle rest storage
        (location :: claimed, result, storage)

/-- Runs a step whose fault does not matter. -/
def ignoring (step : Operation σ Unit) : Operation σ Unit := do
  try step catch _ => pure ()

/-- Undoes a write that failed: the frames claimed are free again, the old ones are owned again, and
none of them is cached. -/
def rollBack (handle : Handle) (claimed old : List FrameLocation) : Operation σ Unit := do
  claimed.forM fun location => do
    ignoring (release location)
    invalidate location
  old.forM fun location => do
    ignoring (claim handle location)
    invalidate location

/-- Fails unless a file has room to grow. New frames are needed for all its content, old and new,
while the old frames are still in place. -/
def ensureRoom (file : OpenFile) (added : Nat) : Operation σ Unit := do
  if file.length < file.position + added then
    let needed := framesFor (file.length + added) (← get).frameSize
    let available := (← get).table.free
    if available < needed then throw (.outOfSpace needed available)

/-- Stores content in the first free frames. Returns the frames it found, the ones it claimed, and
how it ended. -/
def placeContent (handle : Handle) (content : Bytes) :
    Operation σ (List FrameLocation × List FrameLocation × Except Fault Unit) := fun storage =>
  let needed := framesFor content.length storage.frameSize
  let targets := storage.table.firstFree needed
  if targets.length < needed then
    .ok (targets, [], .error (.outOfSpace needed targets.length)) storage
  else
    let pieces := (chunks content storage.frameSize).map (padFrame · storage.frameSize)
    let (claimed, result, storage) := store handle (targets.zip pieces) storage
    .ok (targets, claimed, result) storage

/-- The frames a file had and does not have again. -/
def givenUp (old targets : List FrameLocation) : List FrameLocation :=
  let kept := Std.ExtTreeSet.ofList targets
  old.filter fun location => !kept.contains location

theorem givenUp_eq_filter (old targets : List FrameLocation) :
    givenUp old targets = old.filter (· ∉ targets) := by
  simp [givenUp, Std.ExtTreeSet.contains_ofList]

/-- Writes at the cursor and moves it behind the data. The whole content is read back, its frames
are given up, and the new content goes into the first free frames. On a fault the file keeps its
frames, its length and its cursor. -/
def write (handle : Handle) (data : Bytes) : Operation σ Nat := do
  ensurePowered
  let file ← require ((← get).files.get handle)
  if data = [] then return 0
  ensureRoom file data.length
  let frames ← readFrames file.frames
  let content := splice (frames.flatten.take file.length) file.position data
  file.frames.forM release
  let (targets, claimed, result) ← placeContent handle content
  match result with
  | .error fault =>
    rollBack handle claimed file.frames
    throw fault
  | .ok () =>
    (givenUp file.frames targets).forM invalidate
    modify fun storage => { storage with
      files := storage.files.update handle { file with
        frames := targets
        length := content.length
        position := file.position + data.length } }
    return data.length

end CartridgeBank.Storage
