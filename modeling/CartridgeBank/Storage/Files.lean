import CartridgeBank.Storage.Transfer

namespace CartridgeBank.Storage

variable {σ : Type} [Transport σ]

/-- Opens a new, empty file. -/
def openFile (name : String) : Operation σ Handle := do
  ensurePowered
  let (handle, files) ← require ((← get).files.insert name)
  modify fun storage => { storage with files }
  return handle

/-- Closes a file and frees its frames. -/
def closeFile (handle : Handle) : Operation σ Unit := do
  ensurePowered
  let (file, files) ← require ((← get).files.erase handle)
  modify fun storage =>
    { storage with files, table := (storage.table.releaseAll handle).2 }
  file.frames.forM invalidate

/-- What is known about an open file. -/
def info (handle : Handle) : Operation σ FileInfo := do
  ensurePowered
  require ((← get).files.info handle)

/-- Moves the cursor of a file, at most to its end. -/
def seek (handle : Handle) (offset : Nat) : Operation σ Unit := do
  ensurePowered
  let file ← require ((← get).files.get handle)
  if file.length < offset then throw (.invalidSeek offset file.length)
  modify fun storage =>
    { storage with files := storage.files.update handle { file with position := offset } }

/-- The frames of a file that hold `count` bytes from its cursor on. -/
def covering (file : OpenFile) (frameSize count : Nat) : List FrameLocation :=
  let first := file.position / frameSize
  let last := (file.position + count - 1) / frameSize
  (file.frames.drop first).take (last + 1 - first)

/-- Reads up to `wanted` bytes at the cursor and moves it behind them. -/
def read (handle : Handle) (wanted : Nat) : Operation σ Bytes := do
  ensurePowered
  let file ← require ((← get).files.get handle)
  if wanted = 0 then return []
  if file.length ≤ file.position then throw .endOfFile
  let frameSize := (← get).frameSize
  let count := min wanted (file.length - file.position)
  let frames ← readFrames (covering file frameSize count)
  let bytes := (frames.flatten.drop (file.position % frameSize)).take count
  modify fun storage => { storage with
    files := storage.files.update handle { file with position := file.position + count } }
  return bytes

/-- Reads from the cursor to the end of the file; nothing if it is there already. -/
def readToEnd (handle : Handle) : Operation σ Bytes := do
  let file ← info handle
  let remaining := file.length - file.position
  if remaining = 0 then return []
  read handle remaining

end CartridgeBank.Storage
