import CartridgeBank.HitRate
import CartridgeBank.Json.Printer
import CartridgeBank.Storage.Files
import CartridgeBank.Storage.Power
import CartridgeBank.Storage.Write

namespace CartridgeBank

/-- Why a run of the program failed. -/
inductive Failure where
  | fault (fault : Fault)
  /-- A file did not read back as it was written. -/
  | differs (name : String)
  | loading (path : String)
  | reading (path : String)
  | noFileName (path : String)
  | binding (host : String) (port : UInt16)
deriving DecidableEq, Repr

/-- A file that was written and read back. -/
structure CopiedFile where
  name : String
  bytes : Nat
  frames : Nat
deriving DecidableEq, Repr

/-- What a round trip achieved. -/
structure Report where
  files : List CopiedFile
  stats : StorageStats
deriving DecidableEq, Repr

namespace RoundTrip

variable {σ : Type} [Transport σ]

/-- A step of a round trip. -/
abbrev Step (σ : Type) := EStateM Failure (Storage σ)

/-- Runs a step on the storage. -/
def lift {α : Type} (step : Operation σ α) : Step σ α := EStateM.adaptExcept Failure.fault step

/-- Writes a file and insists that it reads back the same. -/
def copyFile (name : String) (data : Bytes) : Step σ CopiedFile := do
  let handle ← lift (Storage.openFile name)
  let _ ← lift (Storage.write handle data)
  lift (Storage.seek handle 0)
  let readBack ← lift (Storage.readToEnd handle)
  if readBack ≠ data then throw (.differs name)
  let info ← lift (Storage.info handle)
  return { name, bytes := data.length, frames := info.frames.length }

def copyFiles : List (String × Bytes) → Step σ (List CopiedFile)
  | [] => return []
  | (name, data) :: rest => do
    let copied ← copyFile name data
    return copied :: (← copyFiles rest)

/-- Powers a storage on, copies all files, and powers it off again. -/
def run (files : List (String × Bytes)) : Step σ Report := do
  lift Storage.powerOn
  let files ← copyFiles files
  let stats := (← get).stats
  lift Storage.powerOff
  return { files, stats }

/-- The files of a self test: lengths around one frame and ten frames, without the empty one. -/
def testFiles (frameSize : Nat) : List (String × Bytes) :=
  let lengths := [1, frameSize - 1, frameSize, frameSize + 1, 10 * frameSize].filter (0 < ·)
  lengths.mapIdx fun index length =>
    ("selftest-" ++ index.repr ++ ".bin",
      (List.range length).map fun place => UInt8.ofNat (place * 31 + index))

end RoundTrip

namespace Report

def padRight (width : Nat) (text : String) : String :=
  text ++ String.ofList (List.replicate (width - text.length) ' ')

def padLeft (width : Nat) (text : String) : String :=
  String.ofList (List.replicate (width - text.length) ' ') ++ text

def fileLine (file : CopiedFile) : String :=
  padRight 32 file.name ++ " " ++ padLeft 10 file.bytes.repr ++ " bytes " ++
    padLeft 6 file.frames.repr ++ " frames\n"

def usageLine (stats : StorageStats) : String :=
  "frames used " ++ stats.usedFrames.repr ++ "/" ++ stats.totalFrames.repr ++ ", open files " ++
    stats.openFiles.repr ++ "\n"

def cacheLine (stats : CacheStats) : String :=
  "cache " ++ stats.occupied.repr ++ "/" ++ stats.capacity.repr ++ " slots, hit rate " ++
    oneDecimal stats.hitRate ++ "%\n"

/-- A report as lines of text. -/
def toText (report : Report) : String :=
  String.join (report.files.map fileLine) ++ usageLine report.stats ++
    report.stats.cache.elim "" cacheLine

/-- A report as a document. -/
def toJson (report : Report) : Json.Value :=
  let natural := Json.Value.natural
  let file (file : CopiedFile) := Json.Value.record
    [("name", .text file.name), ("bytes", natural file.bytes), ("frames", natural file.frames)]
  let cache (stats : CacheStats) := Json.Value.record
    [("hits", natural stats.hits), ("misses", natural stats.misses),
      ("evictions", natural stats.evictions), ("occupied", natural stats.occupied),
      ("capacity", natural stats.capacity)]
  let stats := report.stats
  .record
    [("files", .array (report.files.map file)),
      ("stats", .record
        [("powered_on", .boolean stats.poweredOn), ("total_frames", natural stats.totalFrames),
          ("free_frames", natural stats.freeFrames), ("used_frames", natural stats.usedFrames),
          ("open_files", natural stats.openFiles), ("cache", stats.cache.elim .null cache)])]

end Report

end CartridgeBank
