import CartridgeBank.Proofs.Calls
import CartridgeBank.Proofs.Frame
import CartridgeBank.Proofs.Usage

namespace CartridgeBank

/-- An open file as a byte string with a cursor. -/
structure ByteFile where
  name : String
  content : Bytes := []
  position : Nat := 0
  /-- Where the content lies: of no account for the content, but told on request. -/
  frames : List FrameLocation := []
deriving DecidableEq, Repr

/-- A storage without a device: byte strings in slots, and the use of their frames for its
statistics. -/
structure Reference where
  config : Config
  poweredOn : Bool := false
  slots : List (Option ByteFile) := [none]
  usage : Option Usage := none
deriving DecidableEq, Repr

def ByteFile.info (file : ByteFile) (handle : Handle) : FileInfo where
  handle := handle
  name := file.name
  length := file.content.length
  position := file.position
  frames := file.frames

/-- The content after a write at the cursor: the data where it was put, and at each other place what
was there before. -/
def ByteFile.overwritten (file : ByteFile) (data : Bytes) : Bytes :=
  (List.range (max file.content.length (file.position + data.length))).map fun place =>
    if file.position ≤ place ∧ place < file.position + data.length then
      data.getD (place - file.position) 0
    else file.content.getD place 0

/-- As long as the cursor lies within the content, this is how a storage puts the data in. -/
theorem ByteFile.overwritten_eq {file : ByteFile} (within : file.position ≤ file.content.length)
    (data : Bytes) : file.overwritten data = Storage.splice file.content file.position data := by
  refine List.ext_getElem? fun place => ?_
  rw [Storage.getElem?_splice within, overwritten, List.getElem?_map]
  by_cases inside : place < max file.content.length (file.position + data.length)
  · rw [List.getElem?_range inside, Option.map_some]
    by_cases put : file.position ≤ place ∧ place < file.position + data.length
    · rw [if_pos put, if_pos put, List.getD_eq_getElem _ _ (by omega),
        List.getElem?_eq_getElem (by omega)]
    · rw [if_neg put, if_neg put, List.getD_eq_getElem _ _ (by omega),
        List.getElem?_eq_getElem (by omega)]
  · rw [if_neg (by omega), List.getElem?_eq_none (by rw [List.length_range]; omega), Option.map_none,
      List.getElem?_eq_none (by omega)]

namespace Reference

def frameSize (reference : Reference) : Nat := reference.config.geometry.frameSize

def file? (reference : Reference) (handle : Handle) : Option ByteFile :=
  reference.slots[handle.slot]?.join

/-- The open files with their handles, in increasing order. -/
def files (reference : Reference) : List (Handle × ByteFile) :=
  (List.range reference.slots.length).filterMap fun slot =>
    (reference.file? ⟨slot⟩).map fun file => (⟨slot⟩, file)

def lookup? (reference : Reference) (name : String) : Option Handle :=
  (reference.files.find? fun file => file.2.name == name).map Prod.fst

/-- The frames that the open files need. -/
def used (reference : Reference) : Nat :=
  (reference.files.map fun file => framesFor file.2.content.length reference.frameSize).sum

def free (reference : Reference) : Nat := reference.config.geometry.totalFrames - reference.used

def openFiles (reference : Reference) : List FileInfo :=
  reference.files.map fun file => file.2.info file.1

def stats (reference : Reference) : StorageStats where
  poweredOn := reference.poweredOn
  totalFrames := reference.config.geometry.totalFrames
  freeFrames := reference.free
  usedFrames := reference.used
  openFiles := reference.files.length
  cache := reference.usage.map Usage.stats

/-- The first frames of the bank that no other file occupies. -/
def place (reference : Reference) (handle : Handle) (wanted : Nat) : List FrameLocation :=
  (reference.config.geometry.locations.filter fun location =>
    reference.files.all fun other => other.1 == handle || !other.2.frames.contains location).take
      wanted

/-- The frames of a file with what they hold. -/
def pieces (reference : Reference) (file : ByteFile) : List (FrameLocation × Bytes) :=
  file.frames.zip (blocks file.content reference.frameSize)

/-- The pieces with `count` bytes from the cursor on. -/
def touched (reference : Reference) (file : ByteFile) (count : Nat) :
    List (FrameLocation × Bytes) :=
  let first := file.position / reference.frameSize
  let last := (file.position + count - 1) / reference.frameSize
  ((reference.pieces file).drop first).take (last + 1 - first)

/-- The same with one file replaced, after some use of frames. -/
def update (reference : Reference) (handle : Handle) (file : Option ByteFile)
    (change : Usage → Usage) : Reference :=
  { reference with
    slots := reference.slots.set handle.slot file, usage := reference.usage.map change }

/-- What a call on an open file returns and leaves, given what it does to the file. -/
def onFile (reference : Reference) (handle : Handle)
    (step : ByteFile → Except Fault Reply × Reference) : Except Fault Reply × Reference :=
  if reference.poweredOn then
    match reference.file? handle with
    | none => (.error (.invalidHandle handle), reference)
    | some file => step file
  else (.error .notPoweredOn, reference)

def openNew (reference : Reference) (name : String) : Except Fault Reply × Reference :=
  if ¬reference.poweredOn then (.error .notPoweredOn, reference)
  else if name = "" then (.error .emptyName, reference)
  else if (reference.lookup? name).isSome then (.error (.duplicateFile name), reference)
  else
    let slot := reference.slots.findIdx Option.isNone
    (.ok (.handle ⟨slot⟩), { reference with
      slots := reference.slots.take slot ++ some { name } :: reference.slots.drop (slot + 1) })

/-- Reads at the cursor of a file that has not ended. -/
def readAt (reference : Reference) (handle : Handle) (file : ByteFile) (wanted : Nat) :
    Except Fault Reply × Reference :=
  let count := min wanted (file.content.length - file.position)
  (.ok (.bytes ((file.content.drop file.position).take count)),
    reference.update handle (some { file with position := file.position + count })
      (·.readThroughAll (reference.touched file count)))

def read (reference : Reference) (handle : Handle) (wanted : Nat) :
    Except Fault Reply × Reference :=
  reference.onFile handle fun file =>
    if wanted = 0 then (.ok (.bytes []), reference)
    else if file.content.length ≤ file.position then (.error .endOfFile, reference)
    else reference.readAt handle file wanted

def readToEnd (reference : Reference) (handle : Handle) : Except Fault Reply × Reference :=
  reference.onFile handle fun file =>
    if file.content.length ≤ file.position then (.ok (.bytes []), reference)
    else reference.readAt handle file (file.content.length - file.position)

/-- Writes at the cursor of a file that has room for the data. -/
def writeAt (reference : Reference) (handle : Handle) (file : ByteFile) (data : Bytes) :
    Except Fault Reply × Reference :=
  let content := file.overwritten data
  let frames := reference.place handle (framesFor content.length reference.frameSize)
  let after := { file with content, frames, position := file.position + data.length }
  (.ok (.written data.length), reference.update handle (some after) fun usage =>
    ((usage.readThroughAll (reference.pieces file)).putAll (reference.pieces after)).invalidateAll
      (file.frames.filter (· ∉ frames)))

def write (reference : Reference) (handle : Handle) (data : Bytes) :
    Except Fault Reply × Reference :=
  reference.onFile handle fun file =>
    let needed := framesFor (file.content.length + data.length) reference.frameSize
    if data = [] then (.ok (.written 0), reference)
    else if file.content.length < file.position + data.length ∧ reference.free < needed then
      (.error (.outOfSpace needed reference.free), reference)
    else reference.writeAt handle file data

/-- What a call returns, and the reference it leaves. -/
def respond (call : Call) (reference : Reference) : Except Fault Reply × Reference :=
  match call with
  | .powerOn =>
    if reference.poweredOn then (.error .alreadyPoweredOn, reference)
    else (.ok .done, {
      config := reference.config
      poweredOn := true
      usage := some { capacity := reference.config.cacheFrames } })
  | .powerOff =>
    if reference.poweredOn then (.ok .done, { config := reference.config })
    else (.error .notPoweredOn, reference)
  | .openFile name => reference.openNew name
  | .closeFile handle => reference.onFile handle fun file =>
    (.ok .done, reference.update handle none (·.invalidateAll file.frames))
  | .read handle wanted => reference.read handle wanted
  | .readToEnd handle => reference.readToEnd handle
  | .write handle data => reference.write handle data
  | .seek handle offset => reference.onFile handle fun file =>
    if offset ≤ file.content.length then
      (.ok .done, reference.update handle (some { file with position := offset }) id)
    else (.error (.invalidSeek offset file.content.length), reference)
  | .info handle => reference.onFile handle fun file =>
    (.ok (.info (file.info handle)), reference)
  | .lookup name => (.ok (.found (reference.lookup? name)), reference)
  | .openFiles => (.ok (.files reference.openFiles), reference)
  | .stats => (.ok (.stats reference.stats), reference)
  | .setCacheFrames frames =>
    if reference.poweredOn then (.error .cacheInUse, reference)
    else if frames = 0 ∨ maxCacheFrames < frames then (.error (.invalidCacheSize frames), reference)
    else (.ok .done, { reference with
      config := { reference.config with cacheFrames := frames } })

def respondAll : List Call → Reference → List (Except Fault Reply) × Reference
  | [], reference => ([], reference)
  | call :: rest, reference =>
    let (reply, next) := respond call reference
    let (replies, last) := respondAll rest next
    (reply :: replies, last)

end Reference

end CartridgeBank
