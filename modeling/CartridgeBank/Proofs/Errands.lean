import CartridgeBank.Proofs.Calls
import CartridgeBank.Proofs.Relays

namespace CartridgeBank

/-- A request as it was sent, and the transport as it was then. -/
structure Sent (σ : Type) where
  transport : σ
  opcode : Opcode
  frame : Option Bytes

/-- A transport that keeps a record of all requests sent over it. -/
structure Recorded (σ : Type) where
  transport : σ
  sent : List (Sent σ) := []

instance {σ : Type} [Transport σ] : Transport (Recorded σ) where
  send opcode frame recorded :=
    let sent := recorded.sent ++ [{ transport := recorded.transport, opcode, frame }]
    match Transport.send opcode frame recorded.transport with
    | .ok answer transport => .ok answer { transport, sent }
    | .error fault transport => .error fault { transport, sent }
  isConnected recorded := Transport.isConnected recorded.transport
  disconnect recorded := { recorded with transport := Transport.disconnect recorded.transport }

/-- What a storage sends a request for. The request itself may say less: one for a frame does not
name the cartridge. -/
inductive Errand where
  | start
  | load (cartridge : UInt16)
  | zero (cartridge : UInt16)
  | fetch (location : FrameLocation)
  | store (location : FrameLocation) (frame : Bytes)
  | finish

namespace Errand

def command : Errand → Command
  | start => .initms
  | load _ => .ldcart
  | zero _ => .bzero
  | fetch _ => .rdfrme
  | store _ _ => .wrfrme
  | finish => .powoff

def cartridge : Errand → UInt16
  | load cartridge => cartridge
  | _ => 0

def index : Errand → UInt16
  | fetch location | store location _ => location.frame
  | _ => 0

def payload : Errand → Option Bytes
  | store _ frame => some frame
  | _ => none

def opcode (errand : Errand) : Opcode := .request errand.command errand.cartridge errand.index

/-- The frame that the errand is about. -/
def target? : Errand → Option FrameLocation
  | fetch location | store location _ => some location
  | _ => none

def run {σ : Type} [Transport σ] (errand : Errand) : Operation σ Answer :=
  Storage.execute errand.command errand.cartridge errand.index errand.payload

end Errand

/-- An errand, and the storage as it is sent. -/
structure Turn (σ : Type) where
  errand : Errand
  storage : Storage σ

def Turn.sent {σ : Type} (turn : Turn (Recorded σ)) : Sent σ where
  transport := turn.storage.transport.transport
  opcode := turn.errand.opcode
  frame := turn.errand.payload

namespace Storage

section Turns

variable {σ α β : Type} [Transport σ]

def loadTurns (cartridge : UInt16) (storage : Storage σ) : List (Turn σ) :=
  if storage.active = some cartridge then []
  else [{ errand := .load cartridge, storage := { storage with active := none } }]

/-- An errand to a cartridge waits until the cartridge is loaded. -/
def visit (cartridge : UInt16) (errand : Errand) : Operation σ Answer := do
  loadCartridge cartridge
  errand.run

def visitTurns (cartridge : UInt16) (errand : Errand) (storage : Storage σ) : List (Turn σ) :=
  loadTurns cartridge storage ++
    match loadCartridge cartridge storage with
    | .ok _ storage => [{ errand, storage }]
    | .error _ _ => []

/-- The turns of one step after the other, up to the first fault. -/
def eachTurns (turns : α → Storage σ → List (Turn σ)) (step : α → Operation σ β) :
    List α → Storage σ → List (Turn σ)
  | [], _ => []
  | item :: rest, storage => turns item storage ++
      match step item storage with
      | .ok _ next => eachTurns turns step rest next
      | .error _ _ => []

/-- The storage after one step after the other, up to the first fault. -/
def eachAfter (step : α → Operation σ β) : List α → Storage σ → Storage σ
  | [], storage => storage
  | item :: rest, storage =>
    match step item storage with
    | .ok _ next => eachAfter step rest next
    | .error _ next => next

/-- A frame is fetched if it is not cached. -/
def fetchTurns (location : FrameLocation) (storage : Storage σ) : List (Turn σ) :=
  match cached? location storage with
  | .ok none storage => visitTurns location.cartridge (.fetch location) storage
  | _ => []

def claimAndWrite (handle : Handle) (piece : FrameLocation × Bytes) : Operation σ Unit := do
  claim handle piece.1
  writeFrame piece.1 piece.2

def storeTurns (handle : Handle) (piece : FrameLocation × Bytes) (storage : Storage σ) :
    List (Turn σ) :=
  match claim handle piece.1 storage with
  | .ok _ storage => visitTurns piece.1.cartridge (.store piece.1 piece.2) storage
  | .error _ _ => []

def initializeTurns (storage : Storage σ) : List (Turn σ) :=
  { errand := .start, storage } ::
    match Errand.start.run storage with
    | .error _ _ => []
    | .ok _ storage =>
      eachTurns (fun cartridge => visitTurns (.ofNat cartridge) (.zero (.ofNat cartridge)))
        (fun cartridge => zeroCartridge (.ofNat cartridge))
        (List.range storage.config.geometry.cartridges) storage

def powerOnTurns (storage : Storage σ) : List (Turn σ) :=
  if storage.poweredOn then []
  else match FrameCache.ofCapacity storage.config.cacheFrames with
  | .error _ => []
  | .ok cache => initializeTurns { storage.cleared with cache := some cache }

def powerOffTurns (storage : Storage σ) : List (Turn σ) :=
  if storage.poweredOn then
    [{ errand := .finish, storage := { storage.cleared with poweredOn := false } }]
  else []

def readTurns (handle : Handle) (wanted : Nat) (storage : Storage σ) : List (Turn σ) :=
  match storage.files.get? handle with
  | none => []
  | some file =>
    if storage.poweredOn = false ∨ wanted = 0 ∨ file.length ≤ file.position then []
    else eachTurns fetchTurns readFrame
      (covering file storage.frameSize (readable file wanted)) storage

def readToEndTurns (handle : Handle) (storage : Storage σ) : List (Turn σ) :=
  match storage.files.get? handle with
  | none => []
  | some file => readTurns handle (file.length - file.position) storage

def placeTurns (handle : Handle) (content : Bytes) (storage : Storage σ) : List (Turn σ) :=
  let needed := framesFor content.length storage.frameSize
  let targets := storage.table.firstFree needed
  if targets.length < needed then []
  else eachTurns (storeTurns handle) (claimAndWrite handle)
    (targets.zip (blocks content storage.frameSize)) storage

/-- All frames of the file are read back before its new content is placed. -/
def rewriteTurns (handle : Handle) (file : OpenFile) (data : Bytes) (storage : Storage σ) :
    List (Turn σ) :=
  eachTurns fetchTurns readFrame file.frames storage ++
    match readFrames file.frames storage with
    | .error _ _ => []
    | .ok frames storage => placeTurns handle (file.contentAfter frames data)
        { storage with table := storage.table.releaseEach file.frames }

def writeTurns (handle : Handle) (data : Bytes) (storage : Storage σ) : List (Turn σ) :=
  match storage.files.get? handle with
  | none => []
  | some file =>
    if storage.poweredOn = false ∨ data = [] ∨ file.length < file.position + data.length ∧
        storage.table.free < framesFor (file.length + data.length) storage.frameSize then []
    else rewriteTurns handle file data storage

/-- The requests that a call sends, in order, with what each is for. -/
def turns : Call → Storage σ → List (Turn σ)
  | .powerOn, storage => powerOnTurns storage
  | .powerOff, storage => powerOffTurns storage
  | .read handle wanted, storage => readTurns handle wanted storage
  | .readToEnd handle, storage => readToEndTurns handle storage
  | .write handle data, storage => writeTurns handle data storage
  | _, _ => []

/-- Storages over the same transport that know the same of the device. -/
structure Kin (a b : Storage σ) : Prop where
  geometry : a.config.geometry = b.config.geometry
  transport : a.transport = b.transport
  active : a.active = b.active

/-- Loading a cartridge sends one request, if any. -/
theorem loadCartridge_sends {cartridge : UInt16} {storage : Storage σ}
    (away : storage.active ≠ some cartridge) :
    ((loadCartridge cartridge).after storage).config.geometry =
        ((Errand.load cartridge).run.after { storage with active := none }).config.geometry ∧
      ((loadCartridge cartridge).after storage).transport =
        ((Errand.load cartridge).run.after { storage with active := none }).transport := by
  have sends : (Errand.load cartridge).run =
    (execute .ldcart cartridge 0 none : Operation σ Answer) := rfl
  rw [sends]
  unfold Operation.after
  rw [loadCartridge_eq, if_neg away]
  cases execute .ldcart cartridge 0 none { storage with active := none } <;> exact ⟨rfl, rfl⟩

theorem visit_eq (cartridge : UInt16) (errand : Errand) (storage : Storage σ) :
    visit cartridge errand storage =
      match loadCartridge cartridge storage with
      | .ok _ next => errand.run next
      | .error fault next => .error fault next := by
  unfold visit
  rw [Operation.bind_apply]
  cases loadCartridge cartridge storage <;> rfl

omit [Transport σ] in
/-- Looking a frame up cannot fail. -/
theorem cached?_ok (location : FrameLocation) (storage : Storage σ) :
    ∃ found cache, cached? location storage = .ok found { storage with cache } := by
  obtain ⟨config, transport, cache, table, files, active, poweredOn⟩ := storage
  cases cache with
  | none => exact ⟨none, none, rfl⟩
  | some cache => exact ⟨_, _, rfl⟩

theorem fetchFrame_kin (location : FrameLocation) (storage : Storage σ) :
    Kin ((fetchFrame location).after storage)
      ((visit location.cartridge (.fetch location)).after storage) := by
  unfold Operation.after
  rw [fetchFrame_eq, visit_eq]
  cases loadCartridge location.cartridge storage with
  | error fault next => exact ⟨rfl, rfl, rfl⟩
  | ok done loaded =>
    have sends : (Errand.fetch location).run loaded =
      execute .rdfrme 0 location.frame none loaded := rfl
    dsimp only
    rw [sends]
    cases execute .rdfrme 0 location.frame none loaded with
    | error fault next => exact ⟨rfl, rfl, rfl⟩
    | ok answer next =>
      dsimp only
      by_cases full : (answer.frame.getD []).length = next.frameSize
      · rw [if_pos full]
        exact ⟨rfl, rfl, rfl⟩
      · rw [if_neg full]
        exact ⟨rfl, rfl, rfl⟩

theorem writeFrame_kin (location : FrameLocation) (frame : Bytes) (storage : Storage σ) :
    Kin ((writeFrame location frame).after storage)
      ((visit location.cartridge (.store location frame)).after storage) := by
  unfold Operation.after
  rw [writeFrame_eq, visit_eq]
  cases loadCartridge location.cartridge storage with
  | error fault next => exact ⟨rfl, rfl, rfl⟩
  | ok done loaded =>
    have sends : (Errand.store location frame).run loaded =
      execute .wrfrme 0 location.frame (some frame) loaded := rfl
    dsimp only
    rw [sends]
    cases execute .wrfrme 0 location.frame (some frame) loaded <;> exact ⟨rfl, rfl, rfl⟩

theorem zeroCartridge_kin (cartridge : UInt16) (storage : Storage σ) :
    Kin ((zeroCartridge cartridge).after storage)
      ((visit cartridge (.zero cartridge)).after storage) := by
  unfold Operation.after
  rw [zeroCartridge_eq, visit_eq]
  cases loadCartridge cartridge storage with
  | error fault next => exact ⟨rfl, rfl, rfl⟩
  | ok done loaded =>
    have sends : (Errand.zero cartridge).run loaded = execute .bzero 0 0 none loaded := rfl
    dsimp only
    rw [sends]
    cases execute .bzero 0 0 none loaded <;> exact ⟨rfl, rfl, rfl⟩

omit [Transport σ] in
theorem forM_after (step : α → Operation σ PUnit) (items : List α) (storage : Storage σ) :
    Operation.after (items.forM step) storage = eachAfter step items storage := by
  induction items generalizing storage with
  | nil => rfl
  | cons item rest ih =>
    unfold Operation.after at ih ⊢
    rw [Operation.forM_cons_apply]
    unfold eachAfter
    cases step item storage with
    | ok done next => exact ih next
    | error fault next => rfl

theorem initializeDevice_eachAfter (storage : Storage σ) :
    initializeDevice.after storage =
      match execute .initms 0 0 none storage with
      | .error _ next => next
      | .ok _ next => eachAfter (fun cartridge => zeroCartridge (.ofNat cartridge))
          (List.range next.config.geometry.cartridges) next := by
  unfold Operation.after
  rw [initializeDevice_eq]
  cases execute .initms 0 0 none storage with
  | error fault next => rfl
  | ok answer next => exact forM_after _ _ next

theorem readFrames_eachAfter (locations : List FrameLocation) (storage : Storage σ) :
    (readFrames locations).after storage = eachAfter readFrame locations storage := by
  induction locations generalizing storage with
  | nil => rfl
  | cons location rest ih =>
    unfold Operation.after at ih ⊢
    rw [readFrames_cons]
    unfold eachAfter
    cases readFrame location storage with
    | error fault next => rfl
    | ok frame next =>
      refine Eq.trans ?_ (ih next)
      dsimp only
      cases readFrames rest next <;> rfl

theorem store_eachAfter (handle : Handle) (pieces : List (FrameLocation × Bytes))
    (storage : Storage σ) :
    (store handle pieces storage).2.2 = eachAfter (claimAndWrite handle) pieces storage := by
  induction pieces generalizing storage with
  | nil => rfl
  | cons piece rest ih =>
    obtain ⟨location, frame⟩ := piece
    unfold store eachAfter
    simp only [claimAndWrite, Operation.bind_apply]
    cases claim handle location storage with
    | error fault next => rfl
    | ok done claimed =>
      dsimp only
      cases writeFrame location frame claimed with
      | error fault next => rfl
      | ok done next => exact ih next

end Turns

end Storage

end CartridgeBank
