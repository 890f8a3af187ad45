import CartridgeBank.Opcode
import CartridgeBank.Frame

namespace CartridgeBank

/-- The number of an open file's slot. -/
structure Handle where
  slot : Nat
deriving DecidableEq, Repr

def Handle.toText (handle : Handle) : String := "#" ++ handle.slot.repr

/-- Why an input or output call of the surrounding system failed. -/
inductive IoFault where
  | connectionRefused
  | networkUnreachable
  | addressNotAvailable
  | notFound
  | isDirectory
  | failed (reason : String)
deriving DecidableEq, Repr

def IoFault.message : IoFault → String
  | connectionRefused => "Connection refused (os error 111)"
  | networkUnreachable => "Network is unreachable (os error 101)"
  | addressNotAvailable => "Cannot assign requested address (os error 99)"
  | notFound => "No such file or directory (os error 2)"
  | isDirectory => "Is a directory (os error 21)"
  | failed reason => reason

/-- The largest number of frames that a bank may have. -/
def maxTotalFrames : Nat := 16777216

/-- The largest number of frames that the cache may hold. -/
def maxCacheFrames : Nat := 128

/-- What is wrong with a configuration. -/
inductive ConfigFault where
  /-- The text is not a document of the right form. -/
  | document
  /-- Fields of one section hold values outside their ranges. -/
  | outOfRange (area : String) (fields : List String)
  | tooManyFrames (cartridges framesPerCartridge : Nat)
deriving DecidableEq, Repr

def ConfigFault.message : ConfigFault → String
  | document => "not a configuration document"
  | outOfRange area fields => area ++ ": out of range: " ++ String.intercalate ", " fields
  | tooManyFrames cartridges frames =>
    "geometry: " ++ cartridges.repr ++ " cartridges of " ++ frames.repr ++ " frames exceeds " ++
      maxTotalFrames.repr ++ " frames in total"

/-- Every way in which an operation can fail. -/
inductive Fault where
  | emptyName
  | duplicateFile (name : String)
  | invalidSeek (offset length : Nat)
  | unknownRegister (tag : Nat)
  | unknownCommand (code : Nat)
  | outsideGeometry (location : FrameLocation)
  | wrongFrameSize (expected actual : Nat)
  | config (fault : ConfigFault)
  | invalidHandle (handle : Handle)
  | notPoweredOn
  | alreadyPoweredOn
  | cacheInUse
  | notConnected
  | endOfFile
  | invalidCacheSize (frames : Nat)
  | outOfSpace (needed available : Nat)
  | alreadyOwned (location : FrameLocation)
  | io (fault : IoFault)
  | shortTransfer (expected actual : Nat)
  | unexpectedPayload (expected actual : Nat)
  | deviceFailure (command : Command) (answer : Opcode)
  | unexpectedAnswer (command : Command) (answer : Opcode)
deriving DecidableEq, Repr

/-- Who has to act on a fault. -/
inductive FaultCategory where
  | validation
  | state
  | capacity
  | transport
deriving DecidableEq, Repr

namespace Fault

def category : Fault → FaultCategory
  | emptyName | duplicateFile _ | invalidSeek .. | unknownRegister _ | unknownCommand _
  | outsideGeometry _ | wrongFrameSize .. | config _ => .validation
  | invalidHandle _ | notPoweredOn | alreadyPoweredOn | cacheInUse | notConnected
  | endOfFile => .state
  | invalidCacheSize _ | outOfSpace .. | alreadyOwned _ => .capacity
  | io _ | shortTransfer .. | unexpectedPayload .. | deviceFailure .. | unexpectedAnswer .. =>
    .transport

def message : Fault → String
  | emptyName => "Invalid path: file name must not be empty"
  | duplicateFile name => "File already open: " ++ name
  | invalidSeek offset length =>
    "Invalid seek to " ++ offset.repr ++ " (file length " ++ length.repr ++ ")"
  | unknownRegister tag => "Invalid opcode register tag: " ++ tag.repr
  | unknownCommand code => "Invalid command code: " ++ code.repr
  | outsideGeometry location =>
    "Frame location " ++ location.toText ++ " is outside the configured geometry"
  | wrongFrameSize expected actual =>
    "Invalid frame size: expected " ++ expected.repr ++ " bytes, got " ++ actual.repr
  | config fault => "Configuration error: " ++ fault.message
  | invalidHandle handle => "Invalid or closed file handle: " ++ handle.toText
  | notPoweredOn => "Storage is not powered on"
  | alreadyPoweredOn => "Storage is already powered on"
  | cacheInUse => "Frame cache is already initialized"
  | notConnected => "Transport is not connected"
  | endOfFile => "End of file"
  | invalidCacheSize frames =>
    "Invalid cache size: " ++ frames.repr ++ " (must be 1..=" ++ maxCacheFrames.repr ++ ")"
  | outOfSpace needed available =>
    "Out of space: " ++ needed.repr ++ " frames needed, " ++ available.repr ++ " available"
  | alreadyOwned location => "Frame already owned: " ++ location.toText
  | io fault => "I/O error: " ++ fault.message
  | shortTransfer expected actual =>
    "Short transfer: expected " ++ expected.repr ++ " bytes, got " ++ actual.repr
  | unexpectedPayload expected actual =>
    "Unexpected payload length: expected " ++ expected.repr ++ " bytes, got " ++ actual.repr
  | deviceFailure command answer =>
    "Backend reported failure for " ++ command.mnemonic ++ " (response " ++ answer.toHex ++ ")"
  | unexpectedAnswer command answer =>
    "Response " ++ answer.toHex ++ " does not answer " ++ command.mnemonic

end Fault

end CartridgeBank
