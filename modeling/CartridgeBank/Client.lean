import CartridgeBank.Network
import CartridgeBank.Wire.Message

namespace CartridgeBank

open Wire

/-- A device reached over a network. The connection begins with INITMS and ends after POWOFF or
after any exchange that fails; nothing reconnects by itself. -/
structure Client (π : Type) where
  frameSize : Nat
  network : Network π
  /-- While connected, the bytes received and not yet read. -/
  inbox : Option Bytes := none

namespace Client

variable {π : Type} [Peer π]

/-- Opens a connection. -/
def connect : EStateM Fault (Client π) Unit := fun client =>
  match Network.dial client.network with
  | .ok _ network => .ok () { client with network, inbox := some [] }
  | .error fault network => .error fault { client with network }

/-- Ends the connection, if there is one. -/
def hangUp (client : Client π) : Client π :=
  match client.inbox with
  | none => client
  | some _ => { client with
      network := { client.network with peer := Peer.hangUp client.network.peer }, inbox := none }

/-- Sends a request and reads its answer on the open connection. -/
def exchange (command : Command) (opcode : Opcode) (payload : Option Bytes) :
    EStateM Fault (Client π) Answer := fun client =>
  match client.inbox with
  | none => .error .notConnected client
  | some unread =>
    let (received, peer) := Peer.deliver (encode opcode payload) client.network.peer
    let client := { client with network := { client.network with peer } }
    match readAnswer command client.frameSize (Source.ofBytes (unread ++ received)) with
    | .ok answer rest => .ok answer { client with inbox := some rest.toBytes }
    | .error fault _ => .error fault client.hangUp

/-- The payload that goes out with a command: one full frame for a frame write, nothing else. -/
def payload? (frameSize : Nat) (command : Command) (frame : Option Bytes) :
    Except Fault (Option Bytes) :=
  if command.sendsFrame then
    let frame := frame.getD []
    if frame.length = frameSize then .ok (some frame)
    else .error (.wrongFrameSize frameSize frame.length)
  else .ok none

/-- Sends one request, connecting first for an INITMS and hanging up after a POWOFF. -/
def send (opcode : Opcode) (frame : Option Bytes) : EStateM Fault (Client π) Answer := do
  match opcode.command? with
  | none => throw (.unknownCommand (opcode.field .ky1))
  | some command =>
    match payload? (← get).frameSize command frame with
    | .error fault => throw fault
    | .ok payload =>
      if command = .initms ∧ (← get).inbox.isNone then connect
      let answer ← exchange command opcode payload
      if command = .powoff then modify hangUp
      return answer

instance : Transport (Client π) where
  send := send
  isConnected client := client.inbox.isSome
  disconnect := hangUp

end Client

end CartridgeBank
