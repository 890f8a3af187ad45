import CartridgeBank.Proofs.Device
import CartridgeBank.Proofs.Serving

namespace CartridgeBank

open Wire

/-- One delivery to a peer: the connection it came on, counted from one, its bytes, the peer as they
found it, and what it sent back. -/
structure Delivered (π : Type) where
  connection : Nat
  bytes : Bytes
  peer : π
  reply : Bytes

/-- A peer together with all that was ever delivered to it. -/
structure Tapped (π : Type) where
  peer : π
  connections : Nat := 0
  deliveries : List (Delivered π) := []

instance {π : Type} [Peer π] : Peer (Tapped π) where
  accept tapped := { tapped with
    peer := Peer.accept tapped.peer, connections := tapped.connections + 1 }
  deliver bytes tapped :=
    let (reply, peer) := Peer.deliver bytes tapped.peer
    let delivery := { connection := tapped.connections, bytes, peer := tapped.peer, reply }
    (reply, { tapped with peer, deliveries := tapped.deliveries ++ [delivery] })
  hangUp tapped := { tapped with peer := Peer.hangUp tapped.peer }

/-- An answer that a client accepted, with the request it was given to. -/
structure Accepted where
  connection : Nat
  opcode : Opcode
  frame : Option Bytes
  answer : Answer

/-- The request as the server reads it. -/
def Accepted.request (accepted : Accepted) : Request where
  opcode := accepted.opcode
  frame := if accepted.opcode.command? = some .wrfrme then carried accepted.frame else none

/-- A client in the course of its calls, with the answers it accepted so far. -/
structure Dialogue (σ : Type) where
  client : Client (Tapped (Host σ))
  accepted : List Accepted := []

/-- A call on a client. -/
inductive ClientCall where
  | send (opcode : Opcode) (frame : Option Bytes)
  | disconnect

variable {σ : Type} [Transport σ]

/-- A delivery brought the request of an accepted answer, and the answer is the one that the server
gave to it. -/
def Delivered.Brought (delivery : Delivered (Host σ)) (accepted : Accepted) : Prop :=
  delivery.bytes = accepted.request.encode ∧
    delivery.reply = encodeAnswer (delivery.peer.relay.respond accepted.request).1 ∧
    accepted.answer.opcode = (delivery.peer.relay.respond accepted.request).1.opcode ∧
    accepted.answer.frame.getD [] = (delivery.peer.relay.respond accepted.request).1.frame.getD []

namespace Dialogue

/-- A new client of a server that nobody has connected to. -/
def fresh (frameSize : Nat) (reach : Reach) (relay : Relay σ) : Dialogue σ where
  client := { frameSize, network := { reach, peer := { peer := { relay } } } }

def host (dialogue : Dialogue σ) : Host σ := dialogue.client.network.peer.peer

/-- How often the client has connected, which is also the number of the latest connection. -/
def connections (dialogue : Dialogue σ) : Nat := dialogue.client.network.peer.connections

def deliveries (dialogue : Dialogue σ) : List (Delivered (Host σ)) :=
  dialogue.client.network.peer.deliveries

/-- What was delivered on one connection, in order. -/
def deliveriesOn (dialogue : Dialogue σ) (connection : Nat) : List (Delivered (Host σ)) :=
  dialogue.deliveries.filter (·.connection = connection)

/-- The answers accepted on one connection, in order. -/
def acceptedOn (dialogue : Dialogue σ) (connection : Nat) : List Accepted :=
  dialogue.accepted.filter (·.connection = connection)

def take (dialogue : Dialogue σ) : ClientCall → Dialogue σ
  | .send opcode frame =>
    match Transport.send opcode frame dialogue.client with
    | .ok answer client =>
      let connection := client.network.peer.connections
      { client, accepted := dialogue.accepted ++ [{ connection, opcode, frame, answer }] }
    | .error _ client => { dialogue with client }
  | .disconnect => { dialogue with client := Transport.disconnect dialogue.client }

def run (dialogue : Dialogue σ) (calls : List ClientCall) : Dialogue σ := calls.foldl take dialogue

end Dialogue

/-- The states a device comes to as it is sent requests. -/
inductive Onward (device : σ) : σ → Prop
  | start : Onward device device
  | answered {middle next : σ} {opcode : Opcode} {frame : Option Bytes} {answer : Answer} :
      Onward device middle → Transport.send opcode frame middle = .ok answer next →
      Onward device next
  | failed {middle next : σ} {opcode : Opcode} {frame : Option Bytes} {fault : Fault} :
      Onward device middle → Transport.send opcode frame middle = .error fault next →
      Onward device next

theorem Onward.trans {first second third : σ} (before : Onward first second)
    (after : Onward second third) : Onward first third := by
  induction after with
  | start => exact before
  | answered _ sent ih => exact ih.answered sent
  | failed _ sent ih => exact ih.failed sent

/-- Frames are so short, now and ever after, that their length fits the field it is sent in. -/
def FramesFit (device : σ) : Prop :=
  ∀ ⦃later next : σ⦄ ⦃opcode : Opcode⦄ ⦃frame : Option Bytes⦄ ⦃answer : Answer⦄,
    Onward device later → Transport.send opcode frame later = .ok answer next →
    (answer.frame.getD []).length < 2 ^ 64

theorem FramesFit.onward {device later : σ} (fit : FramesFit device)
    (onward : Onward device later) : FramesFit later :=
  fun _ _ _ _ _ further sent => fit (onward.trans further) sent

theorem Relay.onward_respond (relay : Relay σ) (request : Request) :
    Onward relay.device (relay.respond request).2.device := by
  unfold Relay.respond
  cases sent : Transport.send request.opcode request.frame relay.device with
  | ok answer device => exact Onward.start.answered sent
  | error fault device => exact Onward.start.failed sent

/-- A server that waits for a request has its device answer it. -/
theorem Host.onward_deliver {host : Host σ} {payload : Option Bytes} (opcode : Opcode)
    (waiting : host.unread = some []) (short : (payload.getD []).length < 2 ^ 64)
    (full : payload.getD [] = [] ∨ (payload.getD []).length = host.relay.frameSize) :
    Onward host.relay.device (Peer.deliver (encode opcode payload) host).2.relay.device := by
  rw [deliver_encode opcode waiting short full]
  exact Relay.onward_respond _ _

theorem FramesFit.respond {relay : Relay σ} (fit : FramesFit relay.device) (request : Request) :
    ((relay.respond request).1.frame.getD []).length < 2 ^ 64 := by
  unfold Relay.respond
  cases sent : Transport.send request.opcode request.frame relay.device with
  | ok answer device => exact fit .start sent
  | error fault device => exact Nat.two_pow_pos 64

theorem Device.framesFit {device : Device} (arises : device.Arises)
    (small : device.geometry.frameSize < 2 ^ 64) : FramesFit device := by
  intro later next opcode frame answer onward sent
  have its : answer = (later.respond opcode frame).1 := by
    cases sent
    rfl
  have alike : later.Arises ∧ later.geometry = device.geometry := by
    clear sent its
    induction onward with
    | start => exact ⟨arises, rfl⟩
    | answered _ sent ih =>
      cases sent
      exact ⟨ih.1.responded _ _, (Device.geometry_respond _ _ _).trans ih.2⟩
    | failed _ sent ih => cases sent
  obtain ⟨laterArises, geometry⟩ := alike
  rcases later.frame_respond opcode frame with none | ⟨_, location, content⟩
  · rw [its, none]
    exact Nat.two_pow_pos 64
  · rw [its, content, Option.getD_some, laterArises.whole.length_content, geometry]
    exact small

end CartridgeBank
