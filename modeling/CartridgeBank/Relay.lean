import CartridgeBank.Network
import CartridgeBank.Wire.Message

namespace CartridgeBank

open Wire

/-- A server that passes requests from a connection on to a device. -/
structure Relay (σ : Type) where
  device : σ
  frameSize : Nat

namespace Relay

variable {σ : Type} [Transport σ]

/-- Has the device answer a request. A fault of the device becomes a failure answer. -/
def respond (relay : Relay σ) (request : Request) : Answer × Relay σ :=
  match Transport.send request.opcode request.frame relay.device with
  | .ok answer device => (answer, { relay with device })
  | .error _ device => (Answer.failure request.opcode, { relay with device })

/-- Whether a request ends its connection. -/
def isLast (request : Request) : Bool := request.opcode.command? == some .powoff

/-- Serves one connection to its end: how it ended, and the bytes sent on it. -/
def serve (relay : Relay σ) (source : Source) : Except Fault Unit × Bytes × Relay σ :=
  match _ : readRequest relay.frameSize source with
  | .error fault _ => (.error fault, [], relay)
  | .ok none _ => (.ok (), [], relay)
  | .ok (some request) rest =>
    let (answer, relay) := relay.respond request
    if isLast request then (.ok (), encodeAnswer answer, relay)
    else
      let (result, sent, relay) := relay.serve rest
      (result, encodeAnswer answer ++ sent, relay)
termination_by source.size
decreasing_by exact size_readRequest_lt ‹_›

/-- Serves the complete requests at the front of the bytes that have arrived so far. Returns the
bytes sent, and the bytes left unread, or none if the connection was closed. -/
def advance (relay : Relay σ) (unread : Bytes) : Bytes × Option Bytes × Relay σ :=
  match _ : readRequest relay.frameSize (Source.ofBytes unread) with
  | .ok (some request) rest =>
    let (answer, relay) := relay.respond request
    if isLast request then (encodeAnswer answer, none, relay)
    else
      let (sent, unread, relay) := relay.advance rest.toBytes
      (encodeAnswer answer ++ sent, unread, relay)
  | .error (.unexpectedPayload _ _) _ => ([], none, relay)
  | _ => ([], some unread, relay)
termination_by unread.length
decreasing_by
  rw [Source.length_toBytes]
  exact Nat.lt_of_lt_of_eq (size_readRequest_lt ‹_›) (Source.size_ofBytes unread)

end Relay

/-- A relay that listens for connections. -/
structure Host (σ : Type) where
  relay : Relay σ
  /-- The bytes not yet read from the present connection, if there is one. -/
  unread : Option Bytes := none

instance {σ : Type} [Transport σ] : Peer (Host σ) where
  accept host := { host with unread := some [] }
  deliver bytes host :=
    match host.unread with
    | none => ([], host)
    | some unread =>
      let (sent, unread, relay) := host.relay.advance (unread ++ bytes)
      (sent, { relay, unread })
  hangUp host := { host with unread := none }

end CartridgeBank
