import CartridgeBank.Fault

namespace CartridgeBank

/-- The far end of a connection. One connection is served at a time. -/
class Peer (π : Type) where
  /-- A new connection begins. -/
  accept : π → π
  /-- Bytes arrive. The peer sends back all it has to say before it waits or closes. -/
  deliver : Bytes → π → Bytes × π
  /-- The other side ends the connection. -/
  hangUp : π → π

/-- What becomes of an attempt to connect. -/
inductive Reach where
  | listening
  | failing (fault : IoFault)
deriving DecidableEq, Repr

/-- The network between a client and a peer. -/
structure Network (π : Type) where
  reach : Reach
  peer : π

/-- Connects to the peer, if it can be reached. -/
def Network.dial {π : Type} [Peer π] : EStateM Fault (Network π) Unit := fun network =>
  match network.reach with
  | .listening => .ok () { network with peer := Peer.accept network.peer }
  | .failing fault => .error (.io fault) network

end CartridgeBank
