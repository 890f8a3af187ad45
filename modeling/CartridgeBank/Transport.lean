import CartridgeBank.Fault

namespace CartridgeBank

/-- The answer to one request. Only an answer to a frame read carries a frame. -/
structure Answer where
  opcode : Opcode
  frame : Option Bytes := none
deriving DecidableEq, Repr

/-- The answer that repeats a request with the return bit set. -/
def Answer.failure (request : Opcode) : Answer := { opcode := request.withRet true }

/-- A way to reach a device: one request out, one answer or fault back. Nothing is assumed of the
answers. -/
class Transport (σ : Type) where
  send : Opcode → Option Bytes → EStateM Fault σ Answer
  isConnected : σ → Bool := fun _ => true
  disconnect : σ → σ := id

end CartridgeBank
