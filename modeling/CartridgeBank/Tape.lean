import CartridgeBank.Network
import CartridgeBank.Wire.Message

namespace CartridgeBank

/-- A peer known only by the answers it has given so far, one to each request. -/
structure Tape where
  answers : List Bytes := []
  /-- The first request whose answer is not known. -/
  unanswered : Option Bytes := none
deriving DecidableEq, Repr

namespace Tape

instance : Peer Tape where
  accept := id
  deliver request tape :=
    match tape.answers with
    | [] => ([], { tape with unanswered := tape.unanswered <|> some request })
    | answer :: answers => (answer, { tape with answers })
  hangUp := id

/-- Whether the bytes received settle a request: they hold its answer, or can never become one. -/
def isSettled (frameSize : Nat) (request received : Bytes) : Bool :=
  match (Opcode.ofBytes (request.take 8)).command? with
  | none => true
  | some command =>
    match Wire.readAnswer command frameSize (Wire.Source.ofBytes received) with
    | .error (.shortTransfer _ _) _ => false
    | _ => true

end Tape

end CartridgeBank
