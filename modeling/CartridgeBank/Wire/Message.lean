import CartridgeBank.Transport
import CartridgeBank.Wire.Source

namespace CartridgeBank.Wire

/-- A request as it travels to a device. -/
structure Request where
  opcode : Opcode
  frame : Option Bytes := none
deriving DecidableEq, Repr

/-- The bytes of a message: the word, the length of the payload, the payload. -/
def encode (opcode : Opcode) (payload : Option Bytes) : Bytes :=
  let payload := payload.getD []
  opcode.toBytes ++ bigEndian 8 payload.length ++ payload

def Request.encode (request : Request) : Bytes := Wire.encode request.opcode request.frame

def encodeAnswer (answer : Answer) : Bytes := encode answer.opcode answer.frame

def writeRequest (opcode : Opcode) (frame : Option Bytes) : EStateM Fault Sink Unit :=
  Sink.write (encode opcode frame)

def writeAnswer (answer : Answer) : EStateM Fault Sink Unit := Sink.write (encodeAnswer answer)

/-- Reads a payload of the declared length, which is nothing or one frame. -/
def readPayload (length frameSize : Nat) : EStateM Fault Source (Option Bytes) :=
  if length = 0 then return none
  else if length ≠ frameSize then throw (.unexpectedPayload frameSize length)
  else return some (← Source.readExactly frameSize)

/-- Reads one request. A stream that ends before its first byte holds none. -/
def readRequest (frameSize : Nat) : EStateM Fault Source (Option Request) := do
  let bytes ← Source.fill 8
  if bytes.length = 0 then return none
  else if bytes.length ≠ 8 then throw (.shortTransfer 8 bytes.length)
  else
    let length ← Source.readWord
    let frame ← readPayload length frameSize
    return some { opcode := Opcode.ofBytes bytes, frame }

/-- Reading never gives back more than it took. -/
theorem size_readExactly_le {wanted : Nat} {source rest : Source} {bytes : Bytes}
    (read : Source.readExactly wanted source = .ok bytes rest) : rest.size ≤ source.size := by
  simp only [Source.readExactly, bind, EStateM.bind] at read
  split at read
  · rename_i filled
    have := Source.size_fill filled
    split at read <;> cases read
    omega
  · cases read

/-- A request takes at least one byte from the stream. -/
theorem size_readRequest_lt {frameSize : Nat} {source rest : Source} {request : Request}
    (read : readRequest frameSize source = .ok (some request) rest) : rest.size < source.size := by
  simp only [readRequest, bind, EStateM.bind] at read
  split at read
  · rename_i bytes tail filled
    have taken := Source.size_fill filled
    split at read
    · cases read
    · split at read
      · cases read
      · rename_i some_bytes _
        simp only [Source.readWord, bind, EStateM.bind] at read
        split at read
        · rename_i length tail' lengthRead
          split at lengthRead
          · rename_i header
            have afterLength := size_readExactly_le header
            cases lengthRead
            split at read
            · rename_i payload
              cases read
              simp only [readPayload] at payload
              split at payload
              · cases payload
                omega
              · split at payload
                · cases payload
                · simp only [bind, EStateM.bind] at payload
                  split at payload
                  · rename_i frame
                    have afterFrame := size_readExactly_le frame
                    cases payload
                    omega
                  · cases payload
            · cases read
          · cases lengthRead
        · cases read
  · cases read

/-- Reads the answer to a command. Only the answer to a frame read may carry a payload. -/
def readAnswer (command : Command) (frameSize : Nat) : EStateM Fault Source Answer := do
  let word ← Source.readWord
  let length ← Source.readWord
  if length ≠ 0 ∧ ¬command.returnsFrame then throw (.unexpectedPayload 0 length)
  else
    let frame ← readPayload length frameSize
    return { opcode := ⟨BitVec.ofNat 64 word⟩, frame }

end CartridgeBank.Wire
