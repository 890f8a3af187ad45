import CartridgeBank.Transport

namespace CartridgeBank

/-- How one request on a line may go wrong. -/
inductive Disturbance where
  /-- The request is not delivered. -/
  | undelivered (reason : String)
  /-- The request is carried out, but its answer is lost. -/
  | lost (reason : String)
  /-- The answer's word is replaced. -/
  | word (word : BitVec 64)
  /-- Bits of the answer's word are flipped. -/
  | flip (mask : BitVec 64)
  /-- The answer's frame is replaced. -/
  | frame (frame : Option Bytes)
deriving DecidableEq, Repr

/-- What was seen on a line. -/
inductive LineEvent where
  | exchange (opcode : Opcode) (frame : Option Bytes) (result : Except Fault Answer)
  | hangUp

/-- A line to a device that records all traffic and can be disturbed. -/
structure Line (σ : Type) where
  device : σ
  /-- Disturbances to come, each with the number of requests until it strikes. -/
  pending : List (Nat × Disturbance) := []
  /-- What was seen, the latest first. -/
  seen : List LineEvent := []

namespace Line

variable {σ : Type}

/-- Disturbs the given request, counted from one. -/
def disturb (line : Line σ) (n : Nat) (disturbance : Disturbance) : Line σ :=
  { line with pending := line.pending ++ [(max n 1, disturbance)] }

/-- Of the disturbances that strike now, the last one added. -/
def striking? (pending : List (Nat × Disturbance)) : Option Disturbance :=
  ((pending.filter fun entry => entry.1 ≤ 1).map Prod.snd).getLast?

/-- The disturbances that remain after one more request. -/
def remaining (pending : List (Nat × Disturbance)) : List (Nat × Disturbance) :=
  (pending.filter fun entry => ¬entry.1 ≤ 1).map fun entry => (entry.1 - 1, entry.2)

/-- What a disturbance makes of an answer that did arrive. -/
def distort : Option Disturbance → Answer → Except Fault Answer
  | some (.lost reason), _ => .error (.io (.failed reason))
  | some (.word word), answer => .ok { answer with opcode := ⟨word⟩ }
  | some (.flip mask), answer => .ok { answer with opcode := ⟨answer.opcode.word ^^^ mask⟩ }
  | some (.frame frame), answer => .ok { answer with frame }
  | _, answer => .ok answer

/-- One request over the line, before it is recorded. -/
def deliver [Transport σ] (device : σ) (disturbance : Option Disturbance) (opcode : Opcode)
    (frame : Option Bytes) : Except Fault Answer × σ :=
  match disturbance with
  | some (.undelivered reason) => (.error (.io (.failed reason)), device)
  | _ =>
    match Transport.send opcode frame device with
    | .ok answer device => (distort disturbance answer, device)
    | .error fault device => (.error fault, device)

instance [Transport σ] : Transport (Line σ) where
  send opcode frame line :=
    let (result, device) := deliver line.device (striking? line.pending) opcode frame
    let line : Line σ := {
      device
      pending := remaining line.pending
      seen := .exchange opcode frame result :: line.seen }
    match result with
    | .ok answer => .ok answer line
    | .error fault => .error fault line
  isConnected line := Transport.isConnected line.device
  disconnect line :=
    { line with device := Transport.disconnect line.device, seen := .hangUp :: line.seen }

end Line

end CartridgeBank
