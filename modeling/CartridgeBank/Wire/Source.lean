import CartridgeBank.Fault

namespace CartridgeBank.Wire

/-- What a stream has in store for its reader. One read takes at most the rest of one delivery. -/
inductive Delivery where
  | bytes (bytes : Bytes)
  /-- A read is interrupted and has to be tried again. -/
  | interrupted
  /-- A read fails. -/
  | failed (reason : String)
  /-- A read finds the end of the stream. -/
  | ended
deriving DecidableEq, Repr

/-- A stream of bytes to read from. After the last delivery it has ended. -/
abbrev Source := List Delivery

namespace Source

/-- A stream that delivers a byte string at once. -/
def ofBytes (bytes : Bytes) : Source := [.bytes bytes]

/-- How many bytes are still to be delivered. -/
def size : Source → Nat
  | [] => 0
  | .bytes bytes :: rest => bytes.length + size rest
  | _ :: rest => size rest

/-- All bytes still to be delivered. -/
def toBytes : Source → Bytes
  | [] => []
  | .bytes bytes :: rest => bytes ++ toBytes rest
  | _ :: rest => toBytes rest

@[simp] theorem length_toBytes (source : Source) : source.toBytes.length = source.size := by
  induction source with
  | nil => rfl
  | cons delivery rest ih => cases delivery <;> simp [toBytes, size, ih]

@[simp] theorem size_ofBytes (bytes : Bytes) : (ofBytes bytes).size = bytes.length := rfl

/-- Reads until `wanted` bytes have arrived or the stream ends, whatever the pieces they arrive in.
Interruptions are ignored. -/
def fill (wanted : Nat) (source : Source) : EStateM.Result Fault Source Bytes :=
  if wanted = 0 then .ok [] source
  else match source with
  | [] => .ok [] []
  | .bytes bytes :: rest =>
    if wanted < bytes.length then .ok (bytes.take wanted) (.bytes (bytes.drop wanted) :: rest)
    else match fill (wanted - bytes.length) rest with
      | .ok more rest => .ok (bytes ++ more) rest
      | .error fault rest => .error fault rest
  | .interrupted :: rest => fill wanted rest
  | .failed reason :: rest => .error (.io (.failed reason)) rest
  | .ended :: rest => .ok [] rest

/-- Reads exactly `wanted` bytes; fewer are a fault. -/
def readExactly (wanted : Nat) : EStateM Fault Source Bytes := do
  let bytes ← fill wanted
  if bytes.length = wanted then return bytes
  else throw (.shortTransfer wanted bytes.length)

/-- Reads a number of eight bytes, most significant byte first. -/
def readWord : EStateM Fault Source Nat := return ofBigEndian (← readExactly 8)

/-- What a source delivers is the same after reading, less what was read. -/
theorem size_fill {wanted : Nat} {source rest : Source} {bytes : Bytes}
    (filled : fill wanted source = .ok bytes rest) :
    bytes.length + size rest = size source := by
  induction source generalizing wanted bytes rest with
  | nil =>
    unfold fill at filled
    split at filled <;> cases filled <;> rfl
  | cons delivery tail ih =>
    unfold fill at filled
    split at filled
    · cases filled
      simp
    · cases delivery with
      | bytes delivered =>
        simp only at filled
        split at filled
        · cases filled
          simp only [List.length_take, size, List.length_drop]
          omega
        · split at filled
          · rename_i more _ inner
            cases filled
            have := ih inner
            simp only [List.length_append, size]
            omega
          · cases filled
      | interrupted => exact ih filled
      | failed reason => cases filled
      | ended =>
        cases filled
        simp [size]

end Source

/-- A stream of bytes to write to, which may have room for a limited number only. -/
structure Sink where
  written : Bytes := []
  room : Option Nat := none
  /-- The reason given once the room is used up. -/
  reason : String := ""
deriving DecidableEq, Repr

/-- Writes all bytes, or as many as there is room for. -/
def Sink.write (bytes : Bytes) : EStateM Fault Sink Unit := fun sink =>
  match sink.room with
  | none => .ok () { sink with written := sink.written ++ bytes }
  | some room =>
    let sink' := { sink with
      written := sink.written ++ bytes.take room, room := some (room - bytes.length) }
    if bytes.length ≤ room then .ok () sink' else .error (.io (.failed sink.reason)) sink'

end CartridgeBank.Wire
