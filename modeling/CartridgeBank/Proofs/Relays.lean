import CartridgeBank.Proofs.Device
import CartridgeBank.Proofs.Transfer

namespace CartridgeBank

/-- A transport that passes requests on to a device. However a request ends, the device has refused
it or has carried it out; an answer is that of the device. -/
structure Relays {σ : Type} [Transport σ] (view : σ → Device) : Prop where
  answered {command : Command} {opcode : Opcode} {frame : Option Bytes} {transport next : σ}
    {answer : Answer} (known : opcode.command? = some command)
    (sent : Transport.send opcode frame transport = .ok answer next) :
    (view transport).Execution opcode frame command answer (view next).plain
  failed {command : Command} {opcode : Opcode} {frame : Option Bytes} {transport next : σ}
    {fault : Fault} (known : opcode.command? = some command)
    (sent : Transport.send opcode frame transport = .error fault next) :
    ∃ answer, (view transport).Execution opcode frame command answer (view next).plain
  disconnected (transport : σ) :
    (view (Transport.disconnect transport)).plain = (view transport).plain

theorem Device.relays : Relays fun device : Device => device where
  answered known sent := by
    cases sent
    exact respond_execution known _
  failed known sent := by cases sent
  disconnected device := rfl

/-- What becomes of a request on its way to a device and back. -/
inductive Fate where
  | answered
  /-- The device is made to refuse the request. -/
  | refused
  | undelivered (fault : Fault)
  /-- The device answers, but the answer does not arrive. -/
  | lost (fault : Fault)
deriving DecidableEq, Repr

/-- A device behind a connection that may lose requests and answers. -/
structure Unreliable where
  device : Device
  /-- What becomes of the next requests; all later ones are answered. -/
  fates : List Fate := []

namespace Unreliable

/-- A device that refuses the next request of that kind. -/
def primed (device : Device) (opcode : Opcode) : Device :=
  match opcode.command? with
  | none => device
  | some command => device.failNth command 1

instance : Transport Unreliable where
  send opcode frame link :=
    let fates := link.fates.tail
    match link.fates.head?.getD .answered with
    | .answered =>
      let (answer, device) := link.device.respond opcode frame
      .ok answer { device, fates }
    | .refused =>
      let (answer, device) := (primed link.device opcode).respond opcode frame
      .ok answer { device, fates }
    | .undelivered fault => .error fault { link with fates }
    | .lost fault =>
      let (_, device) := link.device.respond opcode frame
      .error fault { device, fates }

/-- The device is of the configured geometry, whatever it has been through. -/
def Fits (config : Config) (link : Unreliable) : Prop :=
  link.device.geometry = config.geometry ∧ link.device.Arises

/-- What becomes of later requests, and which ones the device is to refuse, is chosen anew. -/
def Retuned (before after : Unreliable) : Prop :=
  ∃ faults, after.device = { before.device with faults }

theorem plain_primed (device : Device) (opcode : Opcode) :
    (primed device opcode).plain = device.plain := by
  unfold primed
  split <;> rfl

theorem relays : Relays Unreliable.device where
  answered {command opcode frame link next answer} known sent := by
    simp only [Transport.send] at sent
    split at sent
    · cases sent
      exact Device.respond_execution known frame
    · cases sent
      exact (Device.respond_execution known frame).of_plain (plain_primed link.device opcode)
    · cases sent
    · cases sent
  failed {command opcode frame link next fault} known sent := by
    simp only [Transport.send] at sent
    split at sent
    · cases sent
    · cases sent
    · cases sent
      exact ⟨_, .refused⟩
    · cases sent
      exact ⟨_, Device.respond_execution known frame⟩
  disconnected link := rfl

end Unreliable

end CartridgeBank
