import CartridgeBank.Proofs.Device
import CartridgeBank.Proofs.Mirrors
import CartridgeBank.Proofs.Serving

namespace CartridgeBank

open Wire

namespace Client

/-- A client of a server for a device, as it is between two requests. They all agree on the size of
a frame. -/
structure Serves (size : Nat) (client : Client (Host Device)) (device : Device) : Prop where
  positive : 0 < size
  short : size < 2 ^ 64
  clientSize : client.frameSize = size
  relaySize : client.network.peer.relay.frameSize = size
  deviceSize : device.geometry.frameSize = size
  listening : client.network.reach = .listening
  same : client.network.peer.relay.device = device
  whole : device.Whole
  idle : client.inbox = none ∨ client.inbox = some [] ∧ client.network.peer.unread = some []

namespace Serves

variable {size : Nat} {client : Client (Host Device)} {device : Device} {command : Command}
  {opcode : Opcode} {frame : Option Bytes}

theorem dialed (serves : Serves size client device) : Serves size client.dialed device :=
  { serves with idle := Or.inr ⟨rfl, rfl⟩ }

theorem hangUp (serves : Serves size client device) : Serves size client.hangUp device := by
  unfold Client.hangUp
  cases connected : client.inbox with
  | none => exact serves
  | some unread => exact { serves with idle := Or.inl rfl }

/-- A frame that is sent is read as it is, and so is no frame. -/
theorem carried_of_fitting (positive : 0 < size)
    (fitting : frame.map List.length = if command = .wrfrme then some size else none) :
    carried frame = frame ∧ (frame.getD [] = [] ∨ (frame.getD []).length = size) := by
  cases frame with
  | none => exact ⟨rfl, Or.inl rfl⟩
  | some data =>
    have full : data.length = size := by
      by_cases sends : command = .wrfrme
      · rw [if_pos sends] at fitting
        exact Option.some.inj fitting
      · rw [if_neg sends] at fitting
        cases fitting
    have nonempty : data ≠ [] := by
      rintro rfl
      exact positive.ne full
    exact ⟨carried_of_ne_nil nonempty, Or.inr full⟩

theorem payload?_of_fitting
    (fitting : frame.map List.length = if command = .wrfrme then some size else none) :
    payload? size command frame = .ok frame := by
  unfold payload?
  by_cases sends : command = .wrfrme
  · rw [if_pos sends] at fitting
    obtain ⟨data, rfl, full⟩ := Option.map_eq_some_iff.mp fitting
    rw [if_pos (by simp [Command.sendsFrame, sends])]
    exact if_pos full
  · rw [if_neg sends] at fitting
    obtain rfl := Option.map_eq_none_iff.mp fitting
    rw [if_neg (by simp [Command.sendsFrame, sends])]

/-- What a device answers is read as it is. -/
theorem carried_respond (serves : Serves size client device) (opcode : Opcode)
    (frame : Option Bytes) (known : opcode.command? = some command) :
    carried (device.respond opcode frame).1.frame = (device.respond opcode frame).1.frame ∧
      ((device.respond opcode frame).1.frame.getD [] = [] ∨ command.returnsFrame = true ∧
        ((device.respond opcode frame).1.frame.getD []).length = size) := by
  rcases device.frame_respond opcode frame with none | ⟨read, location, content⟩
  · rw [none]
    exact ⟨rfl, Or.inl rfl⟩
  · have full : (device.content location).length = size := by
      rw [serves.whole.length_content, serves.deviceSize]
    have nonempty : device.content location ≠ [] := by
      intro nothing
      rw [nothing] at full
      exact serves.positive.ne full
    obtain rfl : command = .rdfrme := Option.some.inj (known.symm.trans read)
    rw [content]
    exact ⟨carried_of_ne_nil nonempty, Or.inr ⟨rfl, full⟩⟩

theorem delivered (serves : Serves size client device) (known : opcode.command? = some command)
    {bytes : Bytes} (relay : (Peer.deliver bytes client.network.peer).2.relay =
      { client.network.peer.relay with device := (device.respond opcode frame).2 })
    {inbox : Option Bytes} (idle : inbox = none ∨
      inbox = some [] ∧ (Peer.deliver bytes client.network.peer).2.unread = some []) :
    Serves size { client.delivered bytes with inbox } (device.respond opcode frame).2 where
  positive := serves.positive
  short := serves.short
  clientSize := serves.clientSize
  relaySize := by
    change (Peer.deliver bytes client.network.peer).2.relay.frameSize = size
    rw [relay]
    exact serves.relaySize
  deviceSize := (congrArg _ (device.geometry_respond opcode frame)).trans serves.deviceSize
  listening := serves.listening
  same := by
    change (Peer.deliver bytes client.network.peer).2.relay.device = _
    rw [relay]
  whole := (Device.respond_execution known frame).whole serves.whole
  idle := idle

/-- An exchange with a server is the request to the device. -/
theorem exchange (serves : Serves size client device) (connected : client.inbox ≠ none)
    (known : opcode.command? = some command)
    (fitting : frame.map List.length = if command = .wrfrme then some size else none) :
    ∃ next, Client.exchange command opcode frame client = .ok (device.respond opcode frame).1 next ∧
      (command = .powoff → Serves size next.hangUp (device.respond opcode frame).2) ∧
      (command ≠ .powoff → Serves size next (device.respond opcode frame).2 ∧
        next.inbox ≠ none) := by
  obtain ⟨empty, waiting⟩ := serves.idle.resolve_left connected
  obtain ⟨brought, whole⟩ := carried_of_fitting serves.positive fitting
  obtain ⟨returned, readable⟩ := serves.carried_respond opcode frame known
  have short : (frame.getD []).length < 2 ^ 64 := by
    rcases whole with nothing | full
    · rw [nothing]
      exact Nat.two_pow_pos 64
    · rw [full]
      exact serves.short
  have full : frame.getD [] = [] ∨ (frame.getD []).length = client.network.peer.relay.frameSize := by
    rwa [serves.relaySize]
  have responded : client.network.peer.relay.respond { opcode, frame } =
      ((device.respond opcode frame).1,
        { client.network.peer.relay with device := (device.respond opcode frame).2 }) := by
    rw [← serves.same]
    rfl
  have sent := Host.deliver_encode opcode waiting short full
  rw [brought, responded] at sent
  have answerShort : ((device.respond opcode frame).1.frame.getD []).length < 2 ^ 64 := by
    rcases readable with nothing | ⟨_, size⟩
    · rw [nothing]
      exact Nat.two_pow_pos 64
    · rw [size]
      exact serves.short
  rw [← serves.clientSize] at readable
  have taken := exchange_answer empty (congrArg Prod.fst sent) answerShort readable
  rw [returned] at taken
  have host := congrArg Prod.snd sent
  have relay := congrArg Host.relay host
  refine ⟨_, taken, ?_, ?_⟩
  · intro last
    have after := serves.delivered known relay (Or.inl (rfl : (none : Option Bytes) = none))
    rw [hangUp_of_connected (Option.some_ne_none _)]
    exact { after with idle := Or.inl rfl }
  · intro further
    have stays : ¬Relay.isLast { opcode, frame } = true := by
      simpa [Relay.isLast, known] using further
    have unread := congrArg Host.unread host
    rw [if_neg stays] at unread
    exact ⟨serves.delivered known relay (Or.inr ⟨rfl, unread⟩), Option.some_ne_none _⟩

theorem send (serves : Serves size client device) (known : opcode.command? = some command)
    (ready : client.inbox ≠ none ∨ command = .initms)
    (fitting : frame.map List.length = if command = .wrfrme then some size else none) :
    ∃ next, Transport.send opcode frame client = .ok (device.respond opcode frame).1 next ∧
      Serves size next (device.respond opcode frame).2 ∧
      (command ≠ .powoff → next.inbox ≠ none) := by
  have allowed := payload?_of_fitting fitting
  rw [← serves.clientSize] at allowed
  have started : ∃ start, Ready command client start ∧ Serves size start device ∧
      start.inbox ≠ none := by
    by_cases connected : client.inbox = none
    · have first := ready.resolve_left (not_not.mpr connected)
      exact ⟨_, .anew connected first serves.listening, serves.dialed, Option.some_ne_none _⟩
    · exact ⟨_, .already connected, serves, connected⟩
  obtain ⟨start, begins, serves, connected⟩ := started
  obtain ⟨next, exchanged, last, further⟩ := serves.exchange connected known fitting
  have sent := send_exchanged known allowed begins
  rw [exchanged] at sent
  by_cases ends : command = .powoff
  · refine ⟨next.hangUp, ?_, last ends, fun other => absurd ends other⟩
    exact sent.trans (by simp only [concluded, if_pos ends])
  · refine ⟨next, ?_, (further ends).1, fun _ => (further ends).2⟩
    exact sent.trans (by simp only [concluded, if_neg ends])

end Serves

/-- Requests to a server are answered as by its device. -/
theorem mirrors_device (size : Nat) :
    Storage.Mirrors size (Serves size) fun client device =>
      Serves size client device ∧ client.inbox ≠ none where
  linked_of_ready ready := ready.1
  start {client device} serves := by
    have fitting : (none : Option Bytes).map List.length =
      if Command.initms = .wrfrme then some size else none := rfl
    obtain ⟨next, sent, after, still⟩ :=
      serves.send (Opcode.command?_request .initms 0 0) (Or.inr rfl) fitting
    rw [sent]
    exact .ok ⟨after, still nofun⟩
  send {client device command frame} ready further fitting cartridge index := by
    obtain ⟨next, sent, after, still⟩ :=
      ready.1.send (Opcode.command?_request command cartridge index) (Or.inl ready.2) fitting
    rw [sent]
    exact .ok ⟨after, still further⟩
  finish {client device} ready := by
    have fitting : (none : Option Bytes).map List.length =
      if Command.powoff = .wrfrme then some size else none := rfl
    obtain ⟨next, sent, after, _⟩ :=
      ready.1.send (Opcode.command?_request .powoff 0 0) (Or.inl ready.2) fitting
    rw [sent]
    exact .ok after
  disconnect serves := serves.hangUp

/-- A client of a server for a device, with no connection yet. -/
def ofDevice (frameSize : Nat) (device : Device) : Client (Host Device) where
  frameSize
  network := { reach := .listening, peer := { relay := { device, frameSize } } }

def device (client : Client (Host Device)) : Device := client.network.peer.relay.device

/-- The client after something happened to the device itself. -/
def adjust (change : Device → Device) (client : Client (Host Device)) : Client (Host Device) :=
  { client with network := { client.network with peer := { client.network.peer with
    relay := { client.network.peer.relay with device := change client.device } } } }

end Client

/-- What happens to a storage and its device: a call of the storage, or a change of the requests that
the device refuses. -/
inductive Move where
  | call (call : Call)
  | failNth (command : Command) (n : Nat)
  | clearFaults

namespace Storage

variable {σ : Type} [Transport σ]

/-- One move, given how to get at the device. Only calls have a reply. -/
def move (adjust : (Device → Device) → σ → σ) : Move → Storage σ →
    Option (Except Fault Reply) × Storage σ
  | .call call, storage =>
    let (reply, next) := respond call storage
    (some reply, next)
  | .failNth command n, storage =>
    (none, { storage with transport := adjust (·.failNth command n) storage.transport })
  | .clearFaults, storage =>
    (none, { storage with transport := adjust Device.clearFaults storage.transport })

def moveAll (adjust : (Device → Device) → σ → σ) : List Move → Storage σ →
    List (Option (Except Fault Reply)) × Storage σ
  | [], storage => ([], storage)
  | first :: rest, storage =>
    let (reply, next) := move adjust first storage
    let (replies, last) := moveAll adjust rest next
    (reply :: replies, last)

/-- A storage over a network and one on the device itself, between two moves. -/
abbrev Near (size : Nat) : Storage (Client (Host Device)) → Storage Device → Prop :=
  Alike (WhileOn (Client.Serves size) fun client device =>
    Client.Serves size client device ∧ client.inbox ≠ none) size

variable {size : Nat} {far : Storage (Client (Host Device))} {near : Storage Device}

theorem Near.adjust (alike : Near size far near) {change : Device → Device}
    (same : ∀ device : Device, device.SameFrames (change device)) :
    Near size { far with transport := far.transport.adjust change }
      { near with transport := change near.transport } := by
  have adjusted {client : Client (Host Device)} {device : Device}
      (serves : client.Serves size device) : (client.adjust change).Serves size (change device) :=
    { serves with
      deviceSize := by rw [(same device).geometry, serves.deviceSize]
      same := congrArg change serves.same
      whole := serves.whole.congr (same device) }
  cases alike with
  | via link frameSize =>
    refine .via ⟨adjusted link.1, fun on => ?_⟩ frameSize
    exact ⟨adjusted (link.2 on).1, (link.2 on).2⟩

theorem Near.move (alike : Near size far near) (move : Move) :
    (Storage.move Client.adjust move far).1 = (Storage.move id move near).1 ∧
      Near size (Storage.move Client.adjust move far).2 (Storage.move id move near).2 := by
  cases move with
  | call call =>
    obtain ⟨reply, after⟩ := (Client.mirrors_device size).respond alike call
    exact ⟨congrArg some reply, after⟩
  | failNth command n => exact ⟨rfl, alike.adjust fun _ => ⟨rfl, rfl⟩⟩
  | clearFaults => exact ⟨rfl, alike.adjust fun _ => ⟨rfl, rfl⟩⟩

theorem Near.moveAll (alike : Near size far near) (moves : List Move) :
    (Storage.moveAll Client.adjust moves far).1 = (Storage.moveAll id moves near).1 ∧
      Near size (Storage.moveAll Client.adjust moves far).2 (Storage.moveAll id moves near).2 := by
  induction moves generalizing far near with
  | nil => exact ⟨rfl, alike⟩
  | cons move rest ih =>
    obtain ⟨reply, after⟩ := alike.move move
    obtain ⟨replies, last⟩ := ih after
    exact ⟨List.cons_eq_cons.mpr ⟨reply, replies⟩, last⟩

theorem Near.same (alike : Near size far near) :
    far.via near.transport = near ∧ far.transport.device = near.transport := by
  cases alike with
  | via link frameSize => exact ⟨rfl, link.1.same⟩

/-- The relay is transparent: over a network a storage answers every move as it does on the device
itself, faults and their answer words included, and all its state and that of the device are the
same after each. Power-ons and power-offs may fail on the way, and the connection may be opened and
closed any number of times. -/
theorem relay_transparent {config : Config} (valid : config.validate = .ok ()) {device : Device}
    (geometry : device.geometry = config.geometry) (arises : device.Arises) :
    ∃ near far, create config device = .ok near ∧
      create config (Client.ofDevice config.geometry.frameSize device) = .ok far ∧
      ∀ moves, (moveAll Client.adjust moves far).1 = (moveAll id moves near).1 ∧
        (moveAll Client.adjust moves far).2.via (moveAll id moves near).2.transport =
          (moveAll id moves near).2 ∧
        (moveAll Client.adjust moves far).2.transport.device =
          (moveAll id moves near).2.transport := by
  have sizes := (Config.validate_ok valid).1
  have serves : (Client.ofDevice config.geometry.frameSize device).Serves
      config.geometry.frameSize device :=
    { positive := sizes.frameSize_pos
      short := Nat.lt_of_le_of_lt sizes.frameSize_le (by decide)
      clientSize := rfl
      relaySize := rfl
      deviceSize := congrArg _ geometry
      listening := rfl
      same := rfl
      whole := arises.whole
      idle := Or.inl rfl }
  refine ⟨_, _, create_eq_ok_iff.mpr ⟨valid, rfl⟩, create_eq_ok_iff.mpr ⟨valid, rfl⟩,
    fun moves => ?_⟩
  have begun : Near config.geometry.frameSize
      { config
        transport := Client.ofDevice config.geometry.frameSize device
        table := Ownership.ofGeometry config.geometry }
      { config, transport := device, table := Ownership.ofGeometry config.geometry } :=
    .via ⟨serves, nofun⟩ rfl
  obtain ⟨replies, after⟩ := begun.moveAll moves
  exact ⟨replies, after.same⟩

/-- A power-on and a power-off that the device refuses, and a session after each of them. -/
def reconnecting : List Move :=
  [.failNth .initms 1, .call .powerOn, .call .powerOn, .call (.openFile "a"),
    .call (.write ⟨0⟩ [1, 2, 3]), .failNth .powoff 1, .call .powerOff, .call .powerOn,
    .call (.openFile "b"), .clearFaults, .call .powerOff]

theorem relay_transparent_reconnecting :
    ∃ far, create { geometry := ⟨1, 2, 2⟩ } (Client.ofDevice 2 { geometry := ⟨1, 2, 2⟩ }) =
        .ok far ∧
      (moveAll Client.adjust reconnecting far).1 =
        [none, some (.error (.deviceFailure .initms ((Opcode.request .initms 0 0).withRet true))),
          some (.ok .done), some (.ok (.handle ⟨0⟩)), some (.ok (.written 3)), none,
          some (.error (.deviceFailure .powoff ((Opcode.request .powoff 0 0).withRet true))),
          some (.ok .done), some (.ok (.handle ⟨0⟩)), none, some (.ok .done)] := by
  obtain ⟨near, far, created, alsoCreated, same⟩ :=
    @relay_transparent { geometry := ⟨1, 2, 2⟩ } rfl { geometry := ⟨1, 2, 2⟩ } rfl (.created _)
  refine ⟨far, alsoCreated, (same reconnecting).1.trans ?_⟩
  obtain rfl := (create_eq_ok_iff.mp created).2
  cbv

end Storage

end CartridgeBank
