import CartridgeBank.Client
import CartridgeBank.Proofs.Wire
import CartridgeBank.Relay

namespace CartridgeBank

open Wire

variable {opcode : Opcode} {payload : Option Bytes}

namespace Relay

variable {σ : Type} [Transport σ] {relay : Relay σ}

/-- Without a byte to read, a relay waits. -/
theorem advance_nil (relay : Relay σ) : relay.advance [] = ([], some [], relay) := by
  unfold advance
  split
  · rename_i request rest read
    rw [readRequest_nil] at read
    cases read
  · rename_i expected actual rest read
    rw [readRequest_nil] at read
    cases read
  · rfl

/-- A relay passes a request on and sends its answer back. It closes the connection after the last
one, and otherwise waits for the next. -/
theorem advance_encode (short : (payload.getD []).length < 2 ^ 64)
    (full : payload.getD [] = [] ∨ (payload.getD []).length = relay.frameSize) :
    relay.advance (encode opcode payload) =
      (encodeAnswer (relay.respond { opcode, frame := carried payload }).1,
        if isLast { opcode, frame := carried payload } then none else some [],
        (relay.respond { opcode, frame := carried payload }).2) := by
  have whole : (Source.ofBytes (encode opcode payload)).toBytes = encode opcode payload ++ [] := by
    rw [Source.toBytes_ofBytes, List.append_nil]
  obtain ⟨rest, read, _, nothing⟩ := readRequest_encode (Source.clean_ofBytes _) short full whole
  unfold advance
  split
  · rename_i request tail readAgain
    obtain ⟨⟨⟩, ⟨⟩⟩ := EStateM.Result.ok.inj (read.symm.trans readAgain)
    by_cases last : isLast { opcode, frame := carried payload } = true
    · simp only [if_pos last]
    · simp only [if_neg last, nothing, advance_nil, List.append_nil]
  · rename_i expected actual tail readAgain
    cases read.symm.trans readAgain
  · rename_i none others
    exact absurd read (none _ _)

/-- A relay closes the connection at a payload of another size. -/
theorem advance_odd (short : (payload.getD []).length < 2 ^ 64) (some : payload.getD [] ≠ [])
    (odd : (payload.getD []).length ≠ relay.frameSize) :
    relay.advance (encode opcode payload) = ([], none, relay) := by
  have whole : (Source.ofBytes (encode opcode payload)).toBytes = encode opcode payload ++ [] := by
    rw [Source.toBytes_ofBytes, List.append_nil]
  obtain ⟨rest, read⟩ := readRequest_odd (Source.clean_ofBytes _) short some odd whole
  unfold advance
  split
  · rename_i request tail readAgain
    cases read.symm.trans readAgain
  · rfl
  · rename_i none others
    exact absurd read (others _ _ _)

end Relay

namespace Host

variable {σ : Type} [Transport σ] {host : Host σ}

theorem deliver_encode (opcode : Opcode) (waiting : host.unread = some [])
    (short : (payload.getD []).length < 2 ^ 64)
    (full : payload.getD [] = [] ∨ (payload.getD []).length = host.relay.frameSize) :
    Peer.deliver (encode opcode payload) host =
      (encodeAnswer (host.relay.respond { opcode, frame := carried payload }).1, {
        relay := (host.relay.respond { opcode, frame := carried payload }).2
        unread := if Relay.isLast { opcode, frame := carried payload } then none else some [] }) := by
  simp only [Peer.deliver, waiting, List.nil_append, Relay.advance_encode short full]

theorem deliver_odd (opcode : Opcode) (waiting : host.unread = some [])
    (short : (payload.getD []).length < 2 ^ 64)
    (some : payload.getD [] ≠ []) (odd : (payload.getD []).length ≠ host.relay.frameSize) :
    Peer.deliver (encode opcode payload) host = ([], { relay := host.relay, unread := none }) := by
  simp only [Peer.deliver, waiting, List.nil_append, Relay.advance_odd short some odd]

end Host

namespace Client

variable {π : Type} [Peer π] {client : Client π} {command : Command}

/-- The client after a delivery, whatever came back. -/
def delivered (client : Client π) (bytes : Bytes) : Client π :=
  { client with
    network := { client.network with peer := (Peer.deliver bytes client.network.peer).2 } }

theorem exchange_eq (connected : client.inbox = some []) :
    exchange command opcode payload client =
      match readAnswer command client.frameSize
        (Source.ofBytes (Peer.deliver (encode opcode payload) client.network.peer).1) with
      | .ok answer rest => .ok answer
          { client.delivered (encode opcode payload) with inbox := some rest.toBytes }
      | .error fault _ => .error fault (client.delivered (encode opcode payload)).hangUp := by
  obtain ⟨frameSize, network, inbox⟩ := client
  obtain rfl : inbox = some [] := connected
  rfl

theorem exchange_unconnected (unconnected : client.inbox = none) :
    exchange command opcode payload client = .error .notConnected client := by
  simp only [exchange, unconnected]

@[simp] theorem inbox_hangUp (client : Client π) : client.hangUp.inbox = none := by
  unfold hangUp
  split
  · assumption
  · rfl

theorem hangUp_of_connected (connected : client.inbox ≠ none) :
    client.hangUp = { client with
      network := { client.network with peer := Peer.hangUp client.network.peer }
      inbox := none } := by
  unfold hangUp
  split
  · contradiction
  · rfl

/-- An answer that reads whole is taken as it was sent. -/
theorem exchange_answer (connected : client.inbox = some []) {answer : Answer}
    (came : (Peer.deliver (encode opcode payload) client.network.peer).1 = encodeAnswer answer)
    (short : (answer.frame.getD []).length < 2 ^ 64)
    (full : answer.frame.getD [] = [] ∨
      command.returnsFrame = true ∧ (answer.frame.getD []).length = client.frameSize) :
    exchange command opcode payload client =
      .ok { answer with frame := carried answer.frame }
        { client.delivered (encode opcode payload) with inbox := some [] } := by
  have whole : (Source.ofBytes (encodeAnswer answer)).toBytes =
      encode answer.opcode answer.frame ++ [] := by
    rw [Source.toBytes_ofBytes, List.append_nil, encodeAnswer]
  obtain ⟨rest, read, _, nothing⟩ := readAnswer_encode (Source.clean_ofBytes _) short full whole
  rw [exchange_eq connected, came, read]
  simp only [nothing]

/-- Any other answer ends the connection. -/
theorem exchange_odd (connected : client.inbox = some []) {answer : Answer}
    (came : (Peer.deliver (encode opcode payload) client.network.peer).1 = encodeAnswer answer)
    (short : (answer.frame.getD []).length < 2 ^ 64)
    (odd : ¬(answer.frame.getD [] = [] ∨
      command.returnsFrame = true ∧ (answer.frame.getD []).length = client.frameSize)) :
    ∃ fault, exchange command opcode payload client =
      .error fault (client.delivered (encode opcode payload)).hangUp := by
  have whole : (Source.ofBytes (encodeAnswer answer)).toBytes =
      encode answer.opcode answer.frame ++ [] := by
    rw [Source.toBytes_ofBytes, List.append_nil, encodeAnswer]
  obtain ⟨fault, rest, read⟩ := readAnswer_odd (Source.clean_ofBytes _) short odd whole
  refine ⟨fault, ?_⟩
  rw [exchange_eq connected, came, read]

theorem exchange_nothing (connected : client.inbox = some [])
    (came : (Peer.deliver (encode opcode payload) client.network.peer).1 = []) :
    exchange command opcode payload client =
      .error (.shortTransfer 8 0) (client.delivered (encode opcode payload)).hangUp := by
  rw [exchange_eq connected, came, readAnswer_nil]

/-- The payload of a request: the frame that a WRFRME is sent with, and none for any other. -/
def outgoing (command : Command) (frame : Option Bytes) : Option Bytes :=
  if command = .wrfrme then some (frame.getD []) else none

/-- What goes out is a whole frame or nothing. -/
theorem payload?_ok {frameSize : Nat} {frame : Option Bytes}
    (allowed : payload? frameSize command frame = .ok payload) :
    payload = outgoing command frame ∧
      (payload.getD [] = [] ∨ (payload.getD []).length = frameSize) := by
  unfold payload? at allowed
  unfold outgoing
  by_cases sends : command = .wrfrme
  · have flag : command.sendsFrame = true := by simpa only [Command.sendsFrame, beq_iff_eq]
    rw [if_pos flag] at allowed
    dsimp only at allowed
    by_cases full : (frame.getD []).length = frameSize
    · rw [if_pos full] at allowed
      cases allowed
      exact ⟨(if_pos sends).symm, Or.inr full⟩
    · rw [if_neg full] at allowed
      cases allowed
  · have flag : ¬command.sendsFrame = true := by simpa only [Command.sendsFrame, beq_iff_eq]
    rw [if_neg flag] at allowed
    cases allowed
    exact ⟨(if_neg sends).symm, Or.inl rfl⟩

/-- The client with a new connection. -/
def dialed (client : Client π) : Client π :=
  { client with
    network := { client.network with peer := Peer.accept client.network.peer }
    inbox := some [] }

theorem connect_listening (listening : client.network.reach = .listening) :
    connect client = .ok () client.dialed := by
  simp only [connect, Network.dial, listening, dialed]

theorem connect_failing {fault : IoFault} (failing : client.network.reach = .failing fault) :
    connect client = .error (.io fault) client := by
  simp only [connect, Network.dial, failing]

/-- The client as it goes into an exchange: connected already, or just now for an INITMS. -/
inductive Ready (command : Command) (client : Client π) : Client π → Prop
  | already : client.inbox ≠ none → Ready command client client
  | anew : client.inbox = none → command = .initms → client.network.reach = .listening →
      Ready command client client.dialed

/-- After an exchange, a completed POWOFF ends the connection. -/
def concluded (command : Command) :
    EStateM.Result Fault (Client π) Answer → EStateM.Result Fault (Client π) Answer
  | .ok answer next => .ok answer (if command = .powoff then next.hangUp else next)
  | .error fault next => .error fault next

/-- The second half of a request. -/
theorem exchange_concluded (command : Command) (opcode : Opcode) (payload : Option Bytes)
    (start : Client π) :
    (do
      let answer ← exchange command opcode payload
      if command = .powoff then modify hangUp
      return answer : EStateM Fault (Client π) Answer) start =
      concluded command (exchange command opcode payload start) := by
  cases run : exchange command opcode payload start with
  | error fault next => exact bind_of_error run
  | ok answer next =>
    refine (bind_of_ok run).trans ?_
    by_cases last : command = .powoff
    · simp only [concluded, if_pos last]
      rfl
    · simp only [concluded, if_neg last]
      rfl

theorem send_unknown (unknown : opcode.command? = none) (frame : Option Bytes)
    (client : Client π) :
    send opcode frame client = .error (.unknownCommand (opcode.field .ky1)) client := by
  unfold send
  simp only [unknown]
  rfl

theorem send_known (known : opcode.command? = some command) (frame : Option Bytes)
    (client : Client π) :
    send opcode frame client =
      match payload? client.frameSize command frame with
      | .error fault => .error fault client
      | .ok payload =>
        match (if command = .initms ∧ client.inbox.isNone then connect client
          else .ok () client) with
        | .error fault next => .error fault next
        | .ok () start => concluded command (exchange command opcode payload start) := by
  unfold send
  simp only [known]
  change (match payload? client.frameSize command frame with
    | .error fault => throw fault
    | .ok payload => _ : EStateM Fault (Client π) Answer) client = _
  cases payload? client.frameSize command frame with
  | error fault => rfl
  | ok payload =>
    dsimp only
    change (if command = .initms ∧ client.inbox.isNone = true then
        (connect >>= fun _ => _) else _ : EStateM Fault (Client π) Answer) client = _
    by_cases first : command = .initms ∧ client.inbox.isNone
    · rw [if_pos first, if_pos first]
      cases run : connect client with
      | error fault next => exact bind_of_error run
      | ok done start => exact (bind_of_ok run).trans (exchange_concluded _ _ _ _)
    · rw [if_neg first, if_neg first]
      exact exchange_concluded _ _ _ _

/-- Once ready, a client exchanges its request for an answer. -/
theorem send_exchanged {frame : Option Bytes} {start : Client π}
    (known : opcode.command? = some command)
    (allowed : payload? client.frameSize command frame = .ok payload)
    (ready : Ready command client start) :
    send opcode frame client = concluded command (exchange command opcode payload start) := by
  rw [send_known known, allowed]
  dsimp only
  cases ready with
  | already connected =>
    have skipped : ¬(command = .initms ∧ client.inbox.isNone) := by
      rw [Option.isNone_iff_eq_none]
      exact fun both => connected both.2
    rw [if_neg skipped]
  | anew unconnected first listening =>
    have connects : command = .initms ∧ client.inbox.isNone := by
      rw [Option.isNone_iff_eq_none]
      exact ⟨first, unconnected⟩
    rw [if_pos connects, connect_listening listening]

/-- Without a connection, only an INITMS is sent. -/
theorem send_unconnected (unconnected : client.inbox = none) (later : opcode.command? ≠ some .initms)
    (frame : Option Bytes) : ∃ fault, send opcode frame client = .error fault client := by
  cases known : opcode.command? with
  | none => exact ⟨_, send_unknown known frame client⟩
  | some command =>
    have skipped : ¬(command = .initms ∧ client.inbox.isNone) := by
      rintro ⟨rfl, _⟩
      exact later known
    rw [send_known known]
    cases payload? client.frameSize command frame with
    | error fault => exact ⟨fault, rfl⟩
    | ok payload =>
      rw [if_neg skipped]
      dsimp only
      rw [exchange_unconnected unconnected]
      exact ⟨.notConnected, rfl⟩

/-- A request is either not sent at all, or exchanged. -/
theorem sending (opcode : Opcode) (frame : Option Bytes) (client : Client π) :
    (∃ fault, send opcode frame client = .error fault client) ∨
      ∃ command payload start, opcode.command? = some command ∧
        payload? client.frameSize command frame = .ok payload ∧ Ready command client start ∧
        send opcode frame client = concluded command (exchange command opcode payload start) := by
  cases known : opcode.command? with
  | none => exact Or.inl ⟨_, send_unknown known frame client⟩
  | some command =>
    cases allowed : payload? client.frameSize command frame with
    | error fault =>
      left
      refine ⟨fault, ?_⟩
      rw [send_known known, allowed]
    | ok payload =>
      have exchanged {start : Client π} (ready : Ready command client start) :
          ∃ command' payload start, some command = some command' ∧
            payload? client.frameSize command' frame = .ok payload ∧
            Ready command' client start ∧ send opcode frame client =
              concluded command' (exchange command' opcode payload start) :=
        ⟨command, payload, start, rfl, allowed, ready, send_exchanged known allowed ready⟩
      by_cases connected : client.inbox = none
      · by_cases first : command = .initms
        · cases reach : client.network.reach with
          | listening => exact Or.inr (exchanged (.anew connected first reach))
          | failing fault =>
            left
            refine ⟨.io fault, ?_⟩
            rw [send_known known, allowed]
            dsimp only
            rw [if_pos ⟨first, Option.isNone_iff_eq_none.mpr connected⟩, connect_failing reach]
        · left
          refine send_unconnected connected (fun initial => first ?_) frame
          exact Option.some.inj (known.symm.trans initial)
      · exact Or.inr (exchanged (.already connected))

end Client

end CartridgeBank
