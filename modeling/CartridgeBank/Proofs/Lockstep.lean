import CartridgeBank.Proofs.Dialogue

namespace CartridgeBank

open Wire

variable {σ : Type} [Transport σ]

/-- The answers accepted on a connection were given, in order, to the first requests on it. After
those come the requests of which no answer was accepted. -/
def Paired (deliveries : List (Delivered (Host σ))) (accepted : List Accepted) (connection : Nat)
    (unanswered : List (Delivered (Host σ))) : Prop :=
  ∃ answered, deliveries.filter (·.connection = connection) = answered ++ unanswered ∧
    List.Forall₂ Delivered.Brought answered (accepted.filter (·.connection = connection))

namespace Paired

variable {deliveries unanswered : List (Delivered (Host σ))} {accepted : List Accepted}
  {connection : Nat} {delivery : Delivered (Host σ)} {answer : Accepted}

theorem unanswered_eq_nil (paired : Paired deliveries accepted connection unanswered)
    (none : ∀ delivery ∈ deliveries, delivery.connection ≠ connection) : unanswered = [] := by
  obtain ⟨answered, parts, _⟩ := paired
  have nothing : deliveries.filter (·.connection = connection) = [] := by
    refine List.filter_eq_nil_iff.mpr fun delivery member on => ?_
    exact none delivery member (of_decide_eq_true on)
  exact (List.append_eq_nil_iff.mp (parts.symm.trans nothing)).2

/-- Requests on other connections do not matter. -/
theorem elsewhere (paired : Paired deliveries accepted connection unanswered)
    (other : delivery.connection ≠ connection) :
    Paired (deliveries ++ [delivery]) accepted connection unanswered := by
  have apart : [delivery].filter (·.connection = connection) = [] := by simp [other]
  obtain ⟨answered, parts, brought⟩ := paired
  refine ⟨answered, ?_, brought⟩
  rw [List.filter_append, apart, List.append_nil, parts]

theorem accepted_elsewhere (paired : Paired deliveries accepted connection unanswered)
    (other : answer.connection ≠ connection) :
    Paired deliveries (accepted ++ [answer]) connection unanswered := by
  have apart : [answer].filter (·.connection = connection) = [] := by simp [other]
  obtain ⟨answered, parts, brought⟩ := paired
  refine ⟨answered, parts, ?_⟩
  rw [List.filter_append, apart, List.append_nil]
  exact brought

/-- A request may stay without an answer that is accepted. -/
theorem append (paired : Paired deliveries accepted connection unanswered)
    (here : delivery.connection = connection) :
    Paired (deliveries ++ [delivery]) accepted connection (unanswered ++ [delivery]) := by
  have one : [delivery].filter (·.connection = connection) = [delivery] := by simp [here]
  obtain ⟨answered, parts, brought⟩ := paired
  refine ⟨answered, ?_, brought⟩
  rw [List.filter_append, one, parts, List.append_assoc]

/-- The answer to a request that follows on answered requests only is the next one accepted. -/
theorem accept (paired : Paired deliveries accepted connection [])
    (here : delivery.connection = connection) (its : answer.connection = connection)
    (brought : delivery.Brought answer) :
    Paired (deliveries ++ [delivery]) (accepted ++ [answer]) connection [] := by
  have one : [delivery].filter (·.connection = connection) = [delivery] := by simp [here]
  have alsoOne : [answer].filter (·.connection = connection) = [answer] := by simp [its]
  obtain ⟨answered, parts, before⟩ := paired
  refine ⟨answered ++ [delivery], ?_, ?_⟩
  · rw [List.filter_append, one, parts, List.append_nil, List.append_nil]
  · rw [List.filter_append, alsoOne]
    exact List.rel_append before (.cons brought .nil)

theorem length_eq (paired : Paired deliveries accepted connection []) :
    (accepted.filter (·.connection = connection)).length =
      (deliveries.filter (·.connection = connection)).length := by
  obtain ⟨answered, parts, brought⟩ := paired
  rw [parts, List.append_nil]
  exact brought.length_eq.symm

/-- The n-th answer accepted was given to the n-th request. -/
theorem getElem? (paired : Paired deliveries accepted connection unanswered) {n : Nat}
    (nth : (accepted.filter (·.connection = connection))[n]? = some answer) :
    ∃ delivery, (deliveries.filter (·.connection = connection))[n]? = some delivery ∧
      delivery.Brought answer := by
  obtain ⟨answered, parts, brought⟩ := paired
  obtain ⟨within, value⟩ := List.getElem?_eq_some_iff.mp nth
  have bound : n < answered.length := brought.length_eq.symm ▸ within
  refine ⟨answered[n], ?_, ?_⟩
  · rw [parts, List.getElem?_append_left bound, List.getElem?_eq_getElem bound]
  · rw [← value]
    exact brought.get bound within

end Paired

/-- Where a client and its server stand between two calls. -/
structure Lockstep (dialogue : Dialogue σ) : Prop where
  fits : dialogue.client.frameSize < 2 ^ 64
  short : FramesFit dialogue.host.relay.device
  waiting : dialogue.client.inbox = none ∨
    dialogue.client.inbox = some [] ∧ dialogue.host.unread = some []
  past : ∀ delivery ∈ dialogue.deliveries, delivery.connection ≤ dialogue.connections
  /-- While the client is connected, every request on the connection has been answered. -/
  paired : ∀ connection, ∃ unanswered,
    Paired dialogue.deliveries dialogue.accepted connection unanswered ∧
      (dialogue.client.inbox ≠ none → connection = dialogue.connections → unanswered = [])

/-- A server reads the frame that goes out with a request. -/
theorem carried_outgoing {opcode : Opcode} {command : Command} {frame : Option Bytes}
    (known : opcode.command? = some command) :
    carried (Client.outgoing command frame) =
      if opcode.command? = some .wrfrme then carried frame else none := by
  unfold Client.outgoing
  by_cases sends : command = .wrfrme
  · rw [if_pos sends, if_pos (sends ▸ known)]
    cases frame <;> rfl
  · have other : opcode.command? ≠ some .wrfrme := by
      rw [known]
      exact fun same => sends (Option.some.inj same)
    rw [if_neg sends, if_neg other]
    rfl

/-- What a client makes of the answer to its request. -/
theorem brought_of_came {opcode : Opcode} {command : Command} {frame payload : Option Bytes}
    {host : Host σ} (connection : Nat) (known : opcode.command? = some command)
    (same : payload = Client.outgoing command frame)
    (came : (Peer.deliver (encode opcode payload) host).1 =
      encodeAnswer (host.relay.respond { opcode, frame := carried payload }).1) :
    Delivered.Brought
      ⟨connection, encode opcode payload, host, (Peer.deliver (encode opcode payload) host).1⟩
      ⟨connection, opcode, frame,
        { (host.relay.respond { opcode, frame := carried payload }).1 with
          frame := carried (host.relay.respond { opcode, frame := carried payload }).1.frame }⟩ := by
  have asked (answer : Answer) : Accepted.request ⟨connection, opcode, frame, answer⟩ =
      { opcode, frame := carried payload } := by
    rw [same, carried_outgoing known]
    rfl
  unfold Delivered.Brought
  rw [asked]
  exact ⟨(encode_carried opcode payload).symm, came, rfl, carried_getD _⟩

namespace Lockstep

variable {dialogue : Dialogue σ} {command : Command} {opcode : Opcode} {frame payload : Option Bytes}

theorem fresh {frameSize : Nat} (fits : frameSize < 2 ^ 64) (reach : Reach) {relay : Relay σ}
    (short : FramesFit relay.device) : Lockstep (Dialogue.fresh frameSize reach relay) where
  fits := fits
  short := short
  waiting := Or.inl rfl
  past := nofun
  paired _ := ⟨[], ⟨[], rfl, .nil⟩, fun connected => absurd rfl connected⟩

theorem hangUp (lockstep : Lockstep dialogue) :
    Lockstep { dialogue with client := dialogue.client.hangUp } := by
  unfold Client.hangUp
  cases connected : dialogue.client.inbox with
  | none => exact lockstep
  | some unread =>
    refine ⟨lockstep.fits, lockstep.short, Or.inl rfl, lockstep.past, fun connection => ?_⟩
    obtain ⟨unanswered, paired, _⟩ := lockstep.paired connection
    exact ⟨unanswered, paired, fun connected => absurd rfl connected⟩

/-- A new connection has no past. -/
theorem dialed (lockstep : Lockstep dialogue) :
    Lockstep { dialogue with client := dialogue.client.dialed } := by
  refine ⟨lockstep.fits, lockstep.short, Or.inr ⟨rfl, rfl⟩, ?_, ?_⟩
  · intro delivery member
    exact Nat.le_succ_of_le (lockstep.past delivery member)
  · intro connection
    obtain ⟨unanswered, paired, _⟩ := lockstep.paired connection
    refine ⟨unanswered, paired, fun _ latest => ?_⟩
    refine paired.unanswered_eq_nil fun delivery member same => ?_
    have before := lockstep.past delivery member
    have later : connection = dialogue.connections + 1 := latest
    omega

theorem past_delivered (lockstep : Lockstep dialogue) {delivery : Delivered (Host σ)}
    (latest : delivery.connection = dialogue.connections) :
    ∀ other ∈ dialogue.deliveries ++ [delivery], other.connection ≤ dialogue.connections := by
  intro other member
  rcases List.mem_append.mp member with old | new
  · exact lockstep.past other old
  · rw [List.mem_singleton.mp new]
    exact latest.le

/-- The last request on a connection may stay without an answer that is accepted. -/
theorem dropped (lockstep : Lockstep dialogue) (connected : dialogue.client.inbox ≠ none)
    {bytes : Bytes} (onward : Onward dialogue.host.relay.device
      (Peer.deliver bytes dialogue.host).2.relay.device) :
    Lockstep { dialogue with client := (dialogue.client.delivered bytes).hangUp } := by
  have gone : (dialogue.client.delivered bytes).inbox ≠ none := connected
  rw [Client.hangUp_of_connected gone]
  refine ⟨lockstep.fits, lockstep.short.onward onward, Or.inl rfl,
    lockstep.past_delivered rfl, fun connection => ?_⟩
  obtain ⟨unanswered, paired, _⟩ := lockstep.paired connection
  by_cases here : dialogue.connections = connection
  · exact ⟨_, paired.append here, fun connected => absurd rfl connected⟩
  · exact ⟨_, paired.elsewhere here, fun connected => absurd rfl connected⟩

/-- The answer to the latest request is the next one accepted on its connection. -/
theorem answered (lockstep : Lockstep dialogue) (connected : dialogue.client.inbox ≠ none)
    {bytes : Bytes} {answer : Accepted} (latest : answer.connection = dialogue.connections)
    (brought : Delivered.Brought ⟨dialogue.connections, bytes, dialogue.host,
      (Peer.deliver bytes dialogue.host).1⟩ answer)
    (connection : Nat) : ∃ unanswered,
      Paired (dialogue.client.delivered bytes).network.peer.deliveries
        (dialogue.accepted ++ [answer]) connection unanswered ∧
      (connection = dialogue.connections → unanswered = []) := by
  obtain ⟨unanswered, paired, complete⟩ := lockstep.paired connection
  by_cases here : dialogue.connections = connection
  · obtain rfl := complete connected here.symm
    exact ⟨[], paired.accept here (latest.trans here) brought, fun _ => rfl⟩
  · have apart : answer.connection ≠ connection := by rwa [latest]
    exact ⟨unanswered, (paired.elsewhere here).accepted_elsewhere apart,
      fun same => absurd same.symm here⟩

/-- How an exchange ends: in step, and without a connection if it fails or was the last one. -/
def Ends (dialogue : Dialogue σ) (command : Command) (opcode : Opcode) (frame : Option Bytes) :
    EStateM.Result Fault (Client (Tapped (Host σ))) Answer → Prop
  | .ok answer client => Lockstep { client, accepted := dialogue.accepted ++
        [{ connection := client.network.peer.connections, opcode, frame, answer }] } ∧
      (command = .powoff → client.inbox = none)
  | .error _ client => Lockstep { dialogue with client } ∧ client.inbox = none

/-- The client takes the answer of the server. -/
theorem ends_accepted (lockstep : Lockstep dialogue) (connected : dialogue.client.inbox ≠ none)
    (known : opcode.command? = some command) (same : payload = Client.outgoing command frame)
    (short : (payload.getD []).length < 2 ^ 64)
    (full : payload.getD [] = [] ∨ (payload.getD []).length = dialogue.host.relay.frameSize)
    {answer : Answer}
    (given : (dialogue.host.relay.respond { opcode, frame := carried payload }).1 = answer)
    (readable : answer.frame.getD [] = [] ∨ command.returnsFrame = true ∧
      (answer.frame.getD []).length = dialogue.client.frameSize) :
    Ends dialogue command opcode frame
      (Client.concluded command (Client.exchange command opcode payload dialogue.client)) := by
  subst given
  obtain ⟨empty, waiting⟩ := lockstep.waiting.resolve_left connected
  have sent := Host.deliver_encode opcode waiting short full
  have came := congrArg Prod.fst sent
  have onward := Host.onward_deliver opcode waiting short full
  have brought := brought_of_came dialogue.connections known same came
  have paired := lockstep.answered connected rfl brought
  rw [Client.exchange_answer empty came (lockstep.short.respond _) readable]
  by_cases last : command = .powoff
  · simp only [Client.concluded, if_pos last]
    refine ⟨?_, fun _ => Client.inbox_hangUp _⟩
    rw [Client.hangUp_of_connected (Option.some_ne_none _)]
    refine ⟨lockstep.fits, lockstep.short.onward onward, Or.inl rfl,
      lockstep.past_delivered rfl, fun connection => ?_⟩
    obtain ⟨unanswered, paired, _⟩ := paired connection
    exact ⟨unanswered, paired, fun connected => absurd rfl connected⟩
  · have further : ¬Relay.isLast { opcode, frame := carried payload } = true := by
      simpa [Relay.isLast, known] using last
    have unread : (Peer.deliver (encode opcode payload) dialogue.host).2.unread = some [] := by
      rw [sent]
      exact if_neg further
    simp only [Client.concluded, if_neg last]
    refine ⟨⟨lockstep.fits, lockstep.short.onward onward, Or.inr ⟨rfl, unread⟩,
      lockstep.past_delivered rfl, fun connection => ?_⟩, fun powoff => absurd powoff last⟩
    obtain ⟨unanswered, paired, complete⟩ := paired connection
    exact ⟨unanswered, paired, fun _ => complete⟩

/-- One exchange on an open connection. -/
theorem exchanged (lockstep : Lockstep dialogue) (connected : dialogue.client.inbox ≠ none)
    (known : opcode.command? = some command)
    (allowed : Client.payload? dialogue.client.frameSize command frame = .ok payload) :
    Ends dialogue command opcode frame
      (Client.concluded command (Client.exchange command opcode payload dialogue.client)) := by
  obtain ⟨empty, waiting⟩ := lockstep.waiting.resolve_left connected
  obtain ⟨same, whole⟩ := Client.payload?_ok allowed
  have short : (payload.getD []).length < 2 ^ 64 := by
    rcases whole with nothing | full
    · rw [nothing]
      exact Nat.two_pow_pos 64
    · rw [full]
      exact lockstep.fits
  by_cases full : payload.getD [] = [] ∨ (payload.getD []).length = dialogue.host.relay.frameSize
  · -- The server reads the request and answers it.
    have came := congrArg Prod.fst (Host.deliver_encode opcode waiting short full)
    have fit := lockstep.short.respond { opcode, frame := carried payload }
    generalize given : (dialogue.host.relay.respond { opcode, frame := carried payload }).1 = answer
      at came fit
    by_cases readable : answer.frame.getD [] = [] ∨
        command.returnsFrame = true ∧ (answer.frame.getD []).length = dialogue.client.frameSize
    · exact lockstep.ends_accepted connected known same short full given readable
    · have onward := Host.onward_deliver opcode waiting short full
      obtain ⟨fault, failed⟩ := Client.exchange_odd empty came fit readable
      rw [failed]
      exact ⟨lockstep.dropped connected onward, Client.inbox_hangUp _⟩
  · -- The server closes the connection.
    obtain ⟨some, odd⟩ := not_or.mp full
    have sent := Host.deliver_odd opcode waiting short some odd
    have onward : Onward dialogue.host.relay.device
        (Peer.deliver (encode opcode payload) dialogue.host).2.relay.device := by
      rw [sent]
      exact .start
    rw [Client.exchange_nothing empty (congrArg Prod.fst sent)]
    exact ⟨lockstep.dropped connected onward, Client.inbox_hangUp _⟩

/-- A call that is an exchange ends connected only with an answer; any other call changes nothing. -/
theorem send (lockstep : Lockstep dialogue) (opcode : Opcode) (frame : Option Bytes) :
    match Transport.send opcode frame dialogue.client with
    | .ok answer client => Lockstep { client, accepted := dialogue.accepted ++
          [{ connection := client.network.peer.connections, opcode, frame, answer }] } ∧
        (opcode.command? = some .powoff → client.inbox = none)
    | .error _ client => Lockstep { dialogue with client } ∧
        (client.inbox = none ∨ client = dialogue.client) := by
  rcases Client.sending opcode frame dialogue.client with
    ⟨fault, unsent⟩ | ⟨command, payload, start, known, allowed, ready, exchange⟩
  · simp only [Transport.send, unsent]
    exact ⟨lockstep, Or.inr trivial⟩
  · have started : Lockstep { dialogue with client := start } ∧ start.inbox ≠ none ∧
        start.frameSize = dialogue.client.frameSize := by
      cases ready with
      | already connected => exact ⟨lockstep, connected, rfl⟩
      | anew _ _ _ => exact ⟨lockstep.dialed, Option.some_ne_none _, rfl⟩
    obtain ⟨lockstep, connected, sameSize⟩ := started
    have outcome := lockstep.exchanged connected known (sameSize ▸ allowed)
    simp only [Transport.send, exchange]
    generalize Client.concluded command (Client.exchange command opcode payload start) = ending
      at outcome ⊢
    cases ending with
    | ok answer client =>
      exact ⟨outcome.1, fun powoff => outcome.2 (Option.some.inj (known.symm.trans powoff))⟩
    | error fault client => exact ⟨outcome.1, Or.inl outcome.2⟩

theorem take (lockstep : Lockstep dialogue) (call : ClientCall) : Lockstep (dialogue.take call) := by
  cases call with
  | disconnect => exact lockstep.hangUp
  | send opcode frame =>
    have sent := lockstep.send opcode frame
    cases result : Transport.send opcode frame dialogue.client with
    | ok answer client =>
      rw [result] at sent
      simp only [Dialogue.take, result]
      exact sent.1
    | error fault client =>
      rw [result] at sent
      simp only [Dialogue.take, result]
      exact sent.1

theorem run (lockstep : Lockstep dialogue) (calls : List ClientCall) :
    Lockstep (dialogue.run calls) := by
  induction calls generalizing dialogue with
  | nil => exact lockstep
  | cons call rest ih => exact ih (lockstep.take call)

end Lockstep

/-- A client and a server never get out of step, whatever is sent and whatever the device answers,
also if they disagree on the size of a frame. Between calls the client is disconnected, or the
server waits for its next request with nothing left to read on either side and no request
unanswered. The n-th answer accepted on a connection was given to the n-th request on it. A call
that fails has sent nothing, or leaves the client disconnected; so does a POWOFF that is answered.
While disconnected, only an INITMS sends anything. -/
theorem Dialogue.in_lockstep {frameSize : Nat} (fits : frameSize < 2 ^ 64) (reach : Reach)
    {relay : Relay σ} (short : FramesFit relay.device) (calls : List ClientCall) :
    let dialogue := (Dialogue.fresh frameSize reach relay).run calls
    (dialogue.client.inbox = none ∨
      dialogue.client.inbox = some [] ∧ dialogue.host.unread = some [] ∧
        (dialogue.acceptedOn dialogue.connections).length =
          (dialogue.deliveriesOn dialogue.connections).length) ∧
    (∀ (connection n : Nat) (accepted : Accepted),
      (dialogue.acceptedOn connection)[n]? = some accepted →
      ∃ delivery, (dialogue.deliveriesOn connection)[n]? = some delivery ∧
        delivery.Brought accepted) ∧
    (∀ opcode frame, match Transport.send opcode frame dialogue.client with
      | .ok _ next => opcode.command? = some .powoff → next.inbox = none
      | .error _ next => next.inbox = none ∨ next = dialogue.client) ∧
    (dialogue.client.inbox = none → ∀ opcode frame, opcode.command? ≠ some .initms →
      ∃ fault, Transport.send opcode frame dialogue.client = .error fault dialogue.client) := by
  intro dialogue
  have lockstep : Lockstep dialogue := (Lockstep.fresh fits reach short).run calls
  refine ⟨?_, ?_, ?_, ?_⟩
  · by_cases connected : dialogue.client.inbox = none
    · exact Or.inl connected
    · obtain ⟨empty, waiting⟩ := lockstep.waiting.resolve_left connected
      obtain ⟨unanswered, paired, complete⟩ := lockstep.paired dialogue.connections
      obtain rfl := complete connected rfl
      exact Or.inr ⟨empty, waiting, paired.length_eq⟩
  · intro connection n accepted nth
    obtain ⟨unanswered, paired, _⟩ := lockstep.paired connection
    exact paired.getElem? nth
  · intro opcode frame
    have sent := lockstep.send opcode frame
    cases result : Transport.send opcode frame dialogue.client with
    | ok answer next =>
      rw [result] at sent
      exact sent.2
    | error fault next =>
      rw [result] at sent
      exact sent.2
  · intro unconnected opcode frame later
    exact Client.send_unconnected unconnected later frame

/-- A run in which the server expects longer frames than the client sends. It drops the first
connection at a WRFRME. On the second one the device refuses a RDFRME. -/
def Dialogue.acrossSizes : Dialogue Device :=
  (Dialogue.fresh 2 .listening { device := { geometry := ⟨1, 1, 2⟩ }, frameSize := 3 }).run
    [.send (.request .initms 0 0) none, .send (.request .ldcart 0 0) none,
      .send (.request .wrfrme 0 0) (some [1, 2]), .send (.request .rdfrme 0 0) none,
      .send (.request .initms 0 0) none, .send (.request .rdfrme 0 0) none]

theorem Dialogue.in_lockstep_across_sizes :
    ∃ delivery, (acrossSizes.deliveriesOn 2)[1]? = some delivery ∧ delivery.Brought
      ⟨2, .request .rdfrme 0 0, none, .failure (.request .rdfrme 0 0)⟩ := by
  have short : FramesFit ({ geometry := ⟨1, 1, 2⟩ } : Device) :=
    Device.framesFit (.created _) (by decide)
  have second : (acrossSizes.acceptedOn 2)[1]? =
      some ⟨2, .request .rdfrme 0 0, none, .failure (.request .rdfrme 0 0)⟩ := by cbv
  exact (in_lockstep (by decide) .listening short _).2.1 2 1 _ second

end CartridgeBank
