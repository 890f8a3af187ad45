import CartridgeBank.Proofs.Errands
import CartridgeBank.Proofs.InStep

namespace CartridgeBank

theorem Recorded.relays {σ : Type} [Transport σ] {view : σ → Device} (relays : Relays view) :
    Relays fun recorded : Recorded σ => view recorded.transport where
  answered known sent := by
    simp only [Transport.send] at sent
    split at sent
    · rename_i answer transport reached
      cases sent
      exact relays.answered known reached
    · cases sent
  failed known sent := by
    simp only [Transport.send] at sent
    split at sent
    · cases sent
    · rename_i fault transport reached
      cases sent
      exact relays.failed known reached
  disconnected recorded := relays.disconnected recorded.transport

def Recorded.device (recorded : Recorded Unreliable) : Device := recorded.transport.device

namespace Sent

/-- What becomes of the request. -/
def fate (sent : Sent Unreliable) : Fate := sent.transport.fates.head?.getD .answered

/-- The device as the request finds it, if it is delivered. -/
def found? (sent : Sent Unreliable) : Option Device :=
  match sent.fate with
  | .undelivered _ => none
  | .refused => some (Unreliable.primed sent.transport.device sent.opcode)
  | .answered | .lost _ => some sent.transport.device

/-- Whether the device is told to refuse the request. -/
def injected (sent : Sent Unreliable) : Bool :=
  match sent.found?, sent.opcode.command? with
  | some device, some command => (device.faults.tick command).1
  | _, _ => false

/-- What the device answers, whether or not the answer arrives. -/
def answer? (sent : Sent Unreliable) : Option Answer :=
  sent.found?.map fun device => (device.respond sent.opcode sent.frame).1

/-- The device once the request is through. -/
def left (sent : Sent Unreliable) : Device :=
  (Transport.after sent.opcode sent.frame sent.transport).device

/-- A device that a request reaches responds to it. -/
theorem left_eq (sent : Sent Unreliable) :
    sent.left = match sent.found? with
      | none => sent.transport.device
      | some device => (device.respond sent.opcode sent.frame).2 := by
  simp only [left, Transport.after, Transport.send, found?, fate]
  cases sent.transport.fates.head?.getD .answered <;> rfl

theorem plain_found {sent : Sent Unreliable} {device : Device}
    (found : sent.found? = some device) :
    device.plain = sent.transport.device.plain ∧ device.stats = sent.transport.device.stats := by
  unfold found? at found
  split at found
  · cases found
  · cases found
    refine ⟨Unreliable.plain_primed _ _, ?_⟩
    unfold Unreliable.primed
    split <;> rfl
  · cases found
    exact ⟨rfl, rfl⟩
  · cases found
    exact ⟨rfl, rfl⟩

end Sent

theorem Recorded.sent_after {σ : Type} [Transport σ] (opcode : Opcode) (frame : Option Bytes)
    (recorded : Recorded σ) :
    (Transport.after opcode frame recorded).sent =
      recorded.sent ++ [⟨recorded.transport, opcode, frame⟩] := by
  simp only [Transport.after, Transport.send]
  cases Transport.send opcode frame recorded.transport <;> rfl

theorem Recorded.transport_after {σ : Type} [Transport σ] (opcode : Opcode) (frame : Option Bytes)
    (recorded : Recorded σ) :
    (Transport.after opcode frame recorded).transport =
      Transport.after opcode frame recorded.transport := by
  simp only [Transport.after, Transport.send]
  cases Transport.send opcode frame recorded.transport <;> rfl

theorem Errand.command?_opcode (errand : Errand) : errand.opcode.command? = some errand.command :=
  Opcode.command?_request _ _ _

/-- A request for a frame is sent on an errand about a frame. -/
theorem Errand.target_of_command {errand : Errand}
    (framed : errand.opcode.command? = some .rdfrme ∨ errand.opcode.command? = some .wrfrme) :
    ∃ location, errand.target? = some location := by
  rw [errand.command?_opcode] at framed
  cases errand with
  | fetch location => exact ⟨location, rfl⟩
  | store location frame => exact ⟨location, rfl⟩
  | start => simp [command] at framed
  | finish => simp [command] at framed
  | load cartridge => simp [command] at framed
  | zero cartridge => simp [command] at framed

/-- What the storage knows as it sends an errand. -/
def Errand.Due (storage : Storage (Recorded Unreliable)) : Errand → Prop
  | .start | .finish => storage.active = none
  | .load cartridge =>
    storage.active = none ∧ cartridge.toNat < storage.config.geometry.cartridges
  | .zero cartridge => storage.active = some cartridge
  | .fetch location => storage.active = some location.cartridge ∧
      storage.config.geometry.contains location = true
  | .store location frame => storage.active = some location.cartridge ∧
      storage.config.geometry.contains location = true ∧ frame.length = storage.frameSize

/-- The frame that the errand is about is read or replaced, and no other one. -/
def Errand.CarriedOut (before : Device) (answer : Answer) (after : Device) : Errand → Prop
  | .fetch location =>
    answer.frame = some (before.content location) ∧ after.frames = before.frames
  | .store location frame => after.frames = before.frames.insert location frame
  | _ => True

/-- The storage knows which cartridge is loaded, the device has no reason to refuse the errand, and
the frame that the request addresses is the one that the errand is about. -/
structure Turn.Sound (turn : Turn (Recorded Unreliable)) : Prop where
  loaded : ∀ cartridge, turn.storage.active = some cartridge →
    turn.storage.transport.device.initialized = true ∧
      turn.storage.transport.device.active = some cartridge
  accepted : turn.storage.transport.device.Accepts turn.errand.opcode turn.errand.payload
    turn.errand.command
  aimed : ∀ location, turn.errand.target? = some location →
    turn.storage.transport.device.addressed? turn.errand.opcode = some location

/-- Requests that one storage sends on its way to another. Of these the device refuses no more than
it is told to. -/
structure Works (turns : List (Turn (Recorded Unreliable)))
    (before after : Storage (Recorded Unreliable)) : Prop where
  geometry : after.config.geometry = before.config.geometry
  sent : after.transport.sent = before.transport.sent ++ turns.map Turn.sent
  failures : after.transport.device.stats.failures =
    before.transport.device.stats.failures + (turns.map Turn.sent).countP Sent.injected
  sound : ∀ turn ∈ turns, turn.Sound

namespace Works

variable {first second : List (Turn (Recorded Unreliable))}
  {before middle after : Storage (Recorded Unreliable)}

theorem none (geometry : after.config.geometry = before.config.geometry)
    (transport : after.transport = before.transport) : Works [] before after where
  geometry := geometry
  sent := by rw [transport, List.map_nil, List.append_nil]
  failures := by rw [transport, List.map_nil, List.countP_nil, Nat.add_zero]
  sound turn member := absurd member List.not_mem_nil

theorem trans (earlier : Works first before middle) (later : Works second middle after) :
    Works (first ++ second) before after where
  geometry := later.geometry.trans earlier.geometry
  sent := by rw [later.sent, earlier.sent, List.map_append, List.append_assoc]
  failures := by
    rw [later.failures, earlier.failures, List.map_append, List.countP_append]
    omega
  sound turn member := (List.mem_append.mp member).elim (earlier.sound turn) (later.sound turn)

theorem congr {start last : Storage (Recorded Unreliable)} (works : Works first before after)
    (geometry : start.config.geometry = before.config.geometry)
    (transport : start.transport = before.transport)
    (lastGeometry : last.config.geometry = after.config.geometry)
    (lastTransport : last.transport = after.transport) : Works first start last where
  geometry := by rw [lastGeometry, works.geometry, geometry]
  sent := by rw [lastTransport, works.sent, transport]
  failures := by rw [lastTransport, works.failures, transport]
  sound := works.sound

end Works

namespace Turn

variable {turn : Turn (Recorded Unreliable)}

/-- A sound request fails exactly if the device is told to refuse it. -/
theorem Sound.answered (sound : turn.Sound) {device : Device}
    (found : turn.sent.found? = some device) :
    (device.respond turn.errand.opcode turn.errand.payload).1.opcode =
        turn.errand.opcode.withRet turn.sent.injected ∧
      (device.respond turn.errand.opcode turn.errand.payload).2.stats.failures =
        turn.storage.transport.device.stats.failures + turn.sent.injected.toNat := by
  obtain ⟨plain, stats⟩ := Sent.plain_found found
  have known := turn.errand.command?_opcode
  have accepts := sound.accepted.of_plain plain
  obtain ⟨answer, failures⟩ := Device.respond_of_accepts known accepts
  have told : turn.sent.injected = (device.faults.tick turn.errand.command).1 := by
    unfold Sent.injected
    rw [found, show turn.sent.opcode.command? = some turn.errand.command from known]
  rw [told]
  refine ⟨answer, failures.trans ?_⟩
  rw [stats]
  rfl

/-- A device that a sound request finds addresses the frame that the errand is about. -/
theorem Sound.addressed (sound : turn.Sound) {device : Device} {location : FrameLocation}
    (found : turn.sent.found? = some device) (target : turn.errand.target? = some location) :
    device.addressed? turn.errand.opcode = some location := by
  obtain ⟨geometry, _, _, active⟩ := Device.plain_eq_iff.mp (Sent.plain_found found).1
  obtain ⟨loaded, index, inside⟩ := Device.addressed?_eq_some_iff.mp (sound.aimed location target)
  exact Device.addressed?_eq_some_iff.mpr
    ⟨active.trans loaded, index, (congrArg (·.contains location) geometry).trans inside⟩

/-- A sound request that the device is not told to refuse is carried out. -/
theorem Sound.carriedOut (sound : turn.Sound) {device : Device}
    (found : turn.sent.found? = some device) (untold : turn.sent.injected = false) :
    turn.errand.CarriedOut device (device.respond turn.sent.opcode turn.sent.frame).1
      turn.sent.left := by
  rw [Sent.left_eq, found]
  change turn.errand.CarriedOut device
    (device.respond turn.errand.opcode turn.errand.payload).1
    (device.respond turn.errand.opcode turn.errand.payload).2
  have success : (device.respond turn.errand.opcode turn.errand.payload).1.opcode.isSuccess =
      true := by
    rw [(sound.answered found).1, untold, Opcode.isSuccess_withRet]
    rfl
  have execution : device.Execution turn.errand.opcode turn.errand.payload turn.errand.command
      (device.respond turn.errand.opcode turn.errand.payload).1
      (device.respond turn.errand.opcode turn.errand.payload).2.plain :=
    Device.respond_execution turn.errand.command?_opcode turn.errand.payload
  revert success execution
  generalize (device.respond turn.errand.opcode turn.errand.payload).1 = answer
  generalize (device.respond turn.errand.opcode turn.errand.payload).2 = after
  intro success execution
  generalize same : after.plain = plain at execution
  obtain ⟨errand, storage⟩ := turn
  cases errand with
  | fetch location =>
    have aimed := sound.addressed found rfl
    cases execution with
    | refused => simp [Answer.failure] at success
    | read ready addressed =>
      obtain rfl := Option.some.inj (addressed.symm.trans aimed)
      exact ⟨rfl, (Device.plain_eq_iff.mp same).2.1⟩
  | store location frame =>
    have aimed := sound.addressed found rfl
    cases execution with
    | refused => simp [Answer.failure] at success
    | written ready addressed carried full =>
      obtain rfl := Option.some.inj (addressed.symm.trans aimed)
      cases carried
      exact (Device.plain_eq_iff.mp same).2.1
  | start => trivial
  | finish => trivial
  | load cartridge => trivial
  | zero cartridge => trivial

end Turn

namespace Errand

open Storage

variable {errand : Errand} {storage : Storage (Recorded Unreliable)}

theorem addressed_of_loaded {device : Device} {command : Command} {location : FrameLocation}
    (loaded : device.active = some location.cartridge)
    (inside : device.geometry.contains location = true) :
    device.addressed? (Opcode.request command 0 location.frame) = some location := by
  refine Device.addressed?_eq_some_iff.mpr ⟨loaded, ?_, inside⟩
  rw [Opcode.frame_request]

theorem aimed_of_due (inStep : InStep Recorded.device storage) (due : errand.Due storage)
    {location : FrameLocation} (target : errand.target? = some location) :
    storage.transport.device.addressed? errand.opcode = some location := by
  have here (active : storage.active = some location.cartridge)
      (inside : storage.config.geometry.contains location = true) (command : Command) :
      storage.transport.device.addressed? (Opcode.request command 0 location.frame) =
        some location := by
    refine addressed_of_loaded (inStep.loaded _ active).2 ?_
    rw [inStep.shape]
    exact inside
  cases errand with
  | fetch wanted =>
    cases target
    exact here due.1 due.2 _
  | store wanted frame =>
    cases target
    exact here due.1 due.2.1 _
  | start => cases target
  | finish => cases target
  | load cartridge => cases target
  | zero cartridge => cases target

/-- The device has no reason to refuse a request that is due. -/
theorem sound_of_due (inStep : InStep Recorded.device storage)
    (ready : errand ≠ .start → storage.transport.device.initialized = true)
    (due : errand.Due storage) : Turn.Sound ⟨errand, storage⟩ := by
  refine ⟨inStep.loaded, ?_, fun location target => aimed_of_due inStep due target⟩
  cases errand with
  | start => trivial
  | finish => exact ready nofun
  | load cartridge =>
    refine ⟨ready nofun, ?_⟩
    rw [inStep.shape]
    exact (Opcode.cartridge_request ..).symm ▸ due.2
  | zero cartridge => exact ⟨ready nofun, cartridge, (inStep.loaded cartridge due).2⟩
  | fetch location => exact ⟨ready nofun, location, aimed_of_due inStep due rfl⟩
  | store location frame =>
    have full : frame.length = storage.transport.device.geometry.frameSize := by
      rw [inStep.shape]
      exact due.2.2
    exact ⟨ready nofun, location, frame, aimed_of_due inStep due rfl, rfl, full⟩

/-- A sound request fails only if the device is told to refuse it. -/
theorem run_works (sound : Turn.Sound ⟨errand, storage⟩) :
    Works [⟨errand, storage⟩] storage (errand.run.after storage) := by
  unfold Errand.run
  rw [execute_after_eq]
  refine ⟨rfl, Recorded.sent_after _ _ _, ?_, ?_⟩
  · have left : (Transport.after errand.opcode errand.payload storage.transport).device =
        (Turn.sent ⟨errand, storage⟩).left :=
      congrArg Unreliable.device (Recorded.transport_after _ _ _)
    rw [List.map_singleton, List.countP_singleton]
    refine (congrArg (·.stats.failures) left).trans ?_
    rw [Sent.left_eq]
    cases found : (Turn.sent ⟨errand, storage⟩).found? with
    | none =>
      have missed : (Turn.sent ⟨errand, storage⟩).injected = false := by
        unfold Sent.injected
        rw [found]
      rw [missed]
      rfl
    | some device =>
      refine (sound.answered found).2.trans ?_
      cases (Turn.sent ⟨errand, storage⟩).injected <;> rfl
  · intro turn member
    rwa [List.mem_singleton.mp member]

end Errand

end CartridgeBank
