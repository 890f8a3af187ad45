import CartridgeBank.Proofs.Quiet
import CartridgeBank.Proofs.Settled
import CartridgeBank.Proofs.StoredFrames

namespace CartridgeBank

namespace Sent

/-- The fault that a request ends with, if the device has no reason of its own to refuse it. -/
def fault? (sent : Sent Unreliable) : Option Fault :=
  match sent.fate with
  | .undelivered fault | .lost fault => some fault
  | .answered | .refused =>
    if sent.injected then sent.opcode.command?.map (.deviceFailure · (sent.opcode.withRet true))
    else none

variable {opcode : Opcode} {frame : Option Bytes} {recorded next : Recorded Unreliable}

theorem fault?_of_answered {answer : Answer}
    (sent : Transport.send opcode frame recorded = .ok answer next) :
    fault? ⟨recorded.transport, opcode, frame⟩ =
      if injected ⟨recorded.transport, opcode, frame⟩ then
        opcode.command?.map (.deviceFailure · (opcode.withRet true))
      else none := by
  simp only [Transport.send] at sent
  unfold fault? fate
  generalize recorded.transport.fates.head?.getD .answered = fate at sent ⊢
  cases fate with
  | answered => rfl
  | refused => rfl
  | undelivered fault => cases sent
  | lost fault => cases sent

theorem fault?_of_failed {fault : Fault}
    (sent : Transport.send opcode frame recorded = .error fault next) :
    fault? ⟨recorded.transport, opcode, frame⟩ = some fault := by
  simp only [Transport.send] at sent
  unfold fault? fate
  generalize recorded.transport.fates.head?.getD .answered = fate at sent ⊢
  cases fate with
  | answered => cases sent
  | refused => cases sent
  | undelivered other =>
    cases sent
    rfl
  | lost other =>
    cases sent
    rfl

end Sent

namespace Errand

variable {errand : Errand} {storage next : Storage (Recorded Unreliable)}

/-- An errand that the device has no reason to refuse ends with a fault only if its request meets
with one, and then with that. -/
theorem run_fault? (sound : Turn.Sound ⟨errand, storage⟩) :
    (Turn.sent ⟨errand, storage⟩).fault? =
      match errand.run storage with
      | .ok _ _ => none
      | .error fault _ => some fault := by
  unfold Errand.run
  rw [Storage.execute_eq]
  cases sent : Transport.send (Opcode.request errand.command errand.cartridge errand.index)
      errand.payload storage.transport with
  | error fault transport => exact Sent.fault?_of_failed sent
  | ok answer transport =>
    obtain ⟨device, found, responded⟩ := Sent.found_of_answered sent
    have opcode : answer.opcode =
        (Opcode.request errand.command errand.cartridge errand.index).withRet
          (Turn.sent ⟨errand, storage⟩).injected := by
      rw [← responded]
      exact (sound.answered found).1
    refine (Sent.fault?_of_answered sent).trans ?_
    dsimp only
    rw [opcode, if_neg (not_not_intro (Opcode.field_withRet_request ..)), Opcode.isSuccess_withRet,
      Opcode.command?_request]
    change (if (Turn.sent ⟨errand, storage⟩).injected then _ else _) = _
    cases (Turn.sent ⟨errand, storage⟩).injected <;> rfl

end Errand

/-- All requests will be answered, and the device is to refuse none of them. -/
structure Unreliable.Calm (link : Unreliable) : Prop where
  faults : link.device.faults = {}
  fates : ∀ fate ∈ link.fates, fate = .answered

theorem Device.faults_respond {device : Device} (quiet : device.faults = {}) (opcode : Opcode)
    (frame : Option Bytes) : (device.respond opcode frame).2.faults = {} := by
  cases known : opcode.command? with
  | none => rw [respond_unknown known, refuse, quiet]
  | some command =>
    rw [faults_respond_known known, quiet]
    cases command <;> rfl

namespace Unreliable

variable {link : Unreliable}

theorem Calm.next (calm : link.Calm) : link.fates.head?.getD .answered = .answered := by
  cases fates : link.fates with
  | nil => rfl
  | cons fate rest => exact calm.fates fate (fates ▸ List.mem_cons_self)

theorem Calm.after (calm : link.Calm) (opcode : Opcode) (frame : Option Bytes) :
    (Transport.after opcode frame link).Calm := by
  simp only [Transport.after, Transport.send, calm.next]
  exact ⟨Device.faults_respond calm.faults opcode frame,
    fun fate member => calm.fates fate (List.mem_of_mem_tail member)⟩

theorem Calm.fault? (calm : link.Calm) (opcode : Opcode) (frame : Option Bytes) :
    Sent.fault? ⟨link, opcode, frame⟩ = none := by
  have answered : Sent.fate ⟨link, opcode, frame⟩ = .answered := calm.next
  have untold : Sent.injected ⟨link, opcode, frame⟩ = false := by
    unfold Sent.injected Sent.found?
    rw [answered]
    cases opcode.command? with
    | none => rfl
    | some command =>
      change (link.device.faults.tick command).1 = false
      rw [calm.faults]
      cases command <;> rfl
  unfold Sent.fault?
  rw [answered, untold]
  rfl

theorem arises_after (arises : link.device.Arises) (opcode : Opcode) (frame : Option Bytes) :
    (Transport.after opcode frame link).device.Arises := by
  have primed : (primed link.device opcode).Arises := by
    unfold Unreliable.primed
    split
    · exact arises
    · exact .armed _ 1 arises
  simp only [Transport.after, Transport.send]
  cases link.fates.head?.getD .answered with
  | answered => exact .responded opcode frame arises
  | refused => exact .responded opcode frame primed
  | undelivered fault => exact arises
  | lost fault => exact .responded opcode frame arises

end Unreliable

/-- Requests that are sent along a script, up to the first that meets with a fault. -/
inductive Scripted : List Opcode → List (Sent Unreliable) → Option Fault → Prop
  | finished : Scripted [] [] none
  | stopped {script : List Opcode} {request : Sent Unreliable} {fault : Fault} :
      request.frame = none → request.fault? = some fault →
      Scripted (request.opcode :: script) [request] (some fault)
  | passed {script : List Opcode} {request : Sent Unreliable} {sent : List (Sent Unreliable)}
      {outcome : Option Fault} : request.frame = none → request.fault? = none →
      Scripted script sent outcome → Scripted (request.opcode :: script) (request :: sent) outcome

namespace Scripted

variable {script first second : List Opcode} {sent earlier later : List (Sent Unreliable)}
  {outcome : Option Fault} {fault : Fault}

theorem append (before : Scripted first earlier none) (after : Scripted second later outcome) :
    Scripted (first ++ second) (earlier ++ later) outcome := by
  generalize passing : (none : Option Fault) = result at before
  induction before with
  | finished => exact after
  | stopped bare failed => cases passing
  | passed bare succeeded _ ih => exact .passed bare succeeded (ih passing)

theorem stop (before : Scripted first sent (some fault)) (second : List Opcode) :
    Scripted (first ++ second) sent (some fault) := by
  generalize failing : some fault = result at before ⊢
  induction before with
  | finished => cases failing
  | stopped bare failed => exact .stopped bare failed
  | passed bare succeeded _ ih => exact .passed bare succeeded (ih failing)

theorem frame_eq_none (scripted : Scripted script sent outcome) {request : Sent Unreliable}
    (member : request ∈ sent) : request.frame = none := by
  induction scripted with
  | finished => cases member
  | stopped bare failed => exact List.mem_singleton.mp member ▸ bare
  | passed bare succeeded _ ih =>
    rcases List.mem_cons.mp member with rfl | member
    · exact bare
    · exact ih member

theorem clean (scripted : Scripted script sent outcome) (passing : outcome = none) :
    ∀ request ∈ sent, request.fault? = none := by
  induction scripted with
  | finished => exact fun request member => absurd member List.not_mem_nil
  | stopped bare failed => cases passing
  | passed bare succeeded _ ih =>
    intro other member
    rcases List.mem_cons.mp member with rfl | member
    · exact succeeded
    · exact ih passing other member

/-- Without a fault, the script is followed to its end. -/
theorem whole (scripted : Scripted script sent outcome)
    (clean : ∀ request ∈ sent, request.fault? = none) :
    outcome = none ∧ sent.map Sent.opcode = script := by
  induction scripted with
  | finished => exact ⟨rfl, rfl⟩
  | stopped bare failed => cases failed.symm.trans (clean _ List.mem_cons_self)
  | passed bare succeeded _ ih =>
    obtain ⟨rfl, same⟩ := ih fun request member => clean request (List.mem_cons_of_mem _ member)
    exact ⟨rfl, congrArg _ same⟩

/-- Nothing is sent after a request that meets with a fault. -/
theorem cut (scripted : Scripted script sent outcome) {index : Nat} {request : Sent Unreliable}
    (here : sent[index]? = some request) (failed : request.fault? = some fault) :
    outcome = some fault ∧ sent.map Sent.opcode = script.take (index + 1) := by
  induction scripted generalizing index with
  | finished => cases here
  | stopped bare found =>
    cases index with
    | zero =>
      cases here
      exact ⟨found.symm.trans failed, rfl⟩
    | succ index => cases here
  | passed bare succeeded _ ih =>
    cases index with
    | zero =>
      cases here
      cases succeeded.symm.trans failed
    | succ index =>
      obtain ⟨same, opcodes⟩ := ih here
      exact ⟨same, congrArg _ opcodes⟩

end Scripted

/-- From one moment to another, requests have been sent along a script. -/
structure Ran (script : List Opcode) (outcome : Option Fault)
    (before after : Recorded Unreliable) : Prop where
  sent : ∃ sent, after.sent = before.sent ++ sent ∧ Scripted script sent outcome
  arises : before.device.Arises → after.device.Arises
  calm : before.transport.Calm → outcome = none ∧ after.transport.Calm

namespace Ran

variable {first second : List Opcode} {outcome : Option Fault} {fault : Fault}
  {before middle after : Recorded Unreliable}

theorem none (recorded : Recorded Unreliable) : Ran [] none recorded recorded where
  sent := ⟨[], (List.append_nil _).symm, .finished⟩
  arises := id
  calm calm := ⟨rfl, calm⟩

theorem trans (earlier : Ran first .none before middle) (later : Ran second outcome middle after) :
    Ran (first ++ second) outcome before after where
  sent := by
    obtain ⟨sent, logged, scripted⟩ := earlier.sent
    obtain ⟨more, loggedMore, scriptedMore⟩ := later.sent
    refine ⟨sent ++ more, ?_, scripted.append scriptedMore⟩
    rw [loggedMore, logged, List.append_assoc]
  arises arises := later.arises (earlier.arises arises)
  calm calm := later.calm (earlier.calm calm).2

theorem stop (ran : Ran first (some fault) before after) (second : List Opcode) :
    Ran (first ++ second) (some fault) before after where
  sent := by
    obtain ⟨sent, logged, scripted⟩ := ran.sent
    exact ⟨sent, logged, scripted.stop second⟩
  arises := ran.arises
  calm := ran.calm

end Ran

namespace Storage

/-- How an operation ends that sends requests along a script. If none meets with a fault, it succeeds
and leaves what it is to leave; otherwise it fails with that fault. -/
inductive Follows {α : Type} (script : List Opcode) (leaves : Storage (Recorded Unreliable) → Prop)
    (before : Storage (Recorded Unreliable)) :
    EStateM.Result Fault (Storage (Recorded Unreliable)) α → Prop
  | finished {value : α} {next : Storage (Recorded Unreliable)} :
      Ran script none before.transport next.transport → leaves next →
      Follows script leaves before (.ok value next)
  | stopped {fault : Fault} {next : Storage (Recorded Unreliable)} :
      Ran script (some fault) before.transport next.transport →
      Follows script leaves before (.error fault next)

variable {storage : Storage (Recorded Unreliable)}

/-- One request, which the device has no reason of its own to refuse. -/
theorem errand_follows {errand : Errand} (sound : Turn.Sound ⟨errand, storage⟩)
    (bare : errand.payload = none) :
    Follows [errand.opcode] (fun next => next = errand.run.after storage ∧
      ∃ answer, answer.opcode.isSuccess = true ∧
        storage.transport.device.Execution errand.opcode none errand.command answer
          next.transport.device.plain) storage (errand.run storage) := by
  have fault? := Errand.run_fault? sound
  -- the same stretch of one request, whichever way it ends
  have ran {outcome : Option Fault} (met : (Turn.sent ⟨errand, storage⟩).fault? = outcome) :
      Ran [errand.opcode] outcome storage.transport (errand.run.after storage).transport := by
    unfold Errand.run
    rw [execute_after_eq]
    change Ran _ _ _ (Transport.after errand.opcode errand.payload storage.transport)
    have link := Recorded.transport_after errand.opcode errand.payload storage.transport
    refine ⟨⟨[Turn.sent ⟨errand, storage⟩], Recorded.sent_after _ _ _, ?_⟩, fun arises => ?_,
      fun calm => ?_⟩
    · cases outcome with
      | none => exact .passed bare met .finished
      | some fault => exact .stopped bare met
    · unfold Recorded.device
      rw [link]
      exact Unreliable.arises_after arises _ _
    · rw [link]
      exact ⟨met.symm.trans (calm.fault? _ _), calm.after _ _⟩
  cases run : errand.run storage with
  | error fault next =>
    rw [run] at fault?
    have ran := ran fault?
    rw [Operation.after_of_error run] at ran
    exact .stopped ran
  | ok answer next =>
    rw [run] at fault?
    have ran := ran fault?
    rw [Operation.after_of_ok run] at ran
    obtain ⟨success, transport, rfl, execution⟩ := execute_relayed relays run
    rw [bare] at execution
    exact .finished ran ⟨(Operation.after_of_ok run).symm, answer, success, execution⟩

theorem Follows.bind {α β : Type} {first second : List Opcode}
    {middle last : Storage (Recorded Unreliable) → Prop}
    {operation : Operation (Recorded Unreliable) α} {rest : α → Operation (Recorded Unreliable) β}
    (one : Follows first middle storage (operation storage))
    (two : ∀ value next, middle next → Follows second last next (rest value next)) :
    Follows (first ++ second) last storage ((operation >>= rest) storage) := by
  rw [Operation.bind_apply]
  cases run : operation storage with
  | error fault next =>
    rw [run] at one
    cases one with
    | stopped ran => exact .stopped (ran.stop second)
  | ok value next =>
    rw [run] at one
    cases one with
    | finished ran left =>
      have later := two value next left
      dsimp only
      generalize rest value next = result at later ⊢
      cases later with
      | finished more done => exact .finished (ran.trans more) done
      | stopped more => exact .stopped (ran.trans more)

/-- A loop follows the scripts of its steps, one after the other. What holds may tell how far it has
come. -/
theorem forM_follows {script : Nat → List Opcode} {step : Nat → Operation (Recorded Unreliable) PUnit}
    {holds : Nat → Storage (Recorded Unreliable) → Prop} {first count : Nat}
    (each : ∀ index < first + count, ∀ storage, holds index storage →
      Follows (script index) (holds (index + 1)) storage (step index storage))
    (start : holds first storage) :
    Follows ((List.range' first count).flatMap script) (holds (first + count)) storage
      ((List.range' first count).forM step storage) := by
  induction count generalizing first storage with
  | zero => exact .finished (.none _) start
  | succ count ih =>
    have one := each first (by omega) storage start
    have later : ∀ index < first + 1 + count, ∀ storage, holds index storage →
        Follows (script index) (holds (index + 1)) storage (step index storage) :=
      fun index within => each index (by omega)
    rw [List.range'_succ, List.flatMap_cons, ← Nat.add_assoc, Nat.add_right_comm]
    exact one.bind fun _ next held => ih later held

end Storage

end CartridgeBank
