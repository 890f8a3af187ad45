import CartridgeBank.Proofs.Coherence
import CartridgeBank.Proofs.Session

namespace CartridgeBank

namespace Device

variable {device : Device} {opcode : Opcode} {frame : Option Bytes} {command : Command}

theorem storeAll_append (device : Device) (first second : List (FrameLocation × Bytes)) :
    device.storeAll (first ++ second) = (device.storeAll first).storeAll second :=
  List.foldl_append

/-- The frame that a request stores, if it is a WRFRME that the device carries out. -/
def written? (device : Device) (opcode : Opcode) (frame : Option Bytes) :
    Option (FrameLocation × Bytes) :=
  if opcode.command? = some .wrfrme ∧ (device.respond opcode frame).1.opcode.isSuccess then
    (device.addressed? opcode).bind fun location => frame.map (location, ·)
  else none

theorem written?_of_command (other : opcode.command? ≠ some .wrfrme) (frame : Option Bytes) :
    device.written? opcode frame = none :=
  if_neg fun both => other both.1

/-- But for a BZERO and a POWOFF, no other frame changes. -/
theorem respond_written (known : opcode.command? = some command)
    (keeps : command ≠ .bzero ∧ command ≠ .powoff) (frame : Option Bytes) :
    (device.storeAll (device.written? opcode frame).toList).SameFrames
      (device.respond opcode frame).2 := by
  have execution : device.Execution opcode frame command (device.respond opcode frame).1
      (device.respond opcode frame).2.plain := respond_execution known frame
  unfold written?
  rw [known]
  revert execution
  generalize (device.respond opcode frame).1 = answer
  generalize (device.respond opcode frame).2 = after
  intro execution
  generalize same : after.plain = plain at execution
  cases execution with
  | refused =>
    rw [if_neg (by simp [Answer.failure])]
    exact .of_plain same
  | zeroed ready loaded => exact absurd rfl keeps.1
  | poweredOff ready => exact absurd rfl keeps.2
  | written ready addressed carried full =>
    obtain ⟨geometry, frames, _, _⟩ := plain_eq_iff.mp same
    rw [if_pos ⟨rfl, by simp⟩, addressed, carried]
    exact ⟨geometry, frames⟩
  | initialized =>
    obtain ⟨geometry, frames, _, _⟩ := plain_eq_iff.mp same
    exact ⟨geometry, frames⟩
  | loaded ready within =>
    obtain ⟨geometry, frames, _, _⟩ := plain_eq_iff.mp same
    exact ⟨geometry, frames⟩
  | read ready addressed =>
    obtain ⟨geometry, frames, _, _⟩ := plain_eq_iff.mp same
    exact ⟨geometry, frames⟩

end Device

/-- The frame that the request has stored, if it has reached the device and stored any. -/
def Sent.stored? (sent : Sent Unreliable) : Option (FrameLocation × Bytes) :=
  sent.found?.bind fun device => device.written? sent.opcode sent.frame

theorem Sent.left_stored {sent : Sent Unreliable} {command : Command}
    (known : sent.opcode.command? = some command) (keeps : command ≠ .bzero ∧ command ≠ .powoff) :
    (sent.transport.device.storeAll sent.stored?.toList).SameFrames sent.left := by
  rw [left_eq, stored?]
  cases found : sent.found? with
  | none => exact ⟨rfl, rfl⟩
  | some device =>
    have same := Device.SameFrames.of_plain (plain_found found).1
    exact (same.storeAll _).trans (Device.respond_written known keeps sent.frame)

/-- The device that an answered request has found. -/
theorem Sent.found_of_answered {opcode : Opcode} {frame : Option Bytes}
    {recorded next : Recorded Unreliable} {answer : Answer}
    (sent : Transport.send opcode frame recorded = .ok answer next) :
    ∃ device, Sent.found? ⟨recorded.transport, opcode, frame⟩ = some device ∧
      (device.respond opcode frame).1 = answer := by
  simp only [Transport.send] at sent
  unfold found? fate
  generalize recorded.transport.fates.head?.getD .answered = fate at sent ⊢
  cases fate with
  | answered =>
    cases sent
    exact ⟨_, rfl, rfl⟩
  | refused =>
    cases sent
    exact ⟨_, rfl, rfl⟩
  | undelivered fault => cases sent
  | lost fault => cases sent

/-- From one moment to another, requests have stored these frames in this order, and no other frame
of the device has changed. -/
structure Stores (pieces : List (FrameLocation × Bytes)) (before after : Recorded Unreliable) :
    Prop where
  sent : ∃ sent, after.sent = before.sent ++ sent ∧ sent.filterMap Sent.stored? = pieces
  frames : (before.device.storeAll pieces).SameFrames after.device

namespace Stores

variable {first second : List (FrameLocation × Bytes)} {before middle after : Recorded Unreliable}

theorem none (recorded : Recorded Unreliable) : Stores [] recorded recorded where
  sent := ⟨[], (List.append_nil _).symm, rfl⟩
  frames := ⟨rfl, rfl⟩

theorem trans (earlier : Stores first before middle) (later : Stores second middle after) :
    Stores (first ++ second) before after where
  sent := by
    obtain ⟨sent, logged, stored⟩ := earlier.sent
    obtain ⟨more, loggedMore, storedMore⟩ := later.sent
    refine ⟨sent ++ more, ?_, ?_⟩
    · rw [loggedMore, logged, List.append_assoc]
    · rw [List.filterMap_append, stored, storedMore]
  frames := by
    rw [Device.storeAll_append]
    exact (earlier.frames.storeAll second).trans later.frames

end Stores

namespace Storage

variable {storage next : Storage (Recorded Unreliable)} {location : FrameLocation} {frame : Bytes}
  {fault : Fault}

theorem execute_stores {command : Command} (keeps : command ≠ .bzero ∧ command ≠ .powoff)
    (cartridge index : UInt16) (payload : Option Bytes)
    (storage : Storage (Recorded Unreliable)) :
    Stores (Sent.stored? ⟨storage.transport.transport, .request command cartridge index,
        payload⟩).toList storage.transport
      ((execute command cartridge index payload).after storage).transport := by
  have frames := @Sent.left_stored
    ⟨storage.transport.transport, .request command cartridge index, payload⟩ _
    (Opcode.command?_request ..) keeps
  have device : (Transport.after (.request command cartridge index) payload
      storage.transport).device =
      Sent.left ⟨storage.transport.transport, .request command cartridge index, payload⟩ :=
    congrArg Unreliable.device (Recorded.transport_after _ _ _)
  rw [execute_after_eq]
  refine ⟨⟨_, Recorded.sent_after _ _ _, ?_⟩, ?_⟩
  · rw [List.filterMap_cons, List.filterMap_nil]
    cases Sent.stored? ⟨storage.transport.transport, .request command cartridge index, payload⟩ <;>
      rfl
  · dsimp only
    rw [device]
    exact frames

/-- Any other request than a WRFRME, a BZERO or a POWOFF stores nothing. -/
theorem execute_stores_none {command : Command}
    (keeps : command ≠ .bzero ∧ command ≠ .powoff ∧ command ≠ .wrfrme) (cartridge index : UInt16)
    (payload : Option Bytes) (storage : Storage (Recorded Unreliable)) :
    Stores [] storage.transport
      ((execute command cartridge index payload).after storage).transport := by
  have stores := execute_stores ⟨keeps.1, keeps.2.1⟩ cartridge index payload storage
  have other : (Opcode.request command cartridge index).command? ≠ some .wrfrme := by
    rw [Opcode.command?_request]
    exact fun same => keeps.2.2 (Option.some.inj same)
  have nothing : Sent.stored? ⟨storage.transport.transport, .request command cartridge index,
      payload⟩ = none := by
    unfold Sent.stored?
    simp only [Device.written?_of_command other, Option.bind_fun_none]
  rwa [nothing] at stores

theorem loadCartridge_stores (cartridge : UInt16) (storage : Storage (Recorded Unreliable)) :
    Stores [] storage.transport ((loadCartridge cartridge).after storage).transport := by
  unfold Operation.after
  rw [loadCartridge_eq]
  by_cases already : storage.active = some cartridge
  · rw [if_pos already]
    exact .none _
  · have stores := @execute_stores_none .ldcart ⟨nofun, nofun, nofun⟩ cartridge 0 none
      { storage with active := none }
    rw [if_neg already]
    unfold Operation.after at stores
    cases sent : execute .ldcart cartridge 0 none { storage with active := none } with
    | ok answer next =>
      rw [sent] at stores
      exact stores
    | error fault next =>
      rw [sent] at stores
      exact stores

theorem fetchFrame_stores (location : FrameLocation) (storage : Storage (Recorded Unreliable)) :
    Stores [] storage.transport ((fetchFrame location).after storage).transport := by
  have loading := loadCartridge_stores location.cartridge storage
  rw [(fetchFrame_kin location storage).transport]
  unfold Operation.after at loading ⊢
  rw [visit_eq]
  cases load : loadCartridge location.cartridge storage with
  | error fault loaded =>
    rw [load] at loading
    exact loading
  | ok done loaded =>
    rw [load] at loading
    have fetching := @execute_stores_none .rdfrme ⟨nofun, nofun, nofun⟩ 0 location.frame
      none loaded
    exact loading.trans fetching

theorem readFrame_stores (location : FrameLocation) (storage : Storage (Recorded Unreliable)) :
    Stores [] storage.transport ((readFrame location).after storage).transport := by
  obtain ⟨found, cache, looked⟩ := cached?_ok location storage
  unfold Operation.after readFrame
  rw [Operation.bind_apply, looked]
  cases found with
  | some frame => exact .none _
  | none => exact fetchFrame_stores location { storage with cache }

theorem readFrames_stores (locations : List FrameLocation)
    (storage : Storage (Recorded Unreliable)) :
    Stores [] storage.transport ((readFrames locations).after storage).transport := by
  induction locations generalizing storage with
  | nil => exact .none _
  | cons location rest ih =>
    have reading := readFrame_stores location storage
    unfold Operation.after at ih reading ⊢
    rw [readFrames_cons]
    cases run : readFrame location storage with
    | error fault middle =>
      rw [run] at reading
      exact reading
    | ok frame middle =>
      rw [run] at reading
      have others := reading.trans (ih middle)
      dsimp only
      cases runRest : readFrames rest middle with
      | error fault last =>
        rw [runRest] at others
        exact others
      | ok frames last =>
        rw [runRest] at others
        exact others

/-- A WRFRME for a frame of the loaded cartridge can store no other frame. -/
theorem stored?_wrfrme {recorded : Recorded Unreliable}
    (loaded : recorded.device.active = some location.cartridge) {piece : FrameLocation × Bytes}
    (stored : Sent.stored? ⟨recorded.transport, .request .wrfrme 0 location.frame, some frame⟩ =
      some piece) : piece = (location, frame) := by
  obtain ⟨device, found, written⟩ := Option.bind_eq_some_iff.mp stored
  have active : device.active = some location.cartridge :=
    (Device.plain_eq_iff.mp (Sent.plain_found found).1).2.2.2.trans loaded
  unfold Device.written? at written
  split at written
  · obtain ⟨addressed, here, same⟩ := Option.bind_eq_some_iff.mp written
    obtain rfl := addressed_location active here
    exact (Option.some.inj same).symm
  · cases written

/-- One that succeeds has stored the frame. -/
theorem stored?_wrfrme_ok {answer : Answer}
    (loaded : storage.transport.device.active = some location.cartridge)
    (run : execute .wrfrme 0 location.frame (some frame) storage = .ok answer next) :
    Sent.stored? ⟨storage.transport.transport, .request .wrfrme 0 location.frame, some frame⟩ =
      some (location, frame) := by
  have known : (Opcode.request .wrfrme 0 location.frame).command? = some .wrfrme :=
    Opcode.command?_request ..
  rw [execute_eq] at run
  split at run
  · rename_i received transport sent
    obtain ⟨device, found, answered⟩ := Sent.found_of_answered sent
    split at run
    · cases run
    · split at run
      · rename_i success
        have execution : device.Execution (Opcode.request .wrfrme 0 location.frame) (some frame)
            .wrfrme (device.respond (Opcode.request .wrfrme 0 location.frame) (some frame)).1
            (device.respond (Opcode.request .wrfrme 0 location.frame) (some frame)).2.plain :=
          Device.respond_execution known _
        have stored : ∃ addressed,
            device.addressed? (Opcode.request .wrfrme 0 location.frame) = some addressed := by
          rw [answered] at execution
          generalize (device.respond _ _).2.plain = after at execution
          cases execution with
          | refused => simp [Answer.failure] at success
          | written ready addressed carried full => exact ⟨_, addressed⟩
        obtain ⟨addressed, here⟩ := stored
        have active : device.active = some location.cartridge :=
          (Device.plain_eq_iff.mp (Sent.plain_found found).1).2.2.2.trans loaded
        obtain rfl := addressed_location active here
        unfold Sent.stored? Device.written?
        rw [found, Option.bind_some]
        dsimp only
        rw [if_pos ⟨known, answered ▸ success⟩, here]
        rfl
      · cases run
  · cases run

/-- A frame that is written is stored; one that is not may be stored all the same. -/
theorem writeFrame_stores (inStep : InStep Recorded.device storage) (location : FrameLocation)
    (frame : Bytes) :
    (∀ next, writeFrame location frame storage = .ok () next →
      Stores [(location, frame)] storage.transport next.transport) ∧
      ∀ fault next, writeFrame location frame storage = .error fault next →
        ∃ stored, stored <+: [(location, frame)] ∧
          Stores stored storage.transport next.transport := by
  have loading := loadCartridge_stores location.cartridge storage
  have kept := loadCartridge_kept relays inStep location.cartridge
  rw [writeFrame_eq]
  cases load : loadCartridge location.cartridge storage with
  | error fault loaded =>
    rw [Operation.after_of_error load] at loading
    refine ⟨fun next written => (by cases written), ?_⟩
    rintro _ _ ⟨⟩
    exact ⟨[], List.nil_prefix, loading⟩
  | ok done loaded =>
    rw [Operation.after_of_ok load] at loading kept
    have active : loaded.active = some location.cartridge := by
      obtain ⟨transport, rfl⟩ := loadCartridge_ok load
      rfl
    obtain ⟨_, onDevice⟩ := kept.inStep.loaded location.cartridge active
    have writing := @execute_stores .wrfrme ⟨nofun, nofun⟩ 0 location.frame
      (some frame) loaded
    dsimp only
    cases sent : execute .wrfrme 0 location.frame (some frame) loaded with
    | ok answer next =>
      rw [Operation.after_of_ok sent, stored?_wrfrme_ok onDevice sent] at writing
      refine ⟨?_, fun fault next failed => by cases failed⟩
      rintro _ ⟨⟩
      exact loading.trans writing
    | error fault next =>
      rw [Operation.after_of_error sent] at writing
      refine ⟨fun next written => (by cases written), ?_⟩
      rintro _ _ ⟨⟩
      refine ⟨_, ?_, loading.trans writing⟩
      cases stored : Sent.stored? ⟨loaded.transport.transport,
          .request .wrfrme 0 location.frame, some frame⟩ with
      | none => exact List.nil_prefix
      | some piece =>
        rw [stored?_wrfrme onDevice stored]
        exact List.prefix_refl _

/-- However storing ends, some first frames of those asked for are stored, and all if it succeeds. -/
theorem store_stores {handle : Handle} {pieces : List (FrameLocation × Bytes)}
    {claimed : List FrameLocation} {result : Except Fault Unit}
    (inStep : InStep Recorded.device storage)
    (run : store handle pieces storage = (claimed, result, next)) :
    ∃ stored, stored <+: pieces ∧ (result = .ok () → stored = pieces) ∧
      Stores stored storage.transport next.transport := by
  induction pieces generalizing storage claimed with
  | nil =>
    cases run
    exact ⟨[], List.prefix_refl _, fun _ => rfl, .none _⟩
  | cons piece rest ih =>
    obtain ⟨location, frame⟩ := piece
    unfold store at run
    rw [claim_eq] at run
    cases claim : storage.table.claim location handle with
    | error fault =>
      simp only [claim] at run
      cases run
      exact ⟨[], List.nil_prefix, fun success => (by cases success), .none _⟩
    | ok table =>
      simp only [claim] at run
      have claimed : InStep Recorded.device { storage with table } := inStep.framed
      obtain ⟨written, failed⟩ := writeFrame_stores claimed location frame
      obtain ⟨relayed, _⟩ := writeFrame_relayed relays claimed location frame
      split at run
      · -- the piece whose request failed may have been stored all the same
        rename_i fault middle write
        cases run
        obtain ⟨stored, part, stores⟩ := failed fault _ write
        refine ⟨stored, part.trans (List.prefix_append [(location, frame)] rest), ?_, stores⟩
        exact fun success => by cases success
      · rename_i middle write
        cases run
        obtain ⟨stored, part, whole, stores⟩ := ih (relayed middle write).1 rfl
        refine ⟨(location, frame) :: stored, List.prefix_cons_inj _ |>.mpr part, ?_, ?_⟩
        · intro success
          rw [whole success]
        · exact (written middle write).trans stores

end Storage

end CartridgeBank
