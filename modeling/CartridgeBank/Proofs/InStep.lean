import CartridgeBank.Proofs.Powering
import CartridgeBank.Proofs.Relays

namespace CartridgeBank

namespace Storage

variable {σ : Type} {view : σ → Device} {storage next : Storage σ} {fault : Fault}

/-- The storage knows which cartridge its device has loaded, and both are of one geometry. -/
structure InStep (view : σ → Device) (storage : Storage σ) : Prop where
  shape : (view storage.transport).geometry = storage.config.geometry
  whole : (view storage.transport).Whole
  loaded : ∀ cartridge, storage.active = some cartridge →
    (view storage.transport).initialized = true ∧
      (view storage.transport).active = some cartridge

/-- What an operation leaves that changes no frame of the device. -/
structure Kept (view : σ → Device) (before after : Storage σ) : Prop where
  inStep : InStep view after
  same : (view before.transport).SameFrames (view after.transport)

theorem InStep.relayed (inStep : InStep view storage) {transport : σ}
    (whole : (view transport).Whole)
    (geometry : (view transport).geometry = (view storage.transport).geometry)
    (initialized : (view transport).initialized = (view storage.transport).initialized)
    (active : (view transport).active = (view storage.transport).active) :
    InStep view { storage with transport } := by
  refine ⟨geometry.trans inStep.shape, whole, fun cartridge known => ?_⟩
  obtain ⟨ready, loaded⟩ := inStep.loaded cartridge known
  exact ⟨initialized.trans ready, active.trans loaded⟩

/-- Only the transport, the geometry and the loaded cartridge count. -/
theorem InStep.framed (inStep : InStep view storage) {cacheFrames : Nat} {endpoint : Endpoint}
    {cache : Option FrameCache} {table : Ownership} {files : Registry} {poweredOn : Bool} :
    InStep view {
      config := { geometry := storage.config.geometry, cacheFrames, endpoint }
      transport := storage.transport
      active := storage.active
      cache, table, files, poweredOn } :=
  ⟨inStep.shape, inStep.whole, inStep.loaded⟩

theorem InStep.cleared (inStep : InStep view storage) {cache : Option FrameCache}
    {poweredOn : Bool} : InStep view { storage.cleared with cache, poweredOn } :=
  ⟨inStep.shape, inStep.whole, nofun⟩

theorem InStep.kept (inStep : InStep view storage) : Kept view storage storage :=
  ⟨inStep, rfl, rfl⟩

theorem Kept.trans {before middle after : Storage σ} (first : Kept view before middle)
    (second : Kept view middle after) : Kept view before after :=
  ⟨second.inStep, first.same.trans second.same⟩

theorem Kept.recached {before after : Storage σ} (kept : Kept view before after)
    {cache : Option FrameCache} : Kept view before { after with cache } :=
  ⟨kept.inStep.framed, kept.same⟩

variable [Transport σ] {command : Command} {cartridge index : UInt16} {payload : Option Bytes}
  {location : FrameLocation} {frame : Bytes}

/-- A request that succeeds has been carried out. -/
theorem execute_relayed (relays : Relays view) {answer : Answer}
    (run : execute command cartridge index payload storage = .ok answer next) :
    answer.opcode.isSuccess = true ∧ ∃ transport, next = { storage with transport } ∧
      (view storage.transport).Execution (Opcode.request command cartridge index) payload command
        answer (view transport).plain := by
  rw [execute_eq] at run
  split at run
  · rename_i received transport sent
    split at run
    · cases run
    · split at run
      · rename_i success
        cases run
        exact ⟨success, transport, rfl, relays.answered (Opcode.command?_request ..) sent⟩
      · cases run
  · cases run

/-- A request that fails may have been carried out all the same. -/
theorem execute_relayed_error (relays : Relays view)
    (run : execute command cartridge index payload storage = .error fault next) :
    ∃ transport answer, next = { storage with transport } ∧
      (view storage.transport).Execution (Opcode.request command cartridge index) payload command
        answer (view transport).plain := by
  rw [execute_eq] at run
  split at run
  · rename_i received transport sent
    have done := relays.answered (Opcode.command?_request ..) sent
    split at run
    · cases run
      exact ⟨transport, received, rfl, done⟩
    · split at run
      · cases run
      · cases run
        exact ⟨transport, received, rfl, done⟩
  · rename_i failure transport sent
    cases run
    obtain ⟨answer, done⟩ := relays.failed (Opcode.command?_request ..) sent
    exact ⟨transport, answer, rfl, done⟩

theorem loadCartridge_kept (relays : Relays view) (inStep : InStep view storage)
    (cartridge : UInt16) :
    Kept view storage ((loadCartridge cartridge).after storage) := by
  unfold Operation.after
  rw [loadCartridge_eq]
  by_cases already : storage.active = some cartridge
  · rw [if_pos already]
    exact inStep.kept
  · rw [if_neg already]
    cases sent : execute .ldcart cartridge 0 none { storage with active := none } with
    | ok answer next =>
      obtain ⟨success, transport, rfl, execution⟩ := execute_relayed relays sent
      have whole := execution.whole inStep.whole
      generalize after : (view transport).plain = plain at execution
      cases execution with
      | refused => simp [Answer.failure] at success
      | loaded ready within =>
        obtain ⟨geometry, frames, initialized, active⟩ := Device.plain_eq_iff.mp after
        refine ⟨⟨geometry.trans inStep.shape, whole, ?_⟩, geometry, frames⟩
        rintro _ ⟨⟩
        rw [Opcode.cartridge_request] at active
        exact ⟨initialized.trans ready, active⟩
    | error fault next =>
      obtain ⟨transport, answer, rfl, execution⟩ := execute_relayed_error relays sent
      have frames : (view storage.transport).SameFrames (view transport) := by
        generalize after : (view transport).plain = plain at execution
        cases execution with
        | refused => exact .of_plain after
        | loaded ready within =>
          obtain ⟨geometry, frames, _, _⟩ := Device.plain_eq_iff.mp after
          exact ⟨geometry, frames⟩
      exact ⟨⟨frames.geometry.trans inStep.shape, inStep.whole.congr frames,
        fun cartridge known => by cases known⟩, frames⟩

theorem addressed_location {device : Device} {addressed : FrameLocation}
    (loaded : device.active = some location.cartridge)
    (found : device.addressed? (Opcode.request command cartridge location.frame) =
      some addressed) : addressed = location := by
  obtain ⟨active, sameFrame, _⟩ := Device.addressed?_eq_some_iff.mp found
  have sameCartridge := Option.some.inj (active.symm.trans loaded)
  rw [Opcode.frame_request] at sameFrame
  cases addressed
  cases location
  simp_all

/-- A frame read from the device is what the device holds, and the device stays as it is. -/
theorem rdfrme_relayed (relays : Relays view) (inStep : InStep view storage)
    (active : storage.active = some location.cartridge) :
    Kept view storage ((execute .rdfrme 0 location.frame none).after storage) ∧
      ∀ answer next, execute .rdfrme 0 location.frame none storage = .ok answer next →
        answer.frame = some ((view storage.transport).content location) := by
  obtain ⟨ready, loaded⟩ := inStep.loaded location.cartridge active
  have stays {transport : σ} (same : (view transport).plain = (view storage.transport).plain) :
      Kept view storage { storage with transport } := by
    obtain ⟨geometry, frames, initialized, active⟩ := Device.plain_eq_iff.mp same
    exact ⟨inStep.relayed (inStep.whole.congr (.of_plain same)) geometry initialized active,
      geometry, frames⟩
  unfold Operation.after
  cases sent : execute .rdfrme 0 location.frame none storage with
  | ok answer next =>
    obtain ⟨success, transport, rfl, execution⟩ := execute_relayed relays sent
    generalize after : (view transport).plain = plain at execution
    cases execution with
    | refused => simp [Answer.failure] at success
    | read ready addressed =>
      refine ⟨stays after, ?_⟩
      rintro _ _ ⟨⟩
      rw [addressed_location loaded addressed]
  | error fault next =>
    obtain ⟨transport, answer, rfl, execution⟩ := execute_relayed_error relays sent
    refine ⟨?_, fun answer next answered => by cases answered⟩
    generalize after : (view transport).plain = plain at execution
    cases execution with
    | refused => exact stays after
    | read ready addressed => exact stays after

theorem fetchFrame_relayed (relays : Relays view) (inStep : InStep view storage)
    (location : FrameLocation) :
    Kept view storage ((fetchFrame location).after storage) ∧
      ∀ frame next, fetchFrame location storage = .ok frame next →
        frame = (view storage.transport).content location := by
  have loading := loadCartridge_kept relays inStep location.cartridge
  unfold Operation.after
  rw [fetchFrame_eq]
  cases load : loadCartridge location.cartridge storage with
  | error fault loaded =>
    rw [Operation.after_of_error load] at loading
    exact ⟨loading, nofun⟩
  | ok value loaded =>
    rw [Operation.after_of_ok load] at loading
    have active : loaded.active = some location.cartridge := by
      obtain ⟨transport, rfl⟩ := loadCartridge_ok load
      rfl
    obtain ⟨kept, answered⟩ := rdfrme_relayed relays loading.inStep active
    dsimp only
    cases sent : execute .rdfrme 0 location.frame none loaded with
    | error fault next =>
      rw [Operation.after_of_error sent] at kept
      exact ⟨loading.trans kept, nofun⟩
    | ok answer next =>
      rw [Operation.after_of_ok sent] at kept
      have frame := answered answer next sent
      by_cases full : (answer.frame.getD []).length = next.frameSize
      · simp only [if_pos full]
        refine ⟨(loading.trans kept).recached, ?_⟩
        rintro _ _ ⟨⟩
        rw [frame, loading.same.content]
        rfl
      · simp only [if_neg full]
        exact ⟨loading.trans kept, nofun⟩

/-- A frame sent to the device is stored where it belongs, or not at all. -/
theorem wrfrme_relayed (relays : Relays view) (inStep : InStep view storage)
    (active : storage.active = some location.cartridge) (frame : Bytes) :
    (∀ answer next, execute .wrfrme 0 location.frame (some frame) storage = .ok answer next →
      InStep view next ∧
        ((view storage.transport).store location frame).SameFrames (view next.transport)) ∧
      ∀ fault next, execute .wrfrme 0 location.frame (some frame) storage = .error fault next →
        InStep view next ∧ ((view storage.transport).SameFrames (view next.transport) ∨
          ((view storage.transport).store location frame).SameFrames (view next.transport)) := by
  obtain ⟨_, loaded⟩ := inStep.loaded location.cartridge active
  refine ⟨fun answer next sent => ?_, fun fault next sent => ?_⟩
  · obtain ⟨success, transport, rfl, execution⟩ := execute_relayed relays sent
    have whole := execution.whole inStep.whole
    generalize after : (view transport).plain = plain at execution
    cases execution with
    | refused => simp [Answer.failure] at success
    | written ready addressed carried full =>
      cases carried
      obtain rfl := addressed_location loaded addressed
      obtain ⟨geometry, frames, initialized, active⟩ := Device.plain_eq_iff.mp after
      exact ⟨inStep.relayed whole geometry initialized active, geometry, frames⟩
  · obtain ⟨transport, answer, rfl, execution⟩ := execute_relayed_error relays sent
    have whole := execution.whole inStep.whole
    generalize after : (view transport).plain = plain at execution
    cases execution with
    | refused =>
      obtain ⟨geometry, frames, initialized, active⟩ := Device.plain_eq_iff.mp after
      exact ⟨inStep.relayed whole geometry initialized active, Or.inl ⟨geometry, frames⟩⟩
    | written ready addressed carried full =>
      cases carried
      obtain rfl := addressed_location loaded addressed
      obtain ⟨geometry, frames, initialized, active⟩ := Device.plain_eq_iff.mp after
      exact ⟨inStep.relayed whole geometry initialized active, Or.inr ⟨geometry, frames⟩⟩

theorem writeFrame_relayed (relays : Relays view) (inStep : InStep view storage)
    (location : FrameLocation) (frame : Bytes) :
    (∀ next, writeFrame location frame storage = .ok () next → InStep view next ∧
      ((view storage.transport).store location frame).SameFrames (view next.transport)) ∧
      ∀ fault next, writeFrame location frame storage = .error fault next → InStep view next ∧
        ((view storage.transport).SameFrames (view next.transport) ∨
          ((view storage.transport).store location frame).SameFrames (view next.transport)) := by
  have loading := loadCartridge_kept relays inStep location.cartridge
  rw [writeFrame_eq]
  cases load : loadCartridge location.cartridge storage with
  | error fault loaded =>
    rw [Operation.after_of_error load] at loading
    refine ⟨nofun, ?_⟩
    rintro _ _ ⟨⟩
    exact ⟨loading.inStep, Or.inl loading.same⟩
  | ok value loaded =>
    rw [Operation.after_of_ok load] at loading
    have active : loaded.active = some location.cartridge := by
      obtain ⟨transport, rfl⟩ := loadCartridge_ok load
      rfl
    obtain ⟨written, failed⟩ := wrfrme_relayed relays loading.inStep active frame
    have moved := loading.same.store location frame
    dsimp only
    cases sent : execute .wrfrme 0 location.frame (some frame) loaded with
    | ok answer next =>
      obtain ⟨inStep, stored⟩ := written answer next sent
      refine ⟨?_, fun fault next failed => by cases failed⟩
      rintro _ ⟨⟩
      exact ⟨inStep.framed, moved.trans stored⟩
    | error fault next =>
      obtain ⟨inStep, either⟩ := failed fault next sent
      refine ⟨nofun, ?_⟩
      rintro _ _ ⟨⟩
      exact ⟨inStep, either.imp loading.same.trans moved.trans⟩

/-- No request changes the geometry of the device, or leaves a frame of another size. -/
theorem execute_shape (relays : Relays view) (command : Command) (cartridge index : UInt16)
    (payload : Option Bytes) (inStep : InStep view storage) :
    (view ((execute command cartridge index payload).after storage).transport).geometry =
        storage.config.geometry ∧
      (view ((execute command cartridge index payload).after storage).transport).Whole := by
  unfold Operation.after
  cases sent : execute command cartridge index payload storage with
  | ok answer next =>
    obtain ⟨_, transport, rfl, execution⟩ := execute_relayed relays sent
    exact ⟨execution.geometry.trans inStep.shape, execution.whole inStep.whole⟩
  | error fault next =>
    obtain ⟨transport, answer, rfl, execution⟩ := execute_relayed_error relays sent
    exact ⟨execution.geometry.trans inStep.shape, execution.whole inStep.whole⟩

theorem bzero_relayed (relays : Relays view) (inStep : InStep view storage) :
    InStep view ((execute .bzero 0 0 none).after storage) := by
  have stays {answer : Answer} {transport : σ}
      (execution : (view storage.transport).Execution (Opcode.request .bzero 0 0) none .bzero answer
        (view transport).plain) : InStep view { storage with transport } := by
    have whole := execution.whole inStep.whole
    generalize after : (view transport).plain = plain at execution
    cases execution with
    | refused =>
      obtain ⟨geometry, _, initialized, active⟩ := Device.plain_eq_iff.mp after
      exact inStep.relayed whole geometry initialized active
    | zeroed ready loaded =>
      obtain ⟨geometry, _, initialized, active⟩ := Device.plain_eq_iff.mp after
      exact inStep.relayed whole geometry initialized active
  unfold Operation.after
  cases sent : execute .bzero 0 0 none storage with
  | ok answer next =>
    obtain ⟨_, transport, rfl, execution⟩ := execute_relayed relays sent
    exact stays execution
  | error fault next =>
    obtain ⟨transport, answer, rfl, execution⟩ := execute_relayed_error relays sent
    exact stays execution

theorem zeroCartridge_inStep (relays : Relays view) (inStep : InStep view storage)
    (cartridge : UInt16) :
    InStep view ((zeroCartridge cartridge).after storage) := by
  have loading := loadCartridge_kept relays inStep cartridge
  unfold Operation.after
  rw [zeroCartridge_eq]
  cases load : loadCartridge cartridge storage with
  | error fault loaded =>
    rw [Operation.after_of_error load] at loading
    exact loading.inStep
  | ok value loaded =>
    rw [Operation.after_of_ok load] at loading
    have zeroing := bzero_relayed relays loading.inStep
    dsimp only
    cases sent : execute .bzero 0 0 none loaded with
    | ok answer next =>
      rw [Operation.after_of_ok sent] at zeroing
      exact zeroing
    | error fault next =>
      rw [Operation.after_of_error sent] at zeroing
      exact zeroing

/-- A device that is told to start anew is in step with a storage that has nothing loaded. -/
theorem initializeDevice_inStep (relays : Relays view) (inStep : InStep view storage)
    (idle : storage.active = none) : InStep view (initializeDevice.after storage) := by
  obtain ⟨shape, whole⟩ := execute_shape relays .initms 0 0 none inStep
  unfold Operation.after
  rw [initializeDevice_eq]
  cases sent : execute .initms 0 0 none storage with
  | error fault next =>
    rw [Operation.after_of_error sent] at shape whole
    obtain ⟨transport, rfl⟩ := execute_error sent
    exact ⟨shape, whole, fun cartridge known => by cases idle.symm.trans known⟩
  | ok answer next =>
    rw [Operation.after_of_ok sent] at shape whole
    obtain ⟨transport, rfl⟩ := execute_ok sent
    refine Operation.forM_keeps (InStep view) _ (fun cartridge _ middle between => ?_)
      ⟨shape, whole, fun cartridge known => by cases idle.symm.trans known⟩
    exact zeroCartridge_inStep relays between _

end Storage

end CartridgeBank
