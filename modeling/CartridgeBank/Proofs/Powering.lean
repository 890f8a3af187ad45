import CartridgeBank.Proofs.Transfer

namespace CartridgeBank.Storage

variable {σ : Type} [Transport σ] {storage next : Storage σ} {fault : Fault}

theorem zeroCartridge_eq (cartridge : UInt16) :
    zeroCartridge cartridge storage =
      match loadCartridge cartridge storage with
      | .error fault next => .error fault next
      | .ok () loaded =>
        match execute .bzero 0 0 none loaded with
        | .error fault next => .error fault next
        | .ok _ next => .ok () next := by
  simp only [zeroCartridge, Operation.bind_apply]
  cases loadCartridge cartridge storage with
  | error fault next => rfl
  | ok value loaded =>
    dsimp only
    cases execute .bzero 0 0 none loaded <;> rfl

theorem zeroCartridge_after (cartridge : UInt16) :
    ∃ transport active, (zeroCartridge cartridge).after storage =
      { storage with transport, active } := by
  unfold Operation.after
  rw [zeroCartridge_eq]
  cases load : loadCartridge cartridge storage with
  | error fault next =>
    obtain ⟨transport, rfl⟩ := loadCartridge_error load
    exact ⟨transport, none, rfl⟩
  | ok value loaded =>
    obtain ⟨first, rfl⟩ := loadCartridge_ok load
    dsimp only
    cases sent : execute .bzero 0 0 none
        { storage with transport := first, active := some cartridge } with
    | error fault next =>
      obtain ⟨second, rfl⟩ := execute_error sent
      exact ⟨second, some cartridge, rfl⟩
    | ok answer next =>
      obtain ⟨second, rfl⟩ := execute_ok sent
      exact ⟨second, some cartridge, rfl⟩

theorem initializeDevice_eq :
    initializeDevice storage =
      match execute .initms 0 0 none storage with
      | .error fault next => .error fault next
      | .ok _ next =>
        ((List.range next.config.geometry.cartridges).forM fun cartridge =>
          zeroCartridge (UInt16.ofNat cartridge)) next := by
  simp only [initializeDevice, Operation.bind_apply, Operation.get_apply]
  cases execute .initms 0 0 none storage <;> rfl

/-- Initializing the device changes nothing but the transport and the loaded cartridge. -/
theorem initializeDevice_after :
    ∃ transport active, initializeDevice.after storage = { storage with transport, active } := by
  unfold Operation.after
  rw [initializeDevice_eq]
  cases sent : execute .initms 0 0 none storage with
  | error fault next =>
    obtain ⟨transport, rfl⟩ := execute_error sent
    exact ⟨transport, storage.active, rfl⟩
  | ok answer next =>
    obtain ⟨first, rfl⟩ := execute_ok sent
    refine Operation.forM_keeps
      (fun next => ∃ transport active, next = { storage with transport, active })
      (List.range storage.config.geometry.cartridges) (fun cartridge _ next same => ?_)
      ⟨first, storage.active, rfl⟩
    obtain ⟨transport, active, rfl⟩ := same
    exact zeroCartridge_after (UInt16.ofNat cartridge)

theorem powerOn_eq : powerOn storage =
    if storage.poweredOn then .error .alreadyPoweredOn storage
    else
      match FrameCache.ofCapacity storage.config.cacheFrames with
      | .error fault => .error fault storage
      | .ok cache =>
        match initializeDevice { storage.cleared with cache := some cache } with
        | .error fault next => .error fault { next with cache := none, active := none }
        | .ok _ next => .ok () { next with poweredOn := true } := by
  unfold powerOn
  cases on : storage.poweredOn with
  | true => simp [on]
  | false =>
    simp only [Operation.bind_apply, Operation.get_apply, on, Bool.false_eq_true, if_false,
      Operation.modify_apply, Operation.tryCatch_apply, Operation.throw_apply]
    cases FrameCache.ofCapacity storage.config.cacheFrames with
    | error fault => rfl
    | ok cache =>
      rw [require_ok]
      dsimp only
      cases initializeDevice { storage.cleared with cache := some cache } <;> rfl

/-- The ways power-on can go. -/
inductive PowerOnRun (storage : Storage σ) : EStateM.Result Fault (Storage σ) Unit → Prop
  | already : storage.poweredOn = true → PowerOnRun storage (.error .alreadyPoweredOn storage)
  | unsized {fault : Fault} : storage.poweredOn = false →
      FrameCache.ofCapacity storage.config.cacheFrames = .error fault →
      PowerOnRun storage (.error fault storage)
  | failed {cache : FrameCache} {fault : Fault} {next : Storage σ} : storage.poweredOn = false →
      FrameCache.ofCapacity storage.config.cacheFrames = .ok cache →
      initializeDevice { storage.cleared with cache := some cache } = .error fault next →
      PowerOnRun storage (.error fault { next with cache := none, active := none })
  | started {cache : FrameCache} {next : Storage σ} : storage.poweredOn = false →
      FrameCache.ofCapacity storage.config.cacheFrames = .ok cache →
      initializeDevice { storage.cleared with cache := some cache } = .ok () next →
      PowerOnRun storage (.ok () { next with poweredOn := true })

theorem powerOn_run (storage : Storage σ) : PowerOnRun storage (powerOn storage) := by
  rw [powerOn_eq]
  by_cases on : storage.poweredOn = true
  · rw [if_pos on]
    exact .already on
  · rw [if_neg on]
    have off : storage.poweredOn = false := Bool.eq_false_iff.mpr on
    cases made : FrameCache.ofCapacity storage.config.cacheFrames with
    | error fault => exact .unsized off made
    | ok cache =>
      dsimp only
      cases run : initializeDevice { storage.cleared with cache := some cache } with
      | error fault next => exact .failed off made run
      | ok value next => exact .started off made run

theorem powerOff_eq : powerOff storage =
    if storage.poweredOn then
      match execute .powoff 0 0 none { storage.cleared with poweredOn := false } with
      | .ok _ next => .ok () { next with transport := Transport.disconnect next.transport }
      | .error fault next =>
        .error fault { next with transport := Transport.disconnect next.transport }
    else .error .notPoweredOn storage := by
  unfold powerOff
  cases on : storage.poweredOn with
  | false => simp [on]
  | true =>
    simp only [Operation.bind_apply, Operation.get_apply, on, if_true, Operation.modify_apply,
      Operation.tryCatch_apply, Operation.throw_apply, Operation.pure_apply]
    cases execute .powoff 0 0 none { storage.cleared with poweredOn := false } <;> rfl

end CartridgeBank.Storage
