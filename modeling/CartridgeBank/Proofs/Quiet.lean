import CartridgeBank.Proofs.Coherence

namespace CartridgeBank

namespace Device

variable {device : Device} {opcode : Opcode} {command : Command}

/-- A device that is to refuse nothing carries out every known command. -/
theorem respond_quiet (quiet : device.faults = {}) (known : opcode.command? = some command)
    (frame : Option Bytes) : device.respond opcode frame = device.execute command opcode frame := by
  have tick : device.faults.tick command = (false, {}) := by
    rw [quiet]
    cases command <;> rfl
  have same : { device with faults := {} } = device := by
    rw [← quiet]
  unfold respond
  rw [known]
  simp only [tick, Bool.false_eq_true, if_false, same]

/-- The device is initialized and is to refuse nothing. -/
structure Quiet (device : Device) : Prop where
  faults : device.faults = {}
  ready : device.initialized = true

end Device

namespace Storage

variable {storage next : Storage Device} {location : FrameLocation} {frame : Bytes}

/-- A request that a quiet device carries out is answered. -/
theorem execute_quiet (faults : storage.transport.faults = {}) {command : Command}
    {cartridge index : UInt16} {payload : Option Bytes}
    (success : (storage.transport.execute command (Opcode.request command cartridge index)
      payload).1.opcode = (Opcode.request command cartridge index).withRet false) :
    execute command cartridge index payload storage =
      .ok (storage.transport.execute command (Opcode.request command cartridge index) payload).1
        { storage with transport := (storage.transport.execute command
            (Opcode.request command cartridge index) payload).2 } := by
  have sent : Transport.send (Opcode.request command cartridge index) payload storage.transport =
      .ok (storage.transport.execute command (Opcode.request command cartridge index) payload).1
        (storage.transport.execute command (Opcode.request command cartridge index) payload).2 := by
    simp only [Transport.send, Device.respond_quiet faults (Opcode.command?_request ..)]
  rw [execute_eq, sent]
  dsimp only
  rw [if_neg, if_pos]
  · rw [success, Opcode.isSuccess_withRet, Bool.not_false]
  · rw [success, Opcode.field_withRet_request]
    exact fun different => different rfl

theorem loadCartridge_quiet (quiet : storage.transport.Quiet) {cartridge : UInt16}
    (inside : cartridge.toNat < storage.transport.geometry.cartridges) :
    ∃ next, loadCartridge cartridge storage = .ok () next ∧ next.transport.Quiet := by
  rw [loadCartridge_eq]
  by_cases already : storage.active = some cartridge
  · rw [if_pos already]
    exact ⟨storage, rfl, quiet⟩
  · rw [if_neg already]
    have carried : storage.transport.execute .ldcart (Opcode.request .ldcart cartridge 0) none =
        ({ opcode := (Opcode.request .ldcart cartridge 0).withRet false }, { storage.transport with
          active := some cartridge
          stats := { storage.transport.stats with
            loads := storage.transport.stats.loads + 1 } }) := by
      simp [Device.execute, quiet.ready, Nat.not_le.mpr inside]
    rw [execute_quiet (by exact quiet.faults) (by rw [carried])]
    simp only [carried]
    exact ⟨_, rfl, quiet.faults, quiet.ready⟩

theorem rdfrme_quiet (quiet : storage.transport.Quiet)
    (active : storage.transport.active = some location.cartridge)
    (inside : storage.transport.geometry.contains location = true) :
    ∃ answer next, execute .rdfrme 0 location.frame none storage = .ok answer next ∧
      answer.frame = some (storage.transport.content location) ∧ next.transport.Quiet := by
  have addressed : storage.transport.addressed? (Opcode.request .rdfrme 0 location.frame) =
      some location :=
    Device.addressed?_eq_some_iff.mpr ⟨active, (Opcode.frame_request ..).symm, inside⟩
  have carried : storage.transport.execute .rdfrme (Opcode.request .rdfrme 0 location.frame) none =
      ({ opcode := (Opcode.request .rdfrme 0 location.frame).withRet false
         frame := some (storage.transport.content location) }, { storage.transport with
        stats := { storage.transport.stats with
          reads := storage.transport.stats.reads + 1 } }) := by
    simp [Device.execute, quiet.ready, addressed]
  rw [execute_quiet quiet.faults (by rw [carried]), carried]
  exact ⟨_, _, rfl, rfl, quiet.faults, quiet.ready⟩

theorem wrfrme_quiet (quiet : storage.transport.Quiet)
    (active : storage.transport.active = some location.cartridge)
    (inside : storage.transport.geometry.contains location = true)
    (full : frame.length = storage.transport.geometry.frameSize) :
    ∃ answer next, execute .wrfrme 0 location.frame (some frame) storage = .ok answer next ∧
      next.transport.Quiet := by
  have addressed : storage.transport.addressed? (Opcode.request .wrfrme 0 location.frame) =
      some location :=
    Device.addressed?_eq_some_iff.mpr ⟨active, (Opcode.frame_request ..).symm, inside⟩
  have carried : storage.transport.execute .wrfrme (Opcode.request .wrfrme 0 location.frame)
      (some frame) = ({ opcode := (Opcode.request .wrfrme 0 location.frame).withRet false },
        { storage.transport with
          frames := storage.transport.frames.insert location frame
          stats := { storage.transport.stats with
            writes := storage.transport.stats.writes + 1 } }) := by
    simp [Device.execute, quiet.ready, addressed, full]
  rw [execute_quiet quiet.faults (by rw [carried]), carried]
  exact ⟨_, _, rfl, quiet.faults, quiet.ready⟩

variable {locations : List FrameLocation}

/-- Loading a cartridge of the bank succeeds, and then its frames can be addressed. -/
theorem loadCartridge_within (inStep : InStep (fun device => device) storage)
    (quiet : storage.transport.Quiet) {cartridge : UInt16}
    (within : cartridge.toNat < storage.config.geometry.cartridges) :
    ∃ loaded, loadCartridge cartridge storage = .ok () loaded ∧ loaded.transport.Quiet ∧
      Kept (fun device => device) storage loaded ∧ loaded.transport.active = some cartridge ∧
      loaded.transport.geometry = storage.config.geometry := by
  have shape := inStep.shape
  obtain ⟨loaded, load, quiet⟩ := loadCartridge_quiet quiet (by rw [shape]; exact within)
  have kept := loadCartridge_kept Device.relays inStep cartridge
  rw [Operation.after_of_ok load] at kept
  have active : loaded.transport.active = some cartridge := by
    obtain ⟨transport, rfl⟩ := loadCartridge_ok load
    exact (kept.inStep.loaded cartridge rfl).2
  exact ⟨loaded, load, quiet, kept, active, kept.same.geometry.trans shape⟩

theorem fetchFrame_quiet (inStep : InStep (fun device => device) storage)
    (quiet : storage.transport.Quiet)
    (inside : storage.config.geometry.contains location = true) :
    ∃ frame next, fetchFrame location storage = .ok frame next ∧ next.transport.Quiet := by
  obtain ⟨loaded, load, quiet, kept, active, geometry⟩ :=
    loadCartridge_within inStep quiet (Geometry.contains_iff.mp inside).1
  obtain ⟨answer, next, sent, carried, quiet⟩ :=
    rdfrme_quiet quiet active (by rw [geometry]; exact inside)
  have full : (answer.frame.getD []).length = next.frameSize := by
    obtain ⟨transport, rfl⟩ := execute_ok sent
    rw [carried, Option.getD_some, kept.inStep.whole.length_content, kept.inStep.shape]
    rfl
  rw [fetchFrame_eq, load]
  simp only [sent, if_pos full]
  exact ⟨_, _, rfl, quiet⟩

theorem readFrame_quiet (coherent : Coherent (fun device => device) [] storage)
    (quiet : storage.transport.Quiet) {cache : FrameCache} (on : storage.cache = some cache)
    (inside : storage.config.geometry.contains location = true) :
    ∃ frame next, readFrame location storage = .ok frame next ∧ next.transport.Quiet := by
  rw [readFrame_eq location on]
  cases found : cache.get location with
  | mk held after =>
    cases held with
    | some frame => exact ⟨_, _, rfl, quiet⟩
    | none =>
      have inStep : InStep (fun device => device) { storage with cache := some after } :=
        coherent.inStep.framed
      exact fetchFrame_quiet inStep quiet inside

theorem readFrames_quiet (coherent : Coherent (fun device => device) [] storage)
    (quiet : storage.transport.Quiet) (on : storage.cache.isSome = true)
    (inside : ∀ location ∈ locations, storage.config.geometry.contains location = true) :
    ∃ frames next, readFrames locations storage = .ok frames next ∧ next.transport.Quiet := by
  induction locations generalizing storage with
  | nil => exact ⟨[], storage, rfl, quiet⟩
  | cons location rest ih =>
    obtain ⟨cache, held⟩ := Option.isSome_iff_exists.mp on
    obtain ⟨frame, middle, run, quiet⟩ :=
      readFrame_quiet coherent quiet held (inside location List.mem_cons_self)
    obtain ⟨⟨_, coherent⟩, _⟩ := readFrame_relayed Device.relays coherent held location
    rw [Operation.after_of_ok run] at coherent
    obtain ⟨_, transport, active, rfl⟩ := readFrame_ok held run
    obtain ⟨frames, next, runRest, quiet⟩ := ih coherent quiet rfl
      (by exact fun other member => inside other (List.mem_cons_of_mem _ member))
    rw [readFrames_cons, run]
    simp only [runRest]
    exact ⟨_, _, rfl, quiet⟩

/-- Frames that are read are what the device holds, and have gone through the cache. -/
theorem readFrames_exact (coherent : Coherent (fun device => device) [] storage)
    (quiet : storage.transport.Quiet) {cache : FrameCache} (on : storage.cache = some cache)
    (inside : ∀ location ∈ locations, storage.config.geometry.contains location = true) :
    ∃ next transport active,
      readFrames locations storage = .ok (locations.map storage.transport.content) next ∧
      next = { storage with
        transport
        active
        cache := some (cache.readThroughAll
          (locations.zip (locations.map storage.transport.content))) } ∧
      transport.Quiet ∧ storage.transport.SameFrames transport ∧
      Coherent (fun device => device) [] next := by
  have isOn : storage.cache.isSome = true := Option.isSome_iff_exists.mpr ⟨cache, on⟩
  obtain ⟨frames, next, run, quiet⟩ := readFrames_quiet coherent quiet isOn inside
  obtain ⟨⟨kept, stays⟩, values⟩ := readFrames_relayed Device.relays coherent isOn locations
  rw [Operation.after_of_ok run] at kept stays
  obtain rfl := values frames next run
  have anyFrames : cache.Keeps storage.config.cacheFrames fun _ _ => True :=
    (coherent.cached cache on).imp fun _ _ _ _ => trivial
  obtain ⟨_, _, transport, active, same⟩ :=
    readFrames_ok on anyFrames (fun _ _ _ _ => trivial) run
  refine ⟨next, transport, active, run, same, ?_, ?_, stays⟩
  · rw [same] at quiet
    exact quiet
  · have sameFrames := kept.same
    rw [same] at sameFrames
    exact sameFrames

theorem writeFrame_quiet (inStep : InStep (fun device => device) storage)
    (quiet : storage.transport.Quiet)
    (inside : storage.config.geometry.contains location = true)
    (full : frame.length = storage.frameSize) :
    ∃ next, writeFrame location frame storage = .ok () next ∧ next.transport.Quiet := by
  obtain ⟨loaded, load, quiet, _, active, geometry⟩ :=
    loadCartridge_within inStep quiet (Geometry.contains_iff.mp inside).1
  obtain ⟨answer, next, sent, quiet⟩ := wrfrme_quiet quiet active
    (by rw [geometry]; exact inside) (by rw [geometry]; exact full)
  rw [writeFrame_eq, load]
  simp only [sent]
  exact ⟨_, rfl, quiet.faults, quiet.ready⟩

/-- Whole frames can be stored in free frames of the bank. -/
theorem store_quiet {handle : Handle} {pieces : List (FrameLocation × Bytes)}
    (inStep : InStep (fun device => device) storage) (quiet : storage.transport.Quiet)
    (shape : storage.table.geometry = storage.config.geometry)
    (free : ∀ piece ∈ pieces, storage.config.geometry.contains piece.1 = true ∧
      storage.table.owner? piece.1 = none ∧ piece.2.length = storage.frameSize)
    (distinct : (pieces.map Prod.fst).Nodup) :
    ∃ claimed next, store handle pieces storage = (claimed, .ok (), next) ∧
      next.transport.Quiet := by
  induction pieces generalizing storage with
  | nil => exact ⟨[], storage, rfl, quiet⟩
  | cons piece rest ih =>
    obtain ⟨location, frame⟩ := piece
    obtain ⟨inside, unowned, full⟩ := free _ List.mem_cons_self
    obtain ⟨fresh, distinct⟩ := List.nodup_cons.mp distinct
    obtain ⟨table, claim⟩ := Ownership.claim_of_free handle (by rw [shape]; exact inside) unowned
    obtain ⟨sameShape, _, _, owners⟩ := Ownership.claim_ok claim
    have inStep : InStep (fun device => device) { storage with table } := inStep.framed
    obtain ⟨middle, write, quiet⟩ :=
      writeFrame_quiet inStep quiet inside full
    have inStep := ((writeFrame_relayed Device.relays inStep location frame).1 middle write).1
    obtain ⟨transport, rfl⟩ := writeFrame_ok write
    obtain ⟨claimed, next, run, quiet⟩ := ih inStep quiet (sameShape.trans shape) (by
      intro other member
      obtain ⟨inside, unowned, full⟩ := free other (List.mem_cons_of_mem _ member)
      refine ⟨inside, ?_, full⟩
      have different : other.1 ≠ location := fun same =>
        fresh (List.mem_map.mpr ⟨other, member, same⟩)
      rw [owners, if_neg different]
      exact unowned) distinct
    unfold store
    simp only [claim_eq, claim, write, run]
    exact ⟨_, _, rfl, quiet⟩

/-- Content can be placed if there are frames enough for it. -/
theorem placeContent_quiet {handle : Handle} {content : Bytes}
    (inStep : InStep (fun device => device) storage) (quiet : storage.transport.Quiet)
    (valid : storage.config.geometry.Valid)
    (shape : storage.table.geometry = storage.config.geometry) (within : storage.table.Within)
    (room : framesFor content.length storage.frameSize ≤ storage.table.free) :
    ∃ targets claimed next,
      placeContent handle content storage = .ok (targets, claimed, .ok ()) next ∧
        next.transport.Quiet := by
  have tableValid : storage.table.geometry.Valid := by rwa [shape]
  have enough := Ownership.length_firstFree tableValid within
    (framesFor content.length storage.frameSize)
  rw [Nat.min_eq_left room] at enough
  have distinct := Ownership.firstFree_nodup tableValid (framesFor content.length storage.frameSize)
  have locations : ((storage.table.firstFree (framesFor content.length storage.frameSize)).zip
      (blocks content storage.frameSize)).map Prod.fst = _ :=
    firstFree_zip_blocks valid.frameSize_pos storage.table content
  have free : ∀ piece ∈ (storage.table.firstFree (framesFor content.length storage.frameSize)).zip
      (blocks content storage.frameSize), storage.config.geometry.contains piece.1 = true ∧
        storage.table.owner? piece.1 = none ∧ piece.2.length = storage.frameSize := by
    intro piece member
    obtain ⟨target, block⟩ := List.of_mem_zip member
    obtain ⟨inside, unowned⟩ := Ownership.mem_firstFree tableValid target
    rw [shape] at inside
    exact ⟨inside, unowned, length_of_mem_blocks block⟩
  obtain ⟨claimed, next, run, quiet⟩ := @store_quiet storage handle _ inStep quiet shape free
    (by rwa [locations])
  unfold blocks at run
  unfold placeContent
  simp only [enough, Nat.lt_irrefl, if_false, run]
  exact ⟨_, claimed, next, rfl, quiet⟩

/-- Content that is placed goes through the cache to the first free frames. -/
theorem placeContent_exact {handle : Handle} {content : Bytes}
    (coherent : Coherent (fun device => device) [] storage) (on : storage.cache.isSome = true)
    (quiet : storage.transport.Quiet) (valid : storage.config.geometry.Valid)
    (shape : storage.table.geometry = storage.config.geometry) (within : storage.table.Within)
    (room : framesFor content.length storage.frameSize ≤ storage.table.free)
    {targets : List FrameLocation}
    (found : targets =
      storage.table.firstFree (framesFor content.length storage.frameSize)) :
    ∃ transport active, transport.Quiet ∧
      (storage.transport.storeAll (targets.zip (blocks content storage.frameSize))).SameFrames
        transport ∧
      targets.length = framesFor content.length storage.frameSize ∧
      placeContent handle content storage = .ok (targets, targets, .ok ()) { storage with
        transport
        active
        table := storage.table.claimEach handle targets
        cache := storage.cache.map
          (·.putAll (targets.zip (blocks content storage.frameSize))) } := by
  obtain ⟨_, claimed, next, run, quiet⟩ :=
    @placeContent_quiet storage handle content coherent.inStep quiet valid shape within room
  obtain ⟨same, _, written, transport, active, _, _, whole, final⟩ :=
    placeContent_spec valid.frameSize_pos run
  obtain rfl := found.trans same.symm
  obtain ⟨count, rfl, rfl⟩ := whole rfl
  have stored := ((placeContent_relayed Device.relays coherent on run).2 rfl).2
  rw [final] at stored quiet
  exact ⟨transport, active, quiet, stored, count, by rw [run, final]⟩

theorem zeroCartridge_quiet (inStep : InStep (fun device => device) storage)
    (quiet : storage.transport.Quiet) {cartridge : UInt16}
    (within : cartridge.toNat < storage.config.geometry.cartridges) :
    ∃ next, zeroCartridge cartridge storage = .ok () next ∧ next.transport.Quiet := by
  obtain ⟨loaded, load, quiet, _, active, _⟩ := loadCartridge_within inStep quiet within
  have carried : loaded.transport.execute .bzero (Opcode.request .bzero 0 0) none =
      ({ opcode := (Opcode.request .bzero 0 0).withRet false }, { loaded.transport with
        frames := loaded.transport.frames.filter fun location _ => location.cartridge != cartridge
        stats := { loaded.transport.stats with
          zeroes := loaded.transport.stats.zeroes + 1 } }) := by
    simp [Device.execute, quiet.ready, active]
  rw [zeroCartridge_eq, load]
  simp only [execute_quiet quiet.faults (by rw [carried]), carried]
  exact ⟨_, rfl, quiet.faults, quiet.ready⟩

theorem initializeDevice_quiet (inStep : InStep (fun device => device) storage)
    (faults : storage.transport.faults = {}) (idle : storage.active = none)
    (valid : storage.config.geometry.Valid) :
    ∃ next, initializeDevice storage = .ok () next ∧ next.transport.Quiet := by
  have carried : storage.transport.execute .initms (Opcode.request .initms 0 0) none =
      ({ opcode := (Opcode.request .initms 0 0).withRet false }, { storage.transport with
        initialized := true
        active := none
        stats := { storage.transport.stats with
          inits := storage.transport.stats.inits + 1 } }) := by
    simp [Device.execute]
  obtain ⟨answer, begun, sent, quiet, inStep, config⟩ :
      ∃ answer begun, execute .initms 0 0 none storage = .ok answer begun ∧ begun.transport.Quiet ∧
        InStep (fun device => device) begun ∧ begun.config = storage.config := by
    rw [execute_quiet faults (by rw [carried]), carried]
    exact ⟨_, _, rfl, ⟨faults, rfl⟩,
      ⟨inStep.shape, inStep.whole, fun cartridge known => by cases idle.symm.trans known⟩, rfl⟩
  -- the loop needs the device in step, and the configuration as it is
  have each : ∀ cartridge ∈ List.range begun.config.geometry.cartridges, ∀ next : Storage Device,
      (next.transport.Quiet ∧ InStep (fun device => device) next ∧ next.config = storage.config) →
        ∃ last, zeroCartridge (UInt16.ofNat cartridge) next = .ok () last ∧
          last.transport.Quiet ∧ InStep (fun device => device) last ∧
            last.config = storage.config := by
    rintro cartridge member next ⟨quiet, inStep, unchanged⟩
    have bound := List.mem_range.mp member
    rw [config] at bound
    have within : (UInt16.ofNat cartridge).toNat < next.config.geometry.cartridges := by
      rw [unchanged, UInt16.toNat_ofNat_of_lt' (Nat.lt_of_lt_of_le bound valid.cartridges_le)]
      exact bound
    obtain ⟨last, run, quiet⟩ := zeroCartridge_quiet inStep quiet within
    have stays := zeroCartridge_inStep Device.relays inStep (UInt16.ofNat cartridge)
    obtain ⟨transport, active, same⟩ := @zeroCartridge_after Device _ next (UInt16.ofNat cartridge)
    rw [Operation.after_of_ok run] at stays same
    exact ⟨last, run, quiet, stays, by rw [same]; exact unchanged⟩
  obtain ⟨next, run, quiet, _⟩ := Operation.forM_succeeds _ _ each ⟨quiet, inStep, config⟩
  rw [initializeDevice_eq, sent]
  exact ⟨next, run, quiet⟩

/-- Switching on succeeds, and starts with an empty cache. -/
theorem powerOn_quiet (inStep : InStep (fun device => device) storage)
    (faults : storage.transport.faults = {}) (valid : storage.config.geometry.Valid)
    (sized : 0 < storage.config.cacheFrames ∧ storage.config.cacheFrames ≤ maxCacheFrames)
    (off : storage.poweredOn = false) :
    ∃ transport active, transport.faults = {} ∧ transport.initialized = true ∧
      powerOn storage = .ok () { storage.cleared with
        transport
        active
        cache := some { slots := List.replicate storage.config.cacheFrames none }
        poweredOn := true } := by
  have made := FrameCache.ofCapacity_of_sized sized
  have begun : InStep (fun device => device) { storage.cleared with
      cache := some { slots := List.replicate storage.config.cacheFrames none } } :=
    inStep.cleared
  obtain ⟨next, run, quiet⟩ := initializeDevice_quiet begun faults rfl valid
  obtain ⟨transport, active, same⟩ := @initializeDevice_after Device _ { storage.cleared with
      cache := some { slots := List.replicate storage.config.cacheFrames none } }
  obtain rfl := (Operation.after_of_ok run).symm.trans same
  have ending := powerOn_run storage
  generalize powerOn storage = result at ending
  cases ending with
  | already on => exact Bool.noConfusion (off.symm.trans on)
  | unsized _ refused => cases made.symm.trans refused
  | failed _ other failed =>
    obtain rfl := Except.ok.inj (made.symm.trans other)
    cases run.symm.trans failed
  | started _ other started =>
    obtain rfl := Except.ok.inj (made.symm.trans other)
    cases run.symm.trans started
    exact ⟨transport, active, quiet.faults, quiet.ready, rfl⟩

theorem powerOff_quiet (quiet : storage.transport.Quiet) (on : storage.poweredOn = true) :
    ∃ transport, transport.faults = {} ∧
      powerOff storage = .ok () { storage.cleared with transport, poweredOn := false } := by
  have carried : storage.transport.execute .powoff (Opcode.request .powoff 0 0) none =
      ({ opcode := (Opcode.request .powoff 0 0).withRet false }, { storage.transport with
        frames := ∅
        initialized := false
        active := none
        stats := { storage.transport.stats with
          powerOffs := storage.transport.stats.powerOffs + 1 } }) := by
    simp [Device.execute, quiet.ready]
  have sent := @execute_quiet { storage.cleared with poweredOn := false } quiet.faults .powoff 0 0
    none (congrArg (fun answered => answered.1.opcode) carried)
  rw [powerOff_eq, if_pos on, sent]
  refine ⟨_, ?_, rfl⟩
  change (storage.transport.execute .powoff (Opcode.request .powoff 0 0) none).2.faults = {}
  rw [carried]
  exact quiet.faults

end Storage

end CartridgeBank
