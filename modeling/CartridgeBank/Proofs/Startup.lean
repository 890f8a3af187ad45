import CartridgeBank.Proofs.Confinement
import CartridgeBank.Proofs.Script

namespace CartridgeBank

namespace Storage

/-- What is sent to start a session. -/
def startRequests (geometry : Geometry) : List Opcode :=
  Opcode.request .initms 0 0 :: (List.range geometry.cartridges).flatMap fun cartridge =>
    [Opcode.request .ldcart (.ofNat cartridge) 0, Opcode.request .bzero 0 0]

/-- The cartridge that is loaded once so many have been visited. -/
def lastVisited : Nat → Option UInt16
  | 0 => none
  | count + 1 => some (.ofNat count)

/-- So many cartridges have been zeroed, in order. -/
structure Swept (config : Config) (count : Nat) (storage : Storage (Recorded Unreliable)) :
    Prop where
  session : storage.InSession
  config : storage.config = config
  active : storage.active = lastVisited count
  zeroed : ∀ location frame, storage.transport.device.frame? location = some frame →
    count ≤ location.cartridge.toNat

variable {storage : Storage (Recorded Unreliable)} {config : Config} {count : Nat}

/-- The next cartridge is not loaded yet. -/
theorem lastVisited_ne (within : count < UInt16.size) :
    lastVisited count ≠ some (UInt16.ofNat count) := by
  cases count with
  | zero => nofun
  | succ count =>
    intro same
    have same := congrArg UInt16.toNat (Option.some.inj same)
    rw [UInt16.toNat_ofNat_of_lt' (Nat.lt_of_succ_lt within), UInt16.toNat_ofNat_of_lt' within] at same
    omega

theorem loadCartridge_follows {cartridge : UInt16} (session : storage.InSession)
    (within : cartridge.toNat < storage.config.geometry.cartridges)
    (away : storage.active ≠ some cartridge) :
    Follows [Opcode.request .ldcart cartridge 0] (fun next => next.InSession ∧
      next.config = storage.config ∧ next.active = some cartridge ∧
      storage.transport.device.SameFrames next.transport.device) storage
      (loadCartridge cartridge storage) := by
  have forgotten : InStep Recorded.device { storage with active := none } :=
    ⟨session.inStep.shape, session.inStep.whole, nofun⟩
  have sound : Turn.Sound ⟨.load cartridge, { storage with active := none }⟩ :=
    Errand.sound_of_due forgotten (fun _ => session.ready) ⟨rfl, within⟩
  have sending := errand_follows sound rfl
  have sends : (Errand.load cartridge).run { storage with active := none } =
    execute .ldcart cartridge 0 none { storage with active := none } := rfl
  have loading := (session.load within).session
  have kept := (loadCartridge_kept relays session.inStep cartridge).same
  rw [sends] at sending
  unfold Operation.after at loading kept
  rw [loadCartridge_eq, if_neg away] at loading kept ⊢
  cases sent : execute .ldcart cartridge 0 none { storage with active := none } with
  | error fault next =>
    rw [sent] at sending
    cases sending with
    | stopped ran => exact .stopped ran
  | ok answer next =>
    rw [sent] at sending loading kept
    cases sending with
    | finished ran _ =>
      obtain ⟨transport, rfl⟩ := execute_ok sent
      exact .finished ran ⟨loading, rfl, rfl, kept⟩

/-- A BZERO that succeeds leaves no frame of the loaded cartridge. -/
theorem zeroed_succ {before after : Device} {answer : Answer} {cartridge : UInt16}
    (loaded : before.active = some cartridge)
    (zeroed : ∀ location frame, before.frame? location = some frame →
      cartridge.toNat ≤ location.cartridge.toNat) (success : answer.opcode.isSuccess = true)
    (execution : before.Execution (Opcode.request .bzero 0 0) none .bzero answer after.plain)
    (location : FrameLocation) (frame : Bytes) (stored : after.frame? location = some frame) :
    cartridge.toNat + 1 ≤ location.cartridge.toNat := by
  generalize same : after.plain = plain at execution
  cases execution with
  | refused => simp [Answer.failure] at success
  | zeroed ready active =>
    obtain rfl := Option.some.inj (loaded.symm.trans active)
    obtain ⟨_, frames, _, _⟩ := Device.plain_eq_iff.mp same
    unfold Device.frame? at stored
    rw [frames] at stored
    simp only [Std.ExtTreeMap.getElem?_filter', Option.filter_eq_some_iff, bne_iff_ne, ne_eq]
      at stored
    have atLeast := zeroed location frame stored.1
    have other : location.cartridge.toNat ≠ cartridge.toNat := fun same =>
      stored.2 (UInt16.toNat_inj.mp same)
    omega

/-- One more cartridge is zeroed. -/
theorem zeroCartridge_follows (swept : Swept config count storage)
    (within : count < config.geometry.cartridges) (few : count < UInt16.size) :
    Follows [Opcode.request .ldcart (.ofNat count) 0, Opcode.request .bzero 0 0]
      (Swept config (count + 1)) storage (zeroCartridge (.ofNat count) storage) := by
  have small : (UInt16.ofNat count).toNat = count := UInt16.toNat_ofNat_of_lt' few
  have target : (UInt16.ofNat count).toNat < storage.config.geometry.cartridges := by
    rw [small, swept.config]
    exact within
  -- the cartridge before it is the one that is loaded, so that loading it is never skipped
  have away : storage.active ≠ some (UInt16.ofNat count) := by
    rw [swept.active]
    exact lastVisited_ne few
  refine Follows.bind (loadCartridge_follows swept.session target away) fun _ loaded left => ?_
  obtain ⟨session, config, active, same⟩ := left
  have sound : Turn.Sound ⟨.zero (.ofNat count), loaded⟩ :=
    Errand.sound_of_due session.inStep (fun _ => session.ready) active
  have zeroing := @InSession.run loaded (.zero (.ofNat count)) session ⟨nofun, nofun⟩ active
  refine Follows.bind (errand_follows sound rfl) fun _ next left => ?_
  obtain ⟨rfl, answer, success, execution⟩ := left
  have state := execute_after_eq .bzero 0 0 none loaded
  refine .finished (.none _) ⟨zeroing.session, ?_, ?_, fun location frame stored => ?_⟩
  · exact (congrArg Storage.config state).trans (config.trans swept.config)
  · exact (congrArg Storage.active state).trans active
  · have known := (session.inStep.loaded _ active).2
    have cleared := zeroed_succ known (fun location frame stored => ?_) success execution
      location frame stored
    · rwa [small] at cleared
    · rw [small]
      refine swept.zeroed location frame ?_
      rw [← stored, Device.frame?, Device.frame?, same.frames]

theorem initializeDevice_follows (inStep : InStep Recorded.device storage)
    (idle : storage.active = none) (few : storage.config.geometry.cartridges ≤ UInt16.size) :
    Follows (startRequests storage.config.geometry)
      (Swept storage.config storage.config.geometry.cartridges) storage
      (initializeDevice storage) := by
  have sound : Turn.Sound ⟨.start, storage⟩ := Errand.sound_of_due inStep (absurd rfl) idle
  obtain ⟨shape, whole⟩ := execute_shape relays .initms 0 0 none inStep
  have state : Errand.start.run.after storage = { storage with
      transport := Transport.after (Opcode.request .initms 0 0) none storage.transport } :=
    execute_after_eq .initms 0 0 none storage
  refine Follows.bind (errand_follows sound rfl) fun _ next left => ?_
  obtain ⟨rfl, answer, success, execution⟩ := left
  have config : (Errand.start.run.after storage).config = storage.config := by
    rw [state]
  have still : (Errand.start.run.after storage).active = none := by
    rw [state]
    exact idle
  -- whatever the device had stored, nothing is claimed of it before the first cartridge is zeroed
  have begun : Swept storage.config 0 (Errand.start.run.after storage) := by
    refine ⟨⟨⟨?_, whole, ?_⟩, execution.ready_of_initms success⟩, config, still,
      fun _ _ _ => Nat.zero_le _⟩
    · rw [config]
      exact shape
    · rw [still]
      nofun
  have each : ∀ count < 0 + storage.config.geometry.cartridges,
      ∀ storage', Swept storage.config count storage' →
        Follows [Opcode.request .ldcart (.ofNat count) 0, Opcode.request .bzero 0 0]
          (Swept storage.config (count + 1)) storage' (zeroCartridge (.ofNat count) storage') := by
    intro count within storage' swept
    rw [Nat.zero_add] at within
    exact zeroCartridge_follows swept within (Nat.lt_of_lt_of_le within few)
  have sweeping := forM_follows each begun
  rw [Nat.zero_add, ← List.range_eq_range'] at sweeping
  rw [Operation.bind_apply, Operation.get_apply]
  dsimp only
  rw [config]
  exact sweeping

/-- A storage whose session has just begun. -/
def started {σ : Type} (config : Config) (transport : σ) : Storage σ where
  config
  transport
  cache := some { slots := List.replicate config.cacheFrames none }
  table := Ownership.ofGeometry config.geometry
  active := some (.ofNat (config.geometry.cartridges - 1))
  poweredOn := true

/-- The session has begun on both sides, and the device has nothing stored. -/
structure Fresh (config : Config) (storage : Storage (Recorded Unreliable)) : Prop where
  started : storage = started config storage.transport
  initialized : storage.transport.device.initialized = true
  active : storage.transport.device.active = storage.active
  empty : storage.transport.device.frames = ∅

theorem Swept.frames_eq_empty (swept : Swept config config.geometry.cartridges storage)
    (arises : storage.transport.device.Arises) : storage.transport.device.frames = ∅ := by
  refine Std.ExtTreeMap.ext_getElem? fun location => ?_
  cases stored : storage.transport.device.frames[location]? with
  | none => simp
  | some frame =>
    have inside := (Geometry.contains_iff.mp (arises.inside stored)).1
    have beyond := swept.zeroed location frame stored
    have shape := swept.session.inStep.shape
    rw [swept.config] at shape
    change storage.transport.device.geometry = config.geometry at shape
    rw [shape] at inside
    omega

/-- What is known of a storage that is off. -/
theorem Sound.idle {σ : Type} {storage : Storage σ} (sound : storage.Sound)
    (off : storage.poweredOn = false) :
    storage = { config := storage.config, transport := storage.transport
                table := Ownership.ofGeometry storage.config.geometry } := by
  obtain ⟨noFiles, noOwners, idle⟩ := sound.off off
  have noCache : storage.cache = none := by
    have power := sound.power.symm.trans off
    simpa using power
  obtain ⟨config, transport, cache, table, files, active, poweredOn⟩ := storage
  dsimp only at off noFiles noOwners idle noCache
  subst off noFiles noOwners idle noCache
  rfl

theorem powerOn_follows (sound : storage.Sound) (off : storage.poweredOn = false)
    (inStep : InStep Recorded.device storage) (arises : storage.transport.device.Arises) :
    Follows (startRequests storage.config.geometry) (Fresh storage.config) storage
      (powerOn storage) := by
  have made := FrameCache.ofCapacity_of_sized sound.sized
  have begun : InStep Recorded.device { storage.cleared with
      cache := some { slots := List.replicate storage.config.cacheFrames none } } :=
    inStep.cleared
  have sending := initializeDevice_follows begun rfl sound.valid.cartridges_le
  obtain ⟨transport, active, same⟩ := @initializeDevice_after _ _ { storage.cleared with
      cache := some { slots := List.replicate storage.config.cacheFrames none } }
  have blank : storage.table.reset = Ownership.ofGeometry storage.config.geometry := by
    rw [(sound.off off).2.1]
    rfl
  rw [powerOn_eq, if_neg (by rw [off]; nofun), made]
  dsimp only
  cases run : initializeDevice { storage.cleared with
      cache := some { slots := List.replicate storage.config.cacheFrames none } } with
  | error fault next =>
    rw [run] at sending
    cases sending with
    | stopped ran => exact .stopped ran
  | ok done next =>
    rw [run] at sending
    obtain rfl := (Operation.after_of_ok run).symm.trans same
    cases sending with
    | finished ran swept =>
      have last : active = some (.ofNat (storage.config.geometry.cartridges - 1)) := by
        have visited : active = lastVisited storage.config.geometry.cartridges := swept.active
        obtain ⟨count, some⟩ := Nat.exists_eq_succ_of_ne_zero
          (Nat.ne_of_gt sound.valid.cartridges_pos)
        rw [visited, some]
        rfl
      refine .finished ran ⟨?_, swept.session.ready, ?_, swept.frames_eq_empty (ran.arises arises)⟩
      · subst last
        simp only [cleared, blank, started]
      · exact (swept.session.inStep.loaded _ last).2.trans last.symm

/-- Power-on that fails leaves the storage off, as it was. -/
theorem powerOn_failed {σ : Type} [Transport σ] {storage next : Storage σ} {fault : Fault}
    (sound : storage.Sound) (off : storage.poweredOn = false)
    (run : powerOn storage = .error fault next) :
    next = { storage with transport := next.transport } := by
  have ending := powerOn_run storage
  rw [run] at ending
  cases ending with
  | already on => exact Bool.noConfusion (off.symm.trans on)
  | unsized _ refused => rfl
  | failed _ made failed =>
    obtain ⟨transport, active, same⟩ :=
      @initializeDevice_after _ _ { storage.cleared with cache := some _ }
    obtain rfl := (Operation.after_of_error failed).symm.trans same
    rw [sound.idle off]
    rfl

/-- How power-on ends, by what the requests meet with. -/
theorem respond_powerOn (sound : storage.Sound) (off : storage.poweredOn = false)
    (inStep : InStep Recorded.device storage) (arises : storage.transport.device.Arises) :
    ∃ outcome, Ran (startRequests storage.config.geometry) outcome storage.transport
        (respond .powerOn storage).2.transport ∧
      (outcome = none →
        (respond .powerOn storage).1 = .ok .done ∧
          Fresh storage.config (respond .powerOn storage).2) ∧
      ∀ fault, outcome = some fault →
        (respond .powerOn storage).1 = .error fault ∧ (respond .powerOn storage).2 =
          { storage with transport := (respond .powerOn storage).2.transport } := by
  have following := powerOn_follows sound off inStep arises
  cases run : powerOn storage with
  | error fault next =>
    have whole : perform .powerOn storage = .error fault next := Operation.bind_pure_error.mpr run
    rw [respond_of_error whole]
    have unchanged := powerOn_failed sound off run
    rw [run] at following
    cases following with
    | stopped ran =>
      refine ⟨some fault, ran, nofun, ?_⟩
      rintro _ ⟨⟩
      exact ⟨rfl, unchanged⟩
  | ok done next =>
    have whole : perform .powerOn storage = .ok .done next :=
      Operation.bind_pure_ok.mpr ⟨done, run, rfl⟩
    rw [respond_of_ok whole]
    rw [run] at following
    cases following with
    | finished ran fresh => exact ⟨none, ran, fun _ => ⟨rfl, fresh⟩, nofun⟩

/-- Power-off ends the session, whatever the transport makes of the request. -/
theorem respond_powerOff {σ : Type} [Transport σ] {storage : Storage σ} (sound : storage.Sound)
    (on : storage.poweredOn = true) :
    (respond .powerOff storage).2 = {
      config := storage.config
      transport := Transport.disconnect
        (Transport.after (Opcode.request .powoff 0 0) none storage.transport)
      table := Ownership.ofGeometry storage.config.geometry } := by
  have blank : storage.table.reset = Ownership.ofGeometry storage.config.geometry := by
    rw [Ownership.reset_eq, sound.shape]
  have left := execute_after_eq .powoff 0 0 none { storage.cleared with poweredOn := false }
  rw [respond_snd]
  refine (Operation.after_bind_pure _ _).trans ?_
  unfold Operation.after at left ⊢
  rw [powerOff_eq, if_pos on]
  cases sent : execute .powoff 0 0 none { storage.cleared with poweredOn := false } with
  | ok answer next =>
    rw [sent] at left
    simp only [left, cleared, blank]
  | error fault next =>
    rw [sent] at left
    simp only [left, cleared, blank]

/-- With nothing to go wrong, power-on starts a session over any device of the geometry. -/
theorem respond_powerOn_calm (sound : storage.Sound) (off : storage.poweredOn = false)
    (shape : storage.transport.device.geometry = storage.config.geometry)
    (arises : storage.transport.device.Arises) (calm : storage.transport.transport.Calm) :
    (respond .powerOn storage).1 = .ok .done ∧
      Fresh storage.config (respond .powerOn storage).2 := by
  have inStep : InStep Recorded.device storage := by
    refine ⟨shape, arises.whole, ?_⟩
    rw [(sound.off off).2.2]
    nofun
  obtain ⟨outcome, ran, succeeded, _⟩ := respond_powerOn sound off inStep arises
  exact succeeded (ran.calm calm).1

/-- Power-on sends INITMS and zeroes one cartridge after the other, until a request meets with a
fault. If none does, a session has begun, on a device that has nothing stored. Otherwise the storage
is off as before, and power-on succeeds once nothing goes wrong. Power-off always ends the session and
disconnects. -/
theorem Reached.power_cycle
    (reached : Reached (fun _ _ => True) (fun _ _ => True) storage)
    (off : storage.poweredOn = false)
    (shape : storage.transport.device.geometry = storage.config.geometry)
    (arises : storage.transport.device.Arises) :
    (∃ sent, (respond .powerOn storage).2.transport.sent = storage.transport.sent ++ sent ∧
      (∀ request ∈ sent, request.frame = none) ∧
      (storage.transport.transport.Calm → ∀ request ∈ sent, request.fault? = none) ∧
      ((∀ request ∈ sent, request.fault? = none) →
        sent.map Sent.opcode = startRequests storage.config.geometry ∧
          (respond .powerOn storage).1 = .ok .done ∧
          Fresh storage.config (respond .powerOn storage).2) ∧
      ∀ index request fault, sent[index]? = some request → request.fault? = some fault →
        sent.map Sent.opcode = (startRequests storage.config.geometry).take (index + 1) ∧
          (respond .powerOn storage).1 = .error fault ∧
          (respond .powerOn storage).2 =
            { storage with transport := (respond .powerOn storage).2.transport } ∧
          ∀ transport, (respond .powerOn storage).2.transport.Retuned transport →
            transport.transport.Calm →
            (respond .powerOn { storage with transport }).1 = .ok .done ∧
              Fresh storage.config (respond .powerOn { storage with transport }).2) ∧
    ∀ {τ : Type} [Transport τ] {other : Storage τ},
      Reached (fun _ _ => True) (fun _ _ => True) other → other.poweredOn = true →
      (respond .powerOff other).2 = {
        config := other.config
        transport := Transport.disconnect
          (Transport.after (Opcode.request .powoff 0 0) none other.transport)
        table := Ownership.ofGeometry other.config.geometry } := by
  refine ⟨?_, fun reached on => respond_powerOff reached.sound on⟩
  have sound := reached.sound
  have coherent : Coherent Recorded.device [] storage := by
    refine .idle shape arises.whole (sound.off off).2.2 ?_
    rw [sound.idle off]
  obtain ⟨outcome, ran, succeeded, failed⟩ := respond_powerOn sound off coherent.inStep arises
  obtain ⟨sent, logged, scripted⟩ := ran.sent
  refine ⟨sent, logged, fun request member => scripted.frame_eq_none member, fun calm => ?_,
    fun clean => ?_, fun index request fault here met => ?_⟩
  · obtain rfl := (ran.calm calm).1
    exact scripted.clean rfl
  · obtain ⟨rfl, opcodes⟩ := scripted.whole clean
    exact ⟨opcodes, succeeded rfl⟩
  · obtain ⟨rfl, opcodes⟩ := scripted.cut here met
    obtain ⟨reply, unchanged⟩ := failed fault rfl
    refine ⟨opcodes, reply, unchanged, fun transport retuned calm => ?_⟩
    obtain ⟨_, faults, device⟩ := retuned
    have device : transport.device = { (respond .powerOn storage).2.transport.device with faults } :=
      device
    have later : transport.device = (respond .powerOn storage).2.transport.device.clearFaults := by
      have none : transport.device.faults = {} := calm.faults
      rw [device] at none ⊢
      exact congrArg _ none
    -- what the failed attempt has left is again a device of the geometry, in some state
    have geometry := (coherent.respond relays sound .powerOn).inStep.shape
    refine respond_powerOn_calm (sound.relayed transport) off ?_ ?_ calm
    · rw [later]
      exact geometry.trans (congrArg (·.config.geometry) unchanged)
    · rw [later]
      exact (ran.arises arises).disarmed

/-- A device that still holds a frame of an earlier session. -/
def leftBehind : Device :=
  [(Opcode.request .initms 0 0, none), (Opcode.request .ldcart 1 0, none),
    (Opcode.request .wrfrme 0 0, some [1, 2, 3, 4])].foldl
      (fun device request => (device.respond request.1 request.2).2) { geometry := ⟨2, 2, 4⟩ }

/-- A storage that is off, over such a device. The answer to the third request will be lost. -/
def beforeRestart : Storage (Recorded Unreliable) where
  config := { geometry := ⟨2, 2, 4⟩, cacheFrames := 2 }
  transport := { transport := {
    device := leftBehind
    fates := [.answered, .answered, .lost .notConnected] } }
  table := Ownership.ofGeometry ⟨2, 2, 4⟩

/-- Power-on fails at the first BZERO, and succeeds when it is tried again. -/
theorem Reached.power_cycle_restart :
    leftBehind.content ⟨1, 0⟩ = [1, 2, 3, 4] ∧
      (respond .powerOn beforeRestart).1 = .error .notConnected ∧
      (respond .powerOn beforeRestart).2 =
        { beforeRestart with transport := (respond .powerOn beforeRestart).2.transport } ∧
      Fresh beforeRestart.config (respond .powerOn { beforeRestart with
        transport := (respond .powerOn beforeRestart).2.transport }).2 ∧
      (respond .powerOff (twoByTwo {} [.powerOn])).2.poweredOn = false := by
  have reached : Reached (fun _ _ => True) (fun _ _ => True) beforeRestart :=
    .created trivial (create_eq_ok_iff.mpr ⟨rfl, rfl⟩)
  have arises : leftBehind.Arises := .responded _ _ (.responded _ _ (.responded _ _ (.created _)))
  obtain ⟨⟨sent, logged, _, _, _, cut⟩, hungUp⟩ := reached.power_cycle rfl (by cbv) arises
  have third : ((respond .powerOn beforeRestart).2.transport.sent[2]?.bind Sent.fault?) =
      some .notConnected := by cbv
  rw [show beforeRestart.transport.sent = [] from rfl, List.nil_append] at logged
  rw [logged] at third
  obtain ⟨request, here, met⟩ := Option.bind_eq_some_iff.mp third
  obtain ⟨_, failed, unchanged, again⟩ := cut 2 request _ here met
  have calm : (respond .powerOn beforeRestart).2.transport.transport.Calm := by
    have fates : (respond .powerOn beforeRestart).2.transport.transport.fates = [] := by cbv
    refine ⟨by cbv, fun fate member => ?_⟩
    rw [fates] at member
    cases member
  have fresh := (again _ ⟨rfl, _, rfl⟩ calm).2
  have on : (twoByTwo {} [.powerOn]).poweredOn = true := by cbv
  have off := hungUp (twoByTwo_reached trivial [.powerOn]) on
  exact ⟨by cbv, failed, unchanged, fresh, congrArg Storage.poweredOn off⟩

end Storage

end CartridgeBank
