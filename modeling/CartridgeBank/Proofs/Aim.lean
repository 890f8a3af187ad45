import CartridgeBank.Proofs.Settled

namespace CartridgeBank

/-- A new device of the configured geometry, whatever it is to refuse and whatever becomes of the
requests to it. -/
def Recorded.Fresh (config : Config) (recorded : Recorded Unreliable) : Prop :=
  recorded.sent = [] ∧ ∃ faults, recorded.device = { geometry := config.geometry, faults }

def Recorded.Retuned (before after : Recorded Unreliable) : Prop :=
  after.sent = before.sent ∧ Unreliable.Retuned before.transport after.transport

/-- The device has refused the requests that it was told to refuse, and no other ones. -/
structure Recorded.Accounted (recorded : Recorded Unreliable) : Prop where
  failures : recorded.device.stats.failures = recorded.sent.countP Sent.injected
  answers : ∀ sent ∈ recorded.sent, ∀ answer, sent.answer? = some answer →
    (answer.opcode.isSuccess = false ↔ sent.injected = true)

theorem Works.accounted {turns : List (Turn (Recorded Unreliable))}
    {before after : Storage (Recorded Unreliable)} (works : Works turns before after)
    (accounted : before.transport.Accounted) : after.transport.Accounted := by
  refine ⟨?_, fun sent member answer given => ?_⟩
  · rw [works.failures, works.sent, List.countP_append, accounted.failures]
  · rw [works.sent, List.mem_append] at member
    rcases member with old | new
    · exact accounted.answers sent old answer given
    · obtain ⟨turn, taken, rfl⟩ := List.mem_map.mp new
      obtain ⟨device, found, rfl⟩ := Option.map_eq_some_iff.mp given
      obtain ⟨answered, _⟩ := (works.sound turn taken).answered found
      change (device.respond turn.errand.opcode turn.errand.payload).1.opcode.isSuccess = false ↔ _
      rw [answered, Opcode.isSuccess_withRet]
      simp

namespace Storage

/-- Other faults to come change nothing that the storage knows of the device. -/
theorem Settled.retuned {storage : Storage (Recorded Unreliable)} {transport : Recorded Unreliable}
    (settled : storage.Settled) (retuned : storage.transport.Retuned transport) :
    Settled { storage with transport } := by
  obtain ⟨_, faults, device⟩ := retuned
  have device : transport.device = { storage.transport.device with faults } := device
  have plain : transport.device.plain = storage.transport.device.plain := by
    rw [device]
    rfl
  obtain ⟨geometry, _, initialized, active⟩ := Device.plain_eq_iff.mp plain
  refine ⟨settled.inStep.relayed ?_ geometry initialized active, fun on => ?_⟩
  · exact settled.inStep.whole.congr (.of_plain plain)
  · exact initialized.trans (settled.ready on)

theorem Reached.settled {storage : Storage (Recorded Unreliable)}
    (reached : Reached Recorded.Fresh Recorded.Retuned storage) :
    storage.Settled ∧ storage.transport.Accounted := by
  induction reached with
  | created fresh made =>
    obtain ⟨unsent, faults, device⟩ := fresh
    obtain ⟨_, rfl⟩ := create_eq_ok_iff.mp made
    refine ⟨⟨⟨?_, ?_, nofun⟩, nofun⟩, ?_, ?_⟩
    · rw [device]
    · rw [device]
      exact (Device.Arises.created _).whole.congr ⟨rfl, rfl⟩
    · rw [device, unsent]
      rfl
    · rw [unsent]
      exact fun sent member => absurd member List.not_mem_nil
  | called call reached both =>
    obtain ⟨works, settled⟩ := both.1.respond reached.sound call
    exact ⟨settled, works.accounted both.2⟩
  | @meddled storage transport reached retuned both =>
    obtain ⟨settled, accounted⟩ := both
    refine ⟨settled.retuned retuned, ?_, ?_⟩
    all_goals obtain ⟨sent, faults, device⟩ := retuned
    · have device : transport.device = { storage.transport.device with faults } := device
      rw [device, sent]
      exact accounted.failures
    · rw [sent]
      exact accounted.answers

/-- Whatever becomes of the single requests, the storage knows which cartridge the device has
loaded, each request for a frame addresses the frame that it is for, and the device refuses what it
is told to refuse and nothing else. -/
theorem Reached.on_target {storage : Storage (Recorded Unreliable)}
    (reached : Reached Recorded.Fresh Recorded.Retuned storage) :
    (∀ cartridge, storage.active = some cartridge →
      storage.transport.device.initialized = true ∧
        storage.transport.device.active = some cartridge) ∧
      storage.transport.device.stats.failures = storage.transport.sent.countP Sent.injected ∧
      (∀ sent ∈ storage.transport.sent, ∀ answer, sent.answer? = some answer →
        (answer.opcode.isSuccess = false ↔ sent.injected = true)) ∧
      ∀ call,
        (respond call storage).2.transport.sent =
            storage.transport.sent ++ (turns call storage).map Turn.sent ∧
          ∀ turn ∈ turns call storage,
            (∀ cartridge, turn.storage.active = some cartridge →
              turn.sent.transport.device.initialized = true ∧
                turn.sent.transport.device.active = some cartridge) ∧
            (turn.sent.opcode.command? = some .rdfrme ∨ turn.sent.opcode.command? = some .wrfrme →
              ∃ location, turn.errand.target? = some location ∧
                ∀ device, turn.sent.found? = some device →
                  device.addressed? turn.sent.opcode = some location ∧
                    (turn.sent.injected = false →
                      turn.errand.CarriedOut device
                        (device.respond turn.sent.opcode turn.sent.frame).1 turn.sent.left)) := by
  obtain ⟨settled, accounted⟩ := reached.settled
  refine ⟨settled.inStep.loaded, accounted.failures, accounted.answers, fun call => ?_⟩
  obtain ⟨works, _⟩ := settled.respond reached.sound call
  refine ⟨works.sent, fun turn member => ?_⟩
  have sound := works.sound turn member
  refine ⟨sound.loaded, fun framed => ?_⟩
  obtain ⟨location, target⟩ := turn.errand.target_of_command framed
  exact ⟨location, target, fun device found =>
    ⟨sound.addressed found target, sound.carriedOut found⟩⟩

/-- A device that refuses the first INITMS. Later the answer to a LDCART is lost, the next LDCART does
not arrive, and a WRFRME is refused. -/
def mishaps : Recorded Unreliable where
  transport := {
    device := { geometry := ⟨2, 2, 4⟩ }
    fates := [.refused] ++ List.replicate 5 .answered ++
      [.lost .notConnected, .undelivered .notConnected, .answered, .refused] }

/-- A storage that failed once to power on, and then three times to write. -/
def afterMishaps : Storage (Recorded Unreliable) :=
  (respondAll [.powerOn, .powerOn, .openFile "a", .write ⟨0⟩ [1], .write ⟨0⟩ [2], .write ⟨0⟩ [3]] {
    config := { geometry := ⟨2, 2, 4⟩, cacheFrames := 1 }
    transport := mishaps
    table := Ownership.ofGeometry ⟨2, 2, 4⟩ }).2

theorem Reached.on_target_after_mishaps :
    afterMishaps.transport.device.active = some 0 ∧
      afterMishaps.transport.device.stats.failures = 2 ∧
      ∀ turn ∈ turns (.write ⟨0⟩ [4, 5, 6, 7, 8]) afterMishaps,
        ∃ location, turn.errand.target? = some location ∧
          ∀ device, turn.sent.found? = some device →
            device.addressed? turn.sent.opcode = some location := by
  have fresh : Recorded.Fresh { geometry := ⟨2, 2, 4⟩, cacheFrames := 1 } mishaps :=
    ⟨rfl, {}, rfl⟩
  have reached : Reached Recorded.Fresh Recorded.Retuned afterMishaps :=
    Reached.all (.created fresh (create_eq_ok_iff.mpr ⟨rfl, rfl⟩)) _
  obtain ⟨loaded, failures, _, sent⟩ := reached.on_target
  have known : afterMishaps.active = some 0 := by cbv
  have injected : afterMishaps.transport.sent.countP Sent.injected = 2 := by cbv
  have stores : ((turns (.write ⟨0⟩ [4, 5, 6, 7, 8]) afterMishaps).all fun turn =>
      turn.sent.opcode.command? == some .wrfrme) = true := by cbv
  refine ⟨(loaded 0 known).2, failures.trans injected, fun turn member => ?_⟩
  have command := eq_of_beq (List.all_eq_true.mp stores turn member)
  obtain ⟨location, target, aimed⟩ := (sent _).2 turn member |>.2 (Or.inr command)
  exact ⟨location, target, fun device found => (aimed device found).1⟩

end Storage

end CartridgeBank
