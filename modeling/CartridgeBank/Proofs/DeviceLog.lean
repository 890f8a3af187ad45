import CartridgeBank.Proofs.Device
import CartridgeBank.Proofs.Geometry

namespace CartridgeBank

/-- Something that happens to a device. -/
inductive DeviceEvent where
  | answered (opcode : Opcode) (frame : Option Bytes) (answer : Answer)
  | armed (command : Command) (n : Nat)
  | disarmed
deriving DecidableEq, Repr

namespace DeviceEvent

/-- The command that was carried out, with its word and its payload, if one was. -/
def done? : DeviceEvent → Option (Command × Opcode × Option Bytes)
  | answered opcode frame answer =>
    if answer.opcode.isSuccess then opcode.command?.map (·, opcode, frame) else none
  | _ => none

/-- Whether the event is a request for a command, whatever came of it. -/
def asks (command : Command) : DeviceEvent → Bool
  | answered opcode _ _ => opcode.command? == some command
  | _ => false

/-- Whether the event ends what the device was told before to refuse of a command. -/
def overrules (command : Command) : DeviceEvent → Bool
  | answered .. => false
  | armed other _ => other == command
  | disarmed => true

end DeviceEvent

/-- What has happened to a device, the latest first. -/
abbrev DeviceLog := List DeviceEvent

namespace DeviceLog

/-- Whether an INITMS was carried out since the last POWOFF. -/
def initialized : DeviceLog → Bool
  | [] => false
  | event :: earlier =>
    match event.done? with
    | some (.initms, _) => true
    | some (.powoff, _) => false
    | _ => initialized earlier

/-- The cartridge of the last LDCART since the last INITMS or POWOFF. -/
def active? : DeviceLog → Option UInt16
  | [] => none
  | event :: earlier =>
    match event.done? with
    | some (.initms, _) | some (.powoff, _) => none
    | some (.ldcart, opcode, _) => some opcode.cartridge
    | _ => active? earlier

/-- The payload of the last WRFRME to a location since the last BZERO of its cartridge or POWOFF. -/
def stored? (location : FrameLocation) : DeviceLog → Option Bytes
  | [] => none
  | event :: earlier =>
    match event.done? with
    | some (.powoff, _) => none
    | some (.bzero, _) =>
      if active? earlier = some location.cartridge then none else stored? location earlier
    | some (.wrfrme, opcode, frame) =>
      if active? earlier = some location.cartridge ∧ opcode.frame = location.frame then frame
      else stored? location earlier
    | _ => stored? location earlier

/-- The device was told to refuse a request of a command, and there are `left` of them to come until
it is that one. -/
def Left (log : DeviceLog) (command : Command) (left : Nat) : Prop :=
  ∃ later n earlier, log = later ++ .armed command n :: earlier ∧
    (∀ event ∈ later, event.overrules command = false) ∧
    later.countP (·.asks command) + left = max n 1

/-- The next request of a command is the one to refuse. -/
def Due (log : DeviceLog) (command : Command) : Prop := log.Left command 1

/-- What a request needs in order to be carried out. -/
def Allows (log : DeviceLog) (geometry : Geometry) (opcode : Opcode) (frame : Option Bytes) :
    Command → Prop
  | .initms => True
  | .ldcart => log.initialized = true ∧ opcode.cartridge.toNat < geometry.cartridges
  | .bzero => log.initialized = true ∧ log.active?.isSome
  | .rdfrme => log.initialized = true ∧ log.active?.isSome ∧
      opcode.frame.toNat < geometry.framesPerCartridge
  | .wrfrme => log.initialized = true ∧ log.active?.isSome ∧
      opcode.frame.toNat < geometry.framesPerCartridge ∧
      frame.map List.length = some geometry.frameSize
  | .powoff => log.initialized = true

variable {log : DeviceLog} {event : DeviceEvent} {command : Command}

theorem Left.mem {left : Nat} (waiting : log.Left command left) :
    ∃ n, DeviceEvent.armed command n ∈ log := by
  obtain ⟨later, n, earlier, rfl, _⟩ := waiting
  exact ⟨n, List.mem_append_right later List.mem_cons_self⟩

theorem left_created (left : Nat) : ¬Left [] command left := by
  rintro ⟨later, n, earlier, whole, _⟩
  cases later <;> cases whole

theorem left_armed (n left : Nat) :
    Left (.armed command n :: log) command left ↔ left = max n 1 := by
  constructor
  · rintro ⟨later, m, earlier, whole, kept, count⟩
    cases later with
    | nil =>
      cases whole
      rwa [List.countP_nil, Nat.zero_add] at count
    | cons event rest =>
      obtain ⟨rfl, _⟩ := List.cons_eq_cons.mp whole
      have overruled := kept _ List.mem_cons_self
      simp [DeviceEvent.overrules] at overruled
  · rintro rfl
    exact ⟨[], n, log, rfl, nofun, by rw [List.countP_nil, Nat.zero_add]⟩

/-- What overrules an earlier order leaves nothing of it. -/
theorem left_overruled (overruled : event.overrules command = true)
    (other : ∀ n, event ≠ .armed command n) (left : Nat) : ¬Left (event :: log) command left := by
  rintro ⟨later, n, earlier, whole, kept, _⟩
  cases later with
  | nil => exact other n (List.cons_eq_cons.mp whole).1
  | cons first rest =>
    obtain ⟨rfl, _⟩ := List.cons_eq_cons.mp whole
    rw [kept _ List.mem_cons_self] at overruled
    cases overruled

/-- Any other event counts if it is a request for the command. -/
theorem left_cons (kept : event.overrules command = false) (left : Nat) :
    Left (event :: log) command left ↔ log.Left command (left + (event.asks command).toNat) := by
  have counted (rest : DeviceLog) : (event :: rest).countP (·.asks command) =
      rest.countP (·.asks command) + (event.asks command).toNat := by
    cases asked : event.asks command <;> simp [asked]
  constructor
  · rintro ⟨later, n, earlier, whole, all, count⟩
    cases later with
    | nil =>
      obtain ⟨rfl, _⟩ := List.cons_eq_cons.mp whole
      simp [DeviceEvent.overrules] at kept
    | cons first rest =>
      obtain ⟨rfl, tail⟩ := List.cons_eq_cons.mp whole
      rw [counted] at count
      exact ⟨rest, n, earlier, tail, fun other member => all other (List.mem_cons_of_mem _ member),
        by omega⟩
  · rintro ⟨later, n, earlier, rfl, all, count⟩
    refine ⟨event :: later, n, earlier, rfl, ?_, ?_⟩
    · exact List.forall_mem_cons.mpr ⟨kept, all⟩
    · rw [counted]
      omega

end DeviceLog

namespace Countdowns

variable {counts : Countdowns} {command : Command}

theorem tick_iff : (counts.tick command).1 = true ↔
    ∃ left, counts.get command = some left ∧ left ≤ 1 := by
  unfold tick
  cases armed : counts.get command with
  | none => simp
  | some left =>
    simp only [Option.some.injEq, exists_eq_left']
    split <;> simp only [Bool.false_eq_true, true_iff, false_iff] <;> omega

/-- Of the command asked for, one request less is left, and the last one disarms the device. -/
theorem get_tick (other : Command) (left : Nat) :
    (counts.tick command).2.get other = some left ↔
      if command = other then counts.get other = some (left + 1) ∧ 0 < left
      else counts.get other = some left := by
  unfold tick
  split
  · rename_i unarmed
    by_cases same : command = other
    · subst same
      simp [unarmed]
    · simp [same]
  · rename_i before armed
    split
    · by_cases same : command = other
      · subst same
        simp only [get_set, if_pos, armed, Option.some.injEq, reduceCtorEq, false_iff]
        omega
      · simp [same]
    · by_cases same : command = other
      · subst same
        simp only [get_set, if_pos, armed, Option.some.injEq]
        omega
      · simp [same]

end Countdowns

namespace Device

variable {device : Device} {geometry : Geometry} {log : DeviceLog} {opcode : Opcode}
  {frame : Option Bytes} {command : Command}

/-- The states of a new bank, with what has happened to it: requests with any words and payloads, and
orders to refuse some of them. -/
inductive Past (geometry : Geometry) : DeviceLog → Device → Prop
  | created : Past geometry [] { geometry }
  | answered {log : DeviceLog} {device : Device} (opcode : Opcode) (frame : Option Bytes) :
      Past geometry log device →
      Past geometry (.answered opcode frame (device.respond opcode frame).1 :: log)
        (device.respond opcode frame).2
  | armed {log : DeviceLog} {device : Device} (command : Command) (n : Nat) :
      Past geometry log device →
      Past geometry (.armed command n :: log) (device.failNth command n)
  | disarmed {log : DeviceLog} {device : Device} : Past geometry log device →
      Past geometry (.disarmed :: log) device.clearFaults

/-- What a device is, but for its counters and the requests it is to refuse, is told by what has
happened to it. -/
structure Told (geometry : Geometry) (log : DeviceLog) (device : Device) : Prop where
  geometry_eq : device.geometry = geometry
  initialized : device.initialized = log.initialized
  active : device.active = log.active?
  stored : ∀ location, device.frame? location = log.stored? location
  within : ∀ cartridge, device.active = some cartridge → cartridge.toNat < geometry.cartridges

/-- Which requests a device is to refuse is told by what has happened to it. -/
def Counted (log : DeviceLog) (device : Device) : Prop :=
  ∀ command left, device.faults.get command = some left ↔ 0 < left ∧ log.Left command left

theorem Counted.due_iff (counted : Counted log device) :
    (device.faults.tick command).1 = true ↔ log.Due command := by
  rw [Countdowns.tick_iff]
  constructor
  · rintro ⟨left, armed, last⟩
    obtain ⟨some, waiting⟩ := (counted command left).mp armed
    obtain rfl : left = 1 := by omega
    exact waiting
  · intro due
    exact ⟨1, (counted command 1).mpr ⟨Nat.one_pos, due⟩, le_rfl⟩

theorem Told.allows_iff (told : Told geometry log device) :
    device.Accepts opcode frame command ↔ log.Allows geometry opcode frame command := by
  have addressed : (∃ location, device.addressed? opcode = some location) ↔
      log.active?.isSome ∧ opcode.frame.toNat < geometry.framesPerCartridge := by
    rw [← told.active]
    constructor
    · rintro ⟨location, found⟩
      obtain ⟨active, same, inside⟩ := addressed?_eq_some_iff.mp found
      have inside := (Geometry.contains_iff.mp inside).2
      rw [told.geometry_eq, same] at inside
      exact ⟨by rw [active]; rfl, inside⟩
    · rintro ⟨loaded, inside⟩
      obtain ⟨cartridge, active⟩ := Option.isSome_iff_exists.mp loaded
      refine ⟨⟨cartridge, opcode.frame⟩, addressed?_eq_some_iff.mpr ⟨active, rfl, ?_⟩⟩
      rw [told.geometry_eq]
      exact Geometry.contains_iff.mpr ⟨told.within cartridge active, inside⟩
  unfold Accepts DeviceLog.Allows
  cases command with
  | initms => exact Iff.rfl
  | ldcart => rw [told.initialized, told.geometry_eq]
  | bzero => rw [told.initialized, told.active, Option.isSome_iff_exists]
  | rdfrme => rw [told.initialized, addressed]
  | wrfrme =>
    rw [told.initialized, told.geometry_eq]
    refine and_congr_right fun _ => ⟨?_, ?_⟩
    · rintro ⟨location, data, found, rfl, full⟩
      obtain ⟨loaded, inside⟩ := addressed.mp ⟨location, found⟩
      exact ⟨loaded, inside, congrArg some full⟩
    · rintro ⟨loaded, inside, carried⟩
      obtain ⟨location, found⟩ := addressed.mpr ⟨loaded, inside⟩
      obtain ⟨data, same, full⟩ := Option.map_eq_some_iff.mp carried
      exact ⟨location, data, found, same, full⟩
  | powoff => rw [told.initialized]

theorem Told.of_plain {event : DeviceEvent} {after : Device} (told : Told geometry log device)
    {frames : Std.ExtTreeMap FrameLocation Bytes} {initialized : Bool} {active : Option UInt16}
    (same : after.plain = plain { device with frames, initialized, active })
    (initializedToo : initialized = DeviceLog.initialized (event :: log))
    (activeToo : active = DeviceLog.active? (event :: log))
    (framesToo : ∀ location, frames[location]? = DeviceLog.stored? location (event :: log))
    (within : ∀ cartridge, active = some cartridge → cartridge.toNat < geometry.cartridges) :
    Told geometry (event :: log) after := by
  obtain ⟨sameGeometry, sameFrames, sameInitialized, sameActive⟩ := plain_eq_iff.mp same
  refine ⟨sameGeometry.trans told.geometry_eq, sameInitialized.trans initializedToo,
    sameActive.trans activeToo, fun location => ?_, ?_⟩
  · rw [frame?, sameFrames]
    exact framesToo location
  · rw [sameActive]
    exact within

/-- An event that carries nothing out leaves everything as it was. -/
theorem Told.idle {event : DeviceEvent} {after : Device} (told : Told geometry log device)
    (idle : event.done? = none) (same : after.plain = device.plain) :
    Told geometry (event :: log) after := by
  refine told.of_plain same ?_ ?_ (fun location => ?_) told.within
  · rw [told.initialized, DeviceLog.initialized, idle]
  · rw [told.active, DeviceLog.active?, idle]
  · rw [DeviceLog.stored?, idle]
    exact told.stored location

/-- Carrying a request out changes a device in the way that its log tells. -/
theorem Told.answered {answer : Answer} {after : Device} (told : Told geometry log device)
    (known : opcode.command? = some command)
    (execution : Execution device opcode frame command answer after.plain) :
    Told geometry (.answered opcode frame answer :: log) after := by
  have done (success : answer.opcode.isSuccess = true) :
      DeviceEvent.done? (.answered opcode frame answer) = some (command, opcode, frame) := by
    rw [DeviceEvent.done?, if_pos success, known]
    rfl
  have stored := told.stored
  unfold frame? at stored
  generalize same : after.plain = plain at execution
  cases execution with
  | refused =>
    refine told.idle ?_ same
    simp [DeviceEvent.done?, Answer.failure]
  | initialized =>
    have done := done (by simp)
    refine told.of_plain same ?_ ?_ (fun location => ?_) fun _ loaded => by cases loaded
    · rw [DeviceLog.initialized, done]
    · rw [DeviceLog.active?, done]
    · rw [DeviceLog.stored?, done, stored]
  | loaded _ within =>
    have done := done (by simp)
    refine told.of_plain same ?_ ?_ (fun location => ?_) ?_
    · rw [DeviceLog.initialized, done, told.initialized]
    · rw [DeviceLog.active?, done]
    · rw [DeviceLog.stored?, done, stored]
    · rintro cartridge ⟨⟩
      exact told.geometry_eq ▸ within
  | @zeroed cartridge _ loaded =>
    have done := done (by simp)
    refine told.of_plain same ?_ ?_ (fun location => ?_) told.within
    · rw [DeviceLog.initialized, done, told.initialized]
    · rw [DeviceLog.active?, done, told.active]
    · rw [told.active] at loaded
      rw [DeviceLog.stored?, done, loaded, ← stored, Std.ExtTreeMap.getElem?_filter']
      by_cases here : cartridge = location.cartridge
      · simp [here]
      · have elsewhere : (location.cartridge != cartridge) = true := bne_iff_ne.mpr (Ne.symm here)
        cases device.frames[location]? <;> simp [here, elsewhere]
  | read _ _ =>
    have done := done (by simp)
    refine told.of_plain same ?_ ?_ (fun location => ?_) told.within
    · rw [DeviceLog.initialized, done, told.initialized]
    · rw [DeviceLog.active?, done, told.active]
    · rw [DeviceLog.stored?, done, stored]
  | @written target data _ addressed carried _ =>
    have done := done (by simp)
    obtain ⟨loaded, index, _⟩ := addressed?_eq_some_iff.mp addressed
    refine told.of_plain same ?_ ?_ (fun location => ?_) told.within
    · rw [DeviceLog.initialized, done, told.initialized]
    · rw [DeviceLog.active?, done, told.active]
    · have here : target = location ↔
          some target.cartridge = some location.cartridge ∧ target.frame = location.frame := by
        cases target
        cases location
        simp
      rw [told.active] at loaded
      rw [DeviceLog.stored?, done, loaded, Std.ExtTreeMap.getElem?_insert]
      dsimp only
      simp only [Std.LawfulEqCmp.compare_eq_iff_eq, here, index, carried, stored]
  | poweredOff _ =>
    have done := done (by simp)
    refine told.of_plain same ?_ ?_ (fun location => ?_) fun _ loaded => by cases loaded
    · rw [DeviceLog.initialized, done]
    · rw [DeviceLog.active?, done]
    · rw [DeviceLog.stored?, done]
      exact Std.ExtTreeMap.getElem?_empty

theorem Counted.answered (counted : Counted log device) (opcode : Opcode) (frame : Option Bytes)
    (answer : Answer) :
    Counted (.answered opcode frame answer :: log) (device.respond opcode frame).2 := by
  intro other left
  rw [DeviceLog.left_cons rfl]
  cases known : opcode.command? with
  | none =>
    have asked : DeviceEvent.asks other (.answered opcode frame answer) = false := by
      rw [DeviceEvent.asks, known]
      rfl
    rw [respond_unknown known, asked]
    exact counted other left
  | some command =>
    rw [faults_respond_known known, Countdowns.get_tick]
    by_cases same : command = other
    · have asked : DeviceEvent.asks other (.answered opcode frame answer) = true := by
        rw [DeviceEvent.asks, known, same]
        exact beq_self_eq_true _
      rw [if_pos same, counted, asked]
      constructor
      · rintro ⟨⟨_, waiting⟩, some⟩
        exact ⟨some, waiting⟩
      · rintro ⟨some, waiting⟩
        exact ⟨⟨Nat.succ_pos left, waiting⟩, some⟩
    · have asked : DeviceEvent.asks other (.answered opcode frame answer) = false := by
        rw [DeviceEvent.asks, known]
        exact beq_eq_false_iff_ne.mpr fun found => same (Option.some.inj found)
      rw [if_neg same, counted, asked]
      exact Iff.rfl

theorem Counted.armed (counted : Counted log device) (command : Command) (n : Nat) :
    Counted (.armed command n :: log) (device.failNth command n) := by
  intro other left
  rw [failNth, Countdowns.get_set]
  by_cases same : command = other
  · subst same
    rw [if_pos rfl, DeviceLog.left_armed, Option.some.injEq]
    omega
  · have kept : DeviceEvent.overrules other (.armed command n) = false :=
      beq_eq_false_iff_ne.mpr same
    rw [if_neg same, DeviceLog.left_cons kept]
    exact counted other left

theorem Counted.disarmed : Counted (.disarmed :: log) device.clearFaults := by
  intro other left
  have none : ({} : Countdowns).get other = none := by cases other <;> rfl
  have different : ∀ n, DeviceEvent.disarmed ≠ .armed other n := nofun
  rw [clearFaults, none]
  exact ⟨nofun, fun waiting => absurd waiting.2 (DeviceLog.left_overruled rfl different left)⟩

theorem Past.told (past : Past geometry log device) : Told geometry log device := by
  induction past with
  | created => exact ⟨rfl, rfl, rfl, fun _ => Std.ExtTreeMap.getElem?_empty, nofun⟩
  | @answered log device opcode frame _ ih =>
    cases known : opcode.command? with
    | none =>
      refine ih.idle ?_ ?_
      · simp [DeviceEvent.done?, known]
      · rw [respond_unknown known]
        rfl
    | some command => exact ih.answered known (respond_execution known frame)
  | armed command n _ ih => exact ih.idle rfl rfl
  | disarmed _ ih => exact ih.idle rfl rfl

theorem Past.counted (past : Past geometry log device) : Counted log device := by
  induction past with
  | created =>
    intro other left
    have none : ({} : Countdowns).get other = none := by cases other <;> rfl
    rw [none]
    exact ⟨nofun, fun waiting => absurd waiting.2 (DeviceLog.left_created left)⟩
  | answered opcode frame _ ih => exact ih.answered opcode frame _
  | armed command n _ ih => exact ih.armed command n
  | disarmed _ _ => exact .disarmed

/-- An answer has the word of its request, but for the return bit. -/
theorem getLsbD_respond (device : Device) (opcode : Opcode) (frame : Option Bytes) {i : Nat}
    (other : i ≠ Register.ret.shift) :
    (device.respond opcode frame).1.opcode.word.getLsbD i = opcode.word.getLsbD i := by
  obtain ⟨failed, word⟩ := opcode_respond device opcode frame
  rw [word, Opcode.getLsbD_withRet opcode failed other]

/-- Success is told by what has happened. -/
theorem Past.isSuccess_iff (past : Past geometry log device) :
    (device.respond opcode frame).1.opcode.isSuccess = true ↔
      ∃ command, opcode.command? = some command ∧ ¬log.Due command ∧
        log.Allows geometry opcode frame command := by
  rw [isSuccess_respond_iff]
  refine exists_congr fun command => and_congr_right fun _ => and_congr ?_ past.told.allows_iff
  rw [← past.counted.due_iff, Bool.not_eq_true]

/-- A frame is the one last stored where the request points, or zeros. -/
theorem Past.frame_eq (past : Past geometry log device) {bytes : Bytes}
    (carried : (device.respond opcode frame).1.frame = some bytes) :
    ∃ cartridge, log.active? = some cartridge ∧
      bytes = (log.stored? ⟨cartridge, opcode.frame⟩).getD
        (List.replicate geometry.frameSize 0) := by
  have told := past.told
  obtain ⟨reading, _⟩ := (isSome_frame_respond device opcode frame).mp (by rw [carried]; rfl)
  obtain ⟨cartridge, active, same⟩ := (respond_execution reading frame).frame_eq carried
  refine ⟨cartridge, told.active.symm.trans active, same.trans ?_⟩
  rw [content, told.stored, told.geometry_eq]

/-- A bank is a store of frames. To every request, with any word and payload and whatever has happened,
it answers with the same word but for the return bit. The bit is clear exactly for a known command
that it is not told to refuse and that has all it needs. An answer carries a frame exactly if it
reports success to a RDFRME, and this frame is the one last stored there since the cartridge was
zeroed or the power went off, or else zeros. A request that fails leaves the frames, the loaded
cartridge and the initialization alone. -/
theorem Past.answers_from_log (past : Past geometry log device) (opcode : Opcode)
    (frame : Option Bytes) :
    let answer := (device.respond opcode frame).1
    let after := (device.respond opcode frame).2
    (device.initialized = log.initialized ∧ device.active = log.active? ∧
      ∀ location, device.frame? location = log.stored? location) ∧
    (∀ i, i ≠ Register.ret.shift → answer.opcode.word.getLsbD i = opcode.word.getLsbD i) ∧
    (answer.opcode.ret = 0 ↔ ∃ command, opcode.command? = some command ∧ ¬log.Due command ∧
      log.Allows geometry opcode frame command) ∧
    (answer.frame.isSome ↔ opcode.command? = some .rdfrme ∧ answer.opcode.ret = 0) ∧
    (∀ bytes, answer.frame = some bytes → ∃ cartridge, log.active? = some cartridge ∧
      bytes = (log.stored? ⟨cartridge, opcode.frame⟩).getD
        (List.replicate geometry.frameSize 0)) ∧
    (answer.opcode.ret ≠ 0 → after.frames = device.frames ∧ after.active = device.active ∧
      after.initialized = device.initialized) := by
  intro answer after
  have told := past.told
  have success : answer.opcode.isSuccess = true ↔ answer.opcode.ret = 0 := beq_iff_eq
  refine ⟨⟨told.initialized, told.active, told.stored⟩,
    fun i => getLsbD_respond device opcode frame, ?_, ?_, fun bytes => past.frame_eq,
    fun failed => eq_of_failed ?_⟩
  · rw [← success]
    exact past.isSuccess_iff
  · rw [← success]
    exact isSome_frame_respond device opcode frame
  · rwa [ne_eq, ← success, Bool.not_eq_true] at failed

/-- A frame outlasts a BZERO that the device is told to refuse. -/
theorem Past.answers_from_log_refused_zeroing :
    ∃ log device, Past ⟨2, 2, 1⟩ log device ∧ DeviceLog.stored? ⟨1, 1⟩ log = some [7] ∧
      ¬DeviceLog.Due log .rdfrme ∧ log.Allows ⟨2, 2, 1⟩ (.request .rdfrme 0 1) none .rdfrme ∧
      (device.respond (.request .rdfrme 0 1) none).1.opcode.ret = 0 ∧
      (device.respond (.request .rdfrme 0 1) none).1.frame = some [7] := by
  have past := ((((@Past.created ⟨2, 2, 1⟩).answered (.request .initms 0 0) none).answered
    (.request .ldcart 1 0) none).answered (.request .wrfrme 0 1) (some [7])).armed .bzero 1
  obtain ⟨log, device, past, untold, ready, active, stored⟩ :
      ∃ log device, Past ⟨2, 2, 1⟩ log device ∧ ¬DeviceLog.Due log .rdfrme ∧
        log.initialized = true ∧ log.active? = some 1 ∧
        DeviceLog.stored? ⟨1, 1⟩ log = some [7] := by
    refine ⟨_, _, past.answered (.request .bzero 0 0) none, fun due => ?_, ?_, ?_, ?_⟩
    · obtain ⟨n, member⟩ := due.mem
      simp at member
    all_goals decide +kernel
  obtain ⟨_, _, carriedOut, carries, bytes, _⟩ :=
    past.answers_from_log (.request .rdfrme 0 1) none
  have allowed : log.Allows ⟨2, 2, 1⟩ (.request .rdfrme 0 1) none .rdfrme :=
    ⟨ready, by rw [active]; rfl, by decide⟩
  have success := carriedOut.mpr ⟨.rdfrme, by decide, untold, allowed⟩
  obtain ⟨found, carried⟩ := Option.isSome_iff_exists.mp (carries.mpr ⟨by decide, success⟩)
  obtain ⟨cartridge, loaded, same⟩ := bytes found carried
  obtain rfl : 1 = cartridge := Option.some.inj (active.symm.trans loaded)
  have index : (Opcode.request .rdfrme 0 1).frame = 1 := by decide
  rw [index, stored, Option.getD_some] at same
  exact ⟨log, device, past, stored, untold, allowed, success, carried.trans (congrArg some same)⟩

end Device

end CartridgeBank
