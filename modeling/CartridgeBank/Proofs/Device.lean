import CartridgeBank.Device
import CartridgeBank.Proofs.Opcode

namespace CartridgeBank.Device

/-- What a device is but for its counters and the requests it is to refuse. -/
def plain (device : Device) : Device := { device with stats := {}, faults := {} }

theorem plain_eq_iff {a b : Device} :
    a.plain = b.plain ↔ a.geometry = b.geometry ∧ a.frames = b.frames ∧
      a.initialized = b.initialized ∧ a.active = b.active := by
  cases a
  cases b
  simp [plain]

/-- What may become of a request: the device refuses it and stays as it is, or carries it out. -/
inductive Execution (device : Device) (opcode : Opcode) (frame : Option Bytes) :
    Command → Answer → Device → Prop
  | refused {command : Command} :
      Execution device opcode frame command (Answer.failure opcode) device.plain
  | initialized : Execution device opcode frame .initms { opcode := opcode.withRet false }
      (plain { device with initialized := true, active := none })
  | loaded : device.initialized = true → opcode.cartridge.toNat < device.geometry.cartridges →
      Execution device opcode frame .ldcart { opcode := opcode.withRet false }
        (plain { device with active := some opcode.cartridge })
  | zeroed {cartridge : UInt16} : device.initialized = true → device.active = some cartridge →
      Execution device opcode frame .bzero { opcode := opcode.withRet false }
        (plain { device with
          frames := device.frames.filter fun location _ => location.cartridge != cartridge })
  | read {location : FrameLocation} : device.initialized = true →
      device.addressed? opcode = some location →
      Execution device opcode frame .rdfrme
        { opcode := opcode.withRet false, frame := some (device.content location) } device.plain
  | written {location : FrameLocation} {data : Bytes} : device.initialized = true →
      device.addressed? opcode = some location → frame = some data →
      data.length = device.geometry.frameSize →
      Execution device opcode frame .wrfrme { opcode := opcode.withRet false }
        (plain { device with frames := device.frames.insert location data })
  | poweredOff : device.initialized = true →
      Execution device opcode frame .powoff { opcode := opcode.withRet false }
        (plain { device with frames := ∅, initialized := false, active := none })

variable {device before after : Device} {opcode : Opcode} {frame : Option Bytes}
  {command : Command} {answer : Answer}

theorem Execution.geometry (execution : Execution before opcode frame command answer after.plain) :
    after.geometry = before.geometry := by
  generalize same : after.plain = plain at execution
  cases execution <;> exact (plain_eq_iff.mp same).1

/-- Nothing but a POWOFF makes a device forget that it is initialized. -/
theorem Execution.ready (execution : Execution before opcode frame command answer after.plain)
    (further : command ≠ .powoff) (ready : before.initialized = true) :
    after.initialized = true := by
  generalize same : after.plain = plain at execution
  cases execution with
  | poweredOff _ => exact absurd rfl further
  | initialized => exact (plain_eq_iff.mp same).2.2.1
  | refused => exact (plain_eq_iff.mp same).2.2.1.trans ready
  | loaded _ _ => exact (plain_eq_iff.mp same).2.2.1.trans ready
  | zeroed _ _ => exact (plain_eq_iff.mp same).2.2.1.trans ready
  | read _ _ => exact (plain_eq_iff.mp same).2.2.1.trans ready
  | written _ _ _ _ => exact (plain_eq_iff.mp same).2.2.1.trans ready

/-- A device that carries an INITMS out is initialized. -/
theorem Execution.ready_of_initms
    (execution : Execution before opcode frame .initms answer after.plain)
    (success : answer.opcode.isSuccess = true) : after.initialized = true := by
  generalize same : after.plain = plain at execution
  cases execution with
  | refused => simp [Answer.failure] at success
  | initialized => exact (plain_eq_iff.mp same).2.2.1

/-- Counters and requests to refuse do not matter. -/
theorem Execution.of_plain {other : Device} (same : before.plain = other.plain)
    (execution : Execution before opcode frame command answer after) :
    Execution other opcode frame command answer after := by
  obtain ⟨geometry, frames, initialized, active⟩ := plain_eq_iff.mp same
  cases before
  cases other
  dsimp only at geometry frames initialized active
  subst geometry frames initialized active
  cases execution with
  | refused => exact .refused
  | initialized => exact .initialized
  | loaded ready within => exact .loaded ready within
  | zeroed ready active => exact .zeroed ready active
  | read ready addressed => exact .read ready addressed
  | written ready addressed carried full => exact .written ready addressed carried full
  | poweredOff ready => exact .poweredOff ready

theorem addressed?_eq_some_iff {location : FrameLocation} :
    device.addressed? opcode = some location ↔
      device.active = some location.cartridge ∧ location.frame = opcode.frame ∧
        device.geometry.contains location = true := by
  obtain ⟨cartridge, index⟩ := location
  cases active : device.active with
  | none => simp [addressed?, active]
  | some loaded =>
    simp only [addressed?, active, Option.bind_eq_bind, Option.bind_some, Option.some.injEq]
    constructor
    · intro found
      split at found
      · rename_i inside
        cases found
        exact ⟨rfl, rfl, inside⟩
      · cases found
    · rintro ⟨rfl, rfl, inside⟩
      rw [if_pos inside]

theorem execution (device : Device) (command : Command) (opcode : Opcode) (frame : Option Bytes) :
    Execution device opcode frame command (device.execute command opcode frame).1
      (device.execute command opcode frame).2.plain := by
  unfold execute
  split
  · exact .refused
  · rename_i accepted
    have ready (other : command ≠ .initms) : device.initialized = true :=
      Decidable.byContradiction fun blank => accepted ⟨other, blank⟩
    cases command with
    | initms => exact .initialized
    | ldcart =>
      dsimp only
      split
      · exact .refused
      · rename_i inside
        exact .loaded (ready nofun) (Nat.lt_of_not_le inside)
    | bzero =>
      dsimp only
      split
      · exact .refused
      · rename_i cartridge active
        exact .zeroed (ready nofun) active
    | rdfrme =>
      dsimp only
      split
      · exact .refused
      · rename_i location addressed
        exact .read (ready nofun) addressed
    | wrfrme =>
      dsimp only
      split
      · rename_i location data addressed
        split
        · rename_i full
          exact .written (ready nofun) addressed rfl full
        · exact .refused
      · exact .refused
    | powoff => exact .poweredOff (ready nofun)

/-- A request is carried out or refused also by a device that is to refuse some on purpose. -/
theorem respond_execution (known : opcode.command? = some command) (frame : Option Bytes) :
    Execution device opcode frame command (device.respond opcode frame).1
      (device.respond opcode frame).2.plain := by
  unfold respond
  rw [known]
  dsimp only
  split
  · exact .refused
  · refine Execution.of_plain ?_ (execution _ command opcode frame)
    rfl

/-- Carrying out a command arms no fault and disarms none. -/
theorem faults_execute (device : Device) (command : Command) (opcode : Opcode)
    (frame : Option Bytes) : (device.execute command opcode frame).2.faults = device.faults := by
  unfold execute refuse
  repeat' split
  all_goals rfl

/-- A request counts for the faults of its command, whatever becomes of it. -/
theorem faults_respond_known (known : opcode.command? = some command) (frame : Option Bytes) :
    (device.respond opcode frame).2.faults = (device.faults.tick command).2 := by
  unfold respond
  rw [known]
  dsimp only
  split
  · rfl
  · exact faults_execute _ command opcode frame

/-- A request for no known command is refused. -/
theorem respond_unknown (unknown : opcode.command? = none) (frame : Option Bytes) :
    device.respond opcode frame = device.refuse opcode := by
  unfold respond
  rw [unknown]

theorem geometry_respond (device : Device) (opcode : Opcode) (frame : Option Bytes) :
    (device.respond opcode frame).2.geometry = device.geometry := by
  cases known : opcode.command? with
  | none =>
    unfold respond
    rw [known]
    rfl
  | some command => exact (respond_execution known frame).geometry

/-- An answer carries a frame exactly if it reports success to a RDFRME. -/
theorem Execution.frame_isSome (execution : Execution device opcode frame command answer after) :
    answer.frame.isSome = true ↔ command = .rdfrme ∧ answer.opcode.isSuccess = true := by
  cases execution with
  | refused => simp [Answer.failure]
  | initialized => simp
  | loaded ready within => simp
  | zeroed ready loaded => simp
  | read ready addressed => simp
  | written ready addressed carried full => simp
  | poweredOff ready => simp

/-- The frame of an answer is that of the loaded cartridge which the request names. -/
theorem Execution.frame_eq (execution : Execution device opcode frame command answer after)
    {bytes : Bytes} (carried : answer.frame = some bytes) :
    ∃ cartridge, device.active = some cartridge ∧
      bytes = device.content ⟨cartridge, opcode.frame⟩ := by
  cases execution with
  | @read location ready addressed =>
    obtain ⟨cartridge, index⟩ := location
    obtain ⟨active, same, _⟩ := addressed?_eq_some_iff.mp addressed
    cases carried
    exact ⟨cartridge, active, congrArg device.content (congrArg (FrameLocation.mk cartridge) same)⟩
  | refused => cases carried
  | initialized => cases carried
  | loaded ready within => cases carried
  | zeroed ready loaded => cases carried
  | written ready addressed filled full => cases carried
  | poweredOff ready => cases carried

/-- A refused request changes nothing but counters. -/
theorem Execution.eq_of_refused (execution : Execution device opcode frame command answer after)
    (refused : answer.opcode.isSuccess = false) : after = device.plain := by
  cases execution with
  | refused => rfl
  | initialized => simp at refused
  | loaded ready within => simp at refused
  | zeroed ready loaded => simp at refused
  | read ready addressed => simp at refused
  | written ready addressed carried full => simp at refused
  | poweredOff ready => simp at refused

/-- Exactly the answer that reports success to a RDFRME carries a frame. -/
theorem isSome_frame_respond (device : Device) (opcode : Opcode) (frame : Option Bytes) :
    (device.respond opcode frame).1.frame.isSome = true ↔
      opcode.command? = some .rdfrme ∧ (device.respond opcode frame).1.opcode.isSuccess = true := by
  cases known : opcode.command? with
  | none =>
    rw [respond_unknown known]
    simp [refuse, Answer.failure]
  | some command => rw [(respond_execution known frame).frame_isSome, Option.some.injEq]

/-- Only the answer to a RDFRME carries a frame, which is one that the device has. -/
theorem frame_respond (device : Device) (opcode : Opcode) (frame : Option Bytes) :
    (device.respond opcode frame).1.frame = none ∨ opcode.command? = some .rdfrme ∧
      ∃ location, (device.respond opcode frame).1.frame = some (device.content location) := by
  cases carried : (device.respond opcode frame).1.frame with
  | none => exact Or.inl rfl
  | some bytes =>
    obtain ⟨reading, _⟩ := (isSome_frame_respond device opcode frame).mp (by rw [carried]; rfl)
    obtain ⟨cartridge, _, same⟩ := (respond_execution reading frame).frame_eq carried
    exact Or.inr ⟨reading, _, congrArg some same⟩

/-- A request that fails changes nothing but counters. -/
theorem eq_of_failed (failed : (device.respond opcode frame).1.opcode.isSuccess = false) :
    (device.respond opcode frame).2.frames = device.frames ∧
      (device.respond opcode frame).2.active = device.active ∧
      (device.respond opcode frame).2.initialized = device.initialized := by
  cases known : opcode.command? with
  | none =>
    rw [respond_unknown known]
    exact ⟨rfl, rfl, rfl⟩
  | some command =>
    obtain ⟨_, frames, initialized, active⟩ :=
      plain_eq_iff.mp ((respond_execution known frame).eq_of_refused failed)
    exact ⟨frames, active, initialized⟩

/-- The device has no reason of its own to refuse a request. -/
def Accepts (device : Device) (opcode : Opcode) (frame : Option Bytes) : Command → Prop
  | .initms => True
  | .ldcart =>
    device.initialized = true ∧ opcode.cartridge.toNat < device.geometry.cartridges
  | .bzero => device.initialized = true ∧ ∃ cartridge, device.active = some cartridge
  | .rdfrme =>
    device.initialized = true ∧ ∃ location, device.addressed? opcode = some location
  | .wrfrme =>
    device.initialized = true ∧ ∃ location data, device.addressed? opcode = some location ∧
      frame = some data ∧ data.length = device.geometry.frameSize
  | .powoff => device.initialized = true

/-- Counters and requests to refuse are no reason. -/
theorem Accepts.of_plain {other : Device} (same : other.plain = device.plain)
    (accepts : device.Accepts opcode frame command) : other.Accepts opcode frame command := by
  obtain ⟨geometry, frames, initialized, active⟩ := plain_eq_iff.mp same
  have addressed : other.addressed? opcode = device.addressed? opcode := by
    unfold addressed?
    rw [active, geometry]
  have alike : other.Accepts opcode frame command = device.Accepts opcode frame command := by
    unfold Accepts
    rw [geometry, initialized, active, addressed]
  exact alike ▸ accepts

theorem execute_of_accepts (accepts : device.Accepts opcode frame command) :
    (device.execute command opcode frame).1.opcode = opcode.withRet false ∧
      (device.execute command opcode frame).2.stats.failures = device.stats.failures := by
  unfold execute
  cases command with
  | initms => exact ⟨rfl, rfl⟩
  | ldcart =>
    obtain ⟨ready, within⟩ := accepts
    simp [ready, Nat.not_le.mpr within]
  | bzero =>
    obtain ⟨ready, cartridge, active⟩ := accepts
    simp [ready, active]
  | rdfrme =>
    obtain ⟨ready, location, addressed⟩ := accepts
    simp [ready, addressed]
  | wrfrme =>
    obtain ⟨ready, location, data, addressed, rfl, full⟩ := accepts
    simp [ready, addressed, full]
  | powoff => simp [show device.initialized = true from accepts]

/-- A request that gives no reason to be refused is refused only where the device is told to, and
then counts as one failure. -/
theorem respond_of_accepts (known : opcode.command? = some command)
    (accepts : device.Accepts opcode frame command) :
    (device.respond opcode frame).1.opcode = opcode.withRet (device.faults.tick command).1 ∧
      (device.respond opcode frame).2.stats.failures =
        device.stats.failures + (device.faults.tick command).1.toNat := by
  unfold respond
  rw [known]
  dsimp only
  cases told : (device.faults.tick command).1 with
  | true => exact ⟨rfl, rfl⟩
  | false =>
    have untold : Accepts { device with faults := (device.faults.tick command).2 } opcode frame
      command := accepts.of_plain rfl
    exact execute_of_accepts untold

/-- A request is carried out only if there is no reason to refuse it. -/
theorem Execution.accepts (execution : Execution device opcode frame command answer after)
    (success : answer.opcode.isSuccess = true) : device.Accepts opcode frame command := by
  cases execution with
  | refused => simp [Answer.failure] at success
  | initialized => exact trivial
  | loaded ready within => exact ⟨ready, within⟩
  | zeroed ready loaded => exact ⟨ready, _, loaded⟩
  | read ready addressed => exact ⟨ready, _, addressed⟩
  | written ready addressed carried full => exact ⟨ready, _, _, addressed, carried, full⟩
  | poweredOff ready => exact ready

/-- The answer reports success exactly to a known command that the device is not told to refuse and has
no reason of its own to. -/
theorem isSuccess_respond_iff :
    (device.respond opcode frame).1.opcode.isSuccess = true ↔
      ∃ command, opcode.command? = some command ∧ (device.faults.tick command).1 = false ∧
        device.Accepts opcode frame command := by
  constructor
  · intro success
    cases known : opcode.command? with
    | none =>
      rw [respond_unknown known] at success
      simp [refuse, Answer.failure] at success
    | some command =>
      have accepts := (respond_execution known frame).accepts success
      have answered := (respond_of_accepts known accepts).1
      rw [answered, Opcode.isSuccess_withRet, Bool.not_eq_true'] at success
      exact ⟨command, rfl, success, accepts⟩
  · rintro ⟨command, known, untold, accepts⟩
    rw [(respond_of_accepts known accepts).1, untold, Opcode.isSuccess_withRet]
    rfl

/-- The word of an answer is that of the request but for the return bit. -/
theorem opcode_respond (device : Device) (opcode : Opcode) (frame : Option Bytes) :
    ∃ failed, (device.respond opcode frame).1.opcode = opcode.withRet failed := by
  cases known : opcode.command? with
  | none =>
    rw [respond_unknown known]
    exact ⟨true, rfl⟩
  | some command =>
    have execution := @respond_execution device opcode command known frame
    generalize (device.respond opcode frame).1 = answer at execution ⊢
    generalize (device.respond opcode frame).2.plain = after at execution
    cases execution with
    | refused => exact ⟨true, rfl⟩
    | initialized => exact ⟨false, rfl⟩
    | loaded ready within => exact ⟨false, rfl⟩
    | zeroed ready loaded => exact ⟨false, rfl⟩
    | read ready addressed => exact ⟨false, rfl⟩
    | written ready addressed carried full => exact ⟨false, rfl⟩
    | poweredOff ready => exact ⟨false, rfl⟩

/-- The same frames of the same bank. -/
structure SameFrames (before after : Device) : Prop where
  geometry : after.geometry = before.geometry
  frames : after.frames = before.frames

namespace SameFrames

variable {before middle after : Device}

theorem trans (first : before.SameFrames middle) (second : middle.SameFrames after) :
    before.SameFrames after :=
  ⟨second.geometry.trans first.geometry, second.frames.trans first.frames⟩

theorem of_plain (same : after.plain = before.plain) : before.SameFrames after := by
  obtain ⟨geometry, frames, _, _⟩ := plain_eq_iff.mp same
  exact ⟨geometry, frames⟩

theorem content (same : before.SameFrames after) : after.content = before.content := by
  funext location
  simp only [Device.content, frame?, same.geometry, same.frames]

end SameFrames

/-- The device with one frame stored. -/
def store (device : Device) (location : FrameLocation) (frame : Bytes) : Device :=
  { device with frames := device.frames.insert location frame }

theorem content_store (device : Device) (location : FrameLocation) (frame : Bytes)
    (other : FrameLocation) : (device.store location frame).content other =
      if other = location then frame else device.content other := by
  simp only [content, frame?, store, Std.ExtTreeMap.getElem?_insert,
    Std.LawfulEqCmp.compare_eq_iff_eq, @eq_comm _ location]
  split <;> rfl

/-- The device with frames stored one after the other. -/
def storeAll (device : Device) (pieces : List (FrameLocation × Bytes)) : Device :=
  pieces.foldl (fun device piece => device.store piece.1 piece.2) device

theorem SameFrames.store {before after : Device} (same : before.SameFrames after)
    (location : FrameLocation) (frame : Bytes) :
    (before.store location frame).SameFrames (after.store location frame) := by
  refine ⟨same.geometry, ?_⟩
  simp only [Device.store, same.frames]

theorem SameFrames.storeAll {before after : Device} (same : before.SameFrames after)
    (pieces : List (FrameLocation × Bytes)) :
    (before.storeAll pieces).SameFrames (after.storeAll pieces) := by
  induction pieces generalizing before after with
  | nil => exact same
  | cons piece rest ih => exact ih (same.store piece.1 piece.2)

theorem content_storeAll_of_notMem {pieces : List (FrameLocation × Bytes)}
    {location : FrameLocation} (apart : location ∉ pieces.map Prod.fst) :
    (device.storeAll pieces).content location = device.content location := by
  induction pieces generalizing device with
  | nil => rfl
  | cons piece rest ih =>
    rw [List.map_cons, List.mem_cons, not_or] at apart
    rw [storeAll, List.foldl_cons]
    refine (ih apart.2).trans ?_
    rw [content_store, if_neg apart.1]

/-- Frames that were stored at different locations are there. -/
theorem map_content_storeAll {locations : List FrameLocation} {frames : List Bytes}
    (distinct : locations.Nodup) (count : locations.length = frames.length) :
    locations.map (device.storeAll (locations.zip frames)).content = frames := by
  induction locations generalizing device frames with
  | nil => exact (List.length_eq_zero_iff.mp count.symm).symm
  | cons location rest ih =>
    obtain ⟨fresh, distinct⟩ := List.nodup_cons.mp distinct
    cases frames with
    | nil => cases count
    | cons frame others =>
      have count : rest.length = others.length := Nat.succ.inj count
      have apart : location ∉ (rest.zip others).map Prod.fst := by
        rw [List.map_fst_zip (Nat.le_of_eq count)]
        exact fresh
      rw [List.zip_cons_cons, storeAll, List.foldl_cons, List.map_cons]
      have here := @content_storeAll_of_notMem (device.store location frame) _ _ apart
      rw [content_store, if_pos rfl] at here
      exact List.cons_eq_cons.mpr ⟨here, ih distinct count⟩

/-- Something that the geometry of a device says of each frame that it has stored. -/
def Stored (property : Geometry → FrameLocation → Bytes → Prop) (device : Device) : Prop :=
  ∀ location frame, device.frame? location = some frame → property device.geometry location frame

section Stored

variable {property : Geometry → FrameLocation → Bytes → Prop}

theorem Stored.congr (stored : before.Stored property) (same : before.SameFrames after) :
    after.Stored property := by
  intro location frame found
  rw [same.geometry]
  refine stored location frame ?_
  rw [← found, frame?, frame?, same.frames]

/-- What holds of every whole frame of the bank is true of whatever a request stores. -/
theorem Execution.stored (execution : Execution before opcode frame command answer after.plain)
    (held : before.Stored property)
    (fits : ∀ location bytes, before.geometry.contains location = true →
      bytes.length = before.geometry.frameSize → property before.geometry location bytes) :
    after.Stored property := by
  generalize same : after.plain = plain at execution
  cases execution with
  | refused => exact held.congr (.of_plain same)
  | initialized =>
    refine Stored.congr ?_ (.of_plain same)
    exact held
  | loaded ready within =>
    refine Stored.congr ?_ (.of_plain same)
    exact held
  | zeroed ready loaded =>
    refine Stored.congr ?_ (.of_plain same)
    intro location frame found
    simp only [frame?, Std.ExtTreeMap.getElem?_filter', Option.filter_eq_some_iff] at found
    exact held location frame found.1
  | read ready addressed => exact held.congr (.of_plain same)
  | written ready addressed carried full =>
    refine Stored.congr ?_ (.of_plain same)
    intro other frame found
    simp only [frame?, Std.ExtTreeMap.getElem?_insert] at found
    split at found
    · rename_i here
      obtain rfl := Std.LawfulEqCmp.eq_of_compare here
      cases found
      exact fits _ _ (addressed?_eq_some_iff.mp addressed).2.2 full
    · exact held other frame found
  | poweredOff ready =>
    refine Stored.congr ?_ (.of_plain same)
    intro location frame found
    simp [frame?] at found

end Stored

/-- Every stored frame has the size of the frames of the bank. -/
def Whole (device : Device) : Prop :=
  ∀ location frame, device.frame? location = some frame → frame.length = device.geometry.frameSize

theorem Whole.length_content (whole : device.Whole) (location : FrameLocation) :
    (device.content location).length = device.geometry.frameSize := by
  unfold content
  cases stored : device.frame? location with
  | none => exact List.length_replicate
  | some frame => exact whole location frame stored

theorem whole_iff : device.Whole ↔
    device.Stored fun geometry _ frame => frame.length = geometry.frameSize :=
  Iff.rfl

theorem Whole.congr (whole : before.Whole) (same : before.SameFrames after) : after.Whole :=
  whole_iff.mpr ((whole_iff.mp whole).congr same)

/-- No request stores anything but whole frames. -/
theorem Execution.whole (execution : Execution before opcode frame command answer after.plain)
    (whole : before.Whole) : after.Whole :=
  whole_iff.mpr (execution.stored (whole_iff.mp whole) fun _ _ _ full => full)

/-- The states of a device. A new one answers requests, and may be told at any time which of them to
refuse. -/
inductive Arises : Device → Prop
  | created (geometry : Geometry) : Arises { geometry }
  | responded {device : Device} (opcode : Opcode) (frame : Option Bytes) : Arises device →
      Arises (device.respond opcode frame).2
  | armed {device : Device} (command : Command) (n : Nat) : Arises device →
      Arises (device.failNth command n)
  | disarmed {device : Device} : Arises device → Arises device.clearFaults

/-- What holds of every whole frame of the bank holds of all frames that are ever stored. -/
theorem Arises.stored (arises : device.Arises)
    {property : Geometry → FrameLocation → Bytes → Prop}
    (fits : ∀ location bytes, device.geometry.contains location = true →
      bytes.length = device.geometry.frameSize → property device.geometry location bytes) :
    device.Stored property := by
  induction arises with
  | created geometry =>
    intro location frame found
    simp [frame?] at found
  | @responded device opcode frame _ ih =>
    rw [geometry_respond] at fits
    have held := ih fits
    cases known : opcode.command? with
    | none =>
      simp only [respond, known]
      exact held.congr ⟨rfl, rfl⟩
    | some command => exact (respond_execution known frame).stored held fits
  | armed command n _ ih => exact (ih fits).congr ⟨rfl, rfl⟩
  | disarmed _ ih => exact (ih fits).congr ⟨rfl, rfl⟩

theorem Arises.whole (arises : device.Arises) : device.Whole :=
  whole_iff.mpr (arises.stored fun _ _ _ full => full)

/-- Every stored frame belongs to the bank. -/
theorem Arises.inside (arises : device.Arises) {location : FrameLocation} {frame : Bytes}
    (stored : device.frame? location = some frame) : device.geometry.contains location = true :=
  @Arises.stored device arises (fun geometry location _ => geometry.contains location = true)
    (fun _ _ inside _ => inside) location frame stored

end CartridgeBank.Device
