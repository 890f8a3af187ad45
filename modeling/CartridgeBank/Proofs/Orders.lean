import CartridgeBank.Proofs.DeviceLog

namespace CartridgeBank

/-- What a device is told: to answer a request, or which requests to refuse from now on. -/
inductive DeviceOrder where
  | request (opcode : Opcode) (frame : Option Bytes)
  | arm (command : Command) (n : Nat)
  | disarm
deriving DecidableEq, Repr

namespace DeviceOrder

def isRequest : DeviceOrder → Bool
  | request .. => true
  | _ => false

/-- Whether the order is a request for a command. -/
def asks (command : Command) : DeviceOrder → Bool
  | request opcode _ => opcode.command? == some command
  | _ => false

theorem countP_asks_cons (command : Command) (order : DeviceOrder) (rest : List DeviceOrder) :
    (order :: rest).countP (·.asks command) =
      rest.countP (·.asks command) + (order.asks command).toNat := by
  cases asked : order.asks command <;> simp [asked]

/-- Whether the order ends what the device was told before to refuse of a command. -/
def overrules (command : Command) : DeviceOrder → Bool
  | request .. => false
  | arm other _ => other == command
  | disarm => true

end DeviceOrder

namespace DeviceStats

/-- One of the counters: that of the requests for a command that were carried out, or that of the
requests that were refused. -/
def count (stats : DeviceStats) : Option Command → Nat
  | some .initms => stats.inits
  | some .ldcart => stats.loads
  | some .bzero => stats.zeroes
  | some .rdfrme => stats.reads
  | some .wrfrme => stats.writes
  | some .powoff => stats.powerOffs
  | none => stats.failures

/-- All counters together. -/
def total (stats : DeviceStats) : Nat :=
  stats.inits + stats.loads + stats.zeroes + stats.reads + stats.writes + stats.powerOffs +
    stats.failures

/-- The counters with one more request of a kind. -/
def bump (stats : DeviceStats) : Option Command → DeviceStats
  | some .initms => { stats with inits := stats.inits + 1 }
  | some .ldcart => { stats with loads := stats.loads + 1 }
  | some .bzero => { stats with zeroes := stats.zeroes + 1 }
  | some .rdfrme => { stats with reads := stats.reads + 1 }
  | some .wrfrme => { stats with writes := stats.writes + 1 }
  | some .powoff => { stats with powerOffs := stats.powerOffs + 1 }
  | none => { stats with failures := stats.failures + 1 }

theorem count_bump (stats : DeviceStats) (kind other : Option Command) :
    (stats.bump kind).count other = stats.count other + if other = kind then 1 else 0 := by
  rcases kind with _ | ⟨⟨⟩⟩ <;> rcases other with _ | ⟨⟨⟩⟩ <;> rfl

theorem total_bump (stats : DeviceStats) (kind : Option Command) :
    (stats.bump kind).total = stats.total + 1 := by
  rcases kind with _ | ⟨⟨⟩⟩ <;> simp only [bump, total] <;> omega

end DeviceStats

namespace Device

variable {device : Device} {opcode : Opcode} {frame : Option Bytes} {command : Command}

/-- What a device answers to an order, if it is a request, and what it is afterwards. -/
def obey (device : Device) : DeviceOrder → Option Answer × Device
  | .request opcode frame =>
    let (answer, after) := device.respond opcode frame
    (some answer, after)
  | .arm command n => (none, device.failNth command n)
  | .disarm => (none, device.clearFaults)

/-- What a device is after some orders. -/
def follow (device : Device) (orders : List DeviceOrder) : Device :=
  orders.foldl (fun device order => (device.obey order).2) device

/-- What a device answers to each of some orders. -/
def answers : Device → List DeviceOrder → List (Option Answer)
  | _, [] => []
  | device, order :: rest =>
    let (answer, after) := device.obey order
    answer :: after.answers rest

@[simp] theorem follow_nil : device.follow [] = device := rfl

@[simp] theorem follow_cons (order : DeviceOrder) (rest : List DeviceOrder) :
    device.follow (order :: rest) = (device.obey order).2.follow rest := rfl

theorem follow_append (first second : List DeviceOrder) :
    device.follow (first ++ second) = (device.follow first).follow second :=
  List.foldl_append

@[simp] theorem answers_cons (order : DeviceOrder) (rest : List DeviceOrder) :
    device.answers (order :: rest) = (device.obey order).1 :: (device.obey order).2.answers rest :=
  rfl

@[simp] theorem length_answers (orders : List DeviceOrder) :
    (device.answers orders).length = orders.length := by
  induction orders generalizing device with
  | nil => rfl
  | cons order rest ih => rw [answers_cons, List.length_cons, ih, List.length_cons]

theorem answers_append (first second : List DeviceOrder) :
    device.answers (first ++ second) =
      device.answers first ++ (device.follow first).answers second := by
  induction first generalizing device with
  | nil => rfl
  | cons order rest ih =>
    rw [List.cons_append, answers_cons, ih, answers_cons, follow_cons, List.cons_append]

theorem Arises.follow (arises : device.Arises) (orders : List DeviceOrder) :
    (device.follow orders).Arises := by
  induction orders generalizing device with
  | nil => exact arises
  | cons order rest ih =>
    cases order with
    | request opcode frame => exact ih (arises.responded opcode frame)
    | arm command n => exact ih (arises.armed command n)
    | disarm => exact ih arises.disarmed

/-- The counter of a request: that of its command if it is carried out, else that of the refused
ones. -/
def counter (device : Device) (opcode : Opcode) (frame : Option Bytes) : Option Command :=
  if (device.respond opcode frame).1.opcode.isSuccess then opcode.command? else none

theorem stats_execute (device : Device) (command : Command) (opcode : Opcode)
    (frame : Option Bytes) :
    (device.execute command opcode frame).2.stats = device.stats.bump
      (if (device.execute command opcode frame).1.opcode.isSuccess then some command else none) := by
  have refused : (device.refuse opcode).2.stats = device.stats.bump
      (if (device.refuse opcode).1.opcode.isSuccess then some command else none) := by
    simp [refuse, Answer.failure, DeviceStats.bump]
  unfold execute
  split
  · exact refused
  · cases command with
    | initms => simp [DeviceStats.bump]
    | ldcart =>
      dsimp only
      split
      · exact refused
      · simp [DeviceStats.bump]
    | bzero =>
      dsimp only
      split
      · exact refused
      · simp [DeviceStats.bump]
    | rdfrme =>
      dsimp only
      split
      · exact refused
      · simp [DeviceStats.bump]
    | wrfrme =>
      dsimp only
      split
      · split
        · simp [DeviceStats.bump]
        · exact refused
      · exact refused
    | powoff => simp [DeviceStats.bump]

/-- Whatever becomes of a request, it is counted once. -/
theorem stats_respond (device : Device) (opcode : Opcode) (frame : Option Bytes) :
    (device.respond opcode frame).2.stats =
      device.stats.bump (device.counter opcode frame) := by
  have refused (other : Device) : (other.refuse opcode).2.stats = other.stats.bump
      (if (other.refuse opcode).1.opcode.isSuccess then opcode.command? else none) := by
    simp [refuse, Answer.failure, DeviceStats.bump]
  unfold counter
  cases known : opcode.command? with
  | none =>
    rw [respond_unknown known, refused, known]
  | some command =>
    unfold respond
    rw [known]
    dsimp only
    split
    · rw [refused, known]
    · exact stats_execute _ command opcode frame

/-- All the counters together tell how many requests there were. -/
theorem total_follow (device : Device) (orders : List DeviceOrder) :
    (device.follow orders).stats.total =
      device.stats.total + orders.countP DeviceOrder.isRequest := by
  induction orders generalizing device with
  | nil => rfl
  | cons order rest ih =>
    rw [follow_cons, ih]
    cases order with
    | request opcode frame =>
      have counted : (device.obey (.request opcode frame)).2.stats.total = device.stats.total + 1 :=
        (congrArg DeviceStats.total (stats_respond device opcode frame)).trans
          (DeviceStats.total_bump _ _)
      rw [counted, List.countP_cons_of_pos rfl]
      omega
    | arm command n => rfl
    | disarm => rfl

/-- What holds of a device in every state. -/
structure WellKept (device : Device) : Prop where
  inside : ∀ location frame, device.frame? location = some frame →
    device.geometry.contains location = true ∧ frame.length = device.geometry.frameSize
  loaded : ∀ cartridge, device.active = some cartridge →
    cartridge.toNat < device.geometry.cartridges ∧ device.initialized = true
  blank : device.initialized = false → device.frames = ∅
  /-- A request can be taken off any count. -/
  waiting : ∀ command left, device.faults.get command = some left → 1 ≤ left

namespace WellKept

variable {before after : Device} {answer : Answer}

/-- Frames, initialization and the loaded cartridge stay in order, if the counts do. -/
theorem executed (wellKept : before.WellKept)
    (execution : Execution before opcode frame command answer after.plain)
    (waiting : ∀ other left, after.faults.get other = some left → 1 ≤ left) :
    after.WellKept := by
  have inside : after.Stored fun geometry location frame =>
      geometry.contains location = true ∧ frame.length = geometry.frameSize :=
    execution.stored wellKept.inside fun _ _ => And.intro
  -- a device that is initialized stays so, and keeps its cartridge
  have stays (ready : before.initialized = true) (geometry : after.geometry = before.geometry)
      (initialized : after.initialized = before.initialized)
      (active : after.active = before.active) : after.WellKept := by
    refine ⟨inside, ?_, fun blank => ?_, waiting⟩
    · rw [active, geometry, initialized]
      exact wellKept.loaded
    · exact Bool.noConfusion (ready.symm.trans (initialized.symm.trans blank))
  generalize same : after.plain = plain at execution
  cases execution with
  | refused =>
    obtain ⟨geometry, frames, initialized, active⟩ := plain_eq_iff.mp same
    refine ⟨inside, ?_, ?_, waiting⟩
    · rw [active, geometry, initialized]
      exact wellKept.loaded
    · rw [initialized, frames]
      exact wellKept.blank
  | initialized =>
    obtain ⟨_, _, initialized, active⟩ := plain_eq_iff.mp same
    refine ⟨inside, ?_, ?_, waiting⟩
    · rw [active]
      exact nofun
    · rw [initialized]
      exact nofun
  | loaded ready within =>
    obtain ⟨geometry, _, initialized, active⟩ := plain_eq_iff.mp same
    refine ⟨inside, ?_, fun blank => ?_, waiting⟩
    · rw [active, geometry, initialized]
      rintro _ ⟨⟩
      exact ⟨within, ready⟩
    · exact Bool.noConfusion (ready.symm.trans (initialized.symm.trans blank))
  | zeroed ready _ =>
    obtain ⟨geometry, _, initialized, active⟩ := plain_eq_iff.mp same
    exact stays ready geometry initialized active
  | read ready _ =>
    obtain ⟨geometry, _, initialized, active⟩ := plain_eq_iff.mp same
    exact stays ready geometry initialized active
  | written ready _ _ _ =>
    obtain ⟨geometry, _, initialized, active⟩ := plain_eq_iff.mp same
    exact stays ready geometry initialized active
  | poweredOff _ =>
    obtain ⟨_, frames, _, active⟩ := plain_eq_iff.mp same
    refine ⟨inside, ?_, fun _ => frames, waiting⟩
    rw [active]
    exact nofun

theorem respond (wellKept : device.WellKept) (opcode : Opcode) (frame : Option Bytes) :
    (device.respond opcode frame).2.WellKept := by
  cases known : opcode.command? with
  | none =>
    rw [respond_unknown known]
    -- for want of a command any other will do, since the request is refused
    have refused : Execution device opcode frame .initms (Answer.failure opcode)
      (device.refuse opcode).2.plain := .refused
    exact wellKept.executed refused wellKept.waiting
  | some command =>
    refine wellKept.executed (respond_execution known frame) fun other left counted => ?_
    rw [faults_respond_known known, Countdowns.get_tick] at counted
    split at counted
    · exact counted.2
    · exact wellKept.waiting other left counted

theorem failNth (wellKept : device.WellKept) (command : Command) (n : Nat) :
    (device.failNth command n).WellKept := by
  refine ⟨wellKept.inside, wellKept.loaded, wellKept.blank, fun other left counted => ?_⟩
  rw [Device.failNth, Countdowns.get_set] at counted
  split at counted
  · obtain rfl := Option.some.inj counted
    exact Nat.le_max_right n 1
  · exact wellKept.waiting other left counted

theorem clearFaults (wellKept : device.WellKept) : device.clearFaults.WellKept := by
  refine ⟨wellKept.inside, wellKept.loaded, wellKept.blank, fun other left counted => ?_⟩
  cases other <;> cases counted

end WellKept

theorem Arises.wellKept (arises : device.Arises) : device.WellKept := by
  induction arises with
  | created geometry =>
    refine ⟨fun location frame stored => ?_, nofun, fun _ => rfl, fun other left counted => ?_⟩
    · simp [frame?] at stored
    · cases other <;> cases counted
  | responded opcode frame _ ih => exact ih.respond opcode frame
  | armed command n _ ih => exact ih.failNth command n
  | disarmed _ ih => exact ih.clearFaults

theorem geometry_follow (device : Device) (orders : List DeviceOrder) :
    (device.follow orders).geometry = device.geometry := by
  induction orders generalizing device with
  | nil => rfl
  | cons order rest ih =>
    rw [follow_cons, ih]
    cases order with
    | request opcode frame => exact geometry_respond device opcode frame
    | arm command n => rfl
    | disarm => rfl

/-- Whatever a new bank is told, each frame that it stores is a whole frame of the bank, its loaded
cartridge belongs to the bank and is loaded only while it is initialized, it stores nothing
otherwise, and every count to a refusal has a request left. Each request, with any word and payload,
moves one counter by one, so that together they tell how many requests there were. -/
theorem well_kept_and_counted (geometry : Geometry) (orders : List DeviceOrder) :
    let device := Device.follow { geometry } orders
    device.geometry = geometry ∧ device.WellKept ∧
      device.stats.total = orders.countP DeviceOrder.isRequest ∧
      ∀ opcode frame kind, (device.respond opcode frame).2.stats.count kind =
        device.stats.count kind + if kind = device.counter opcode frame then 1 else 0 := by
  refine ⟨geometry_follow _ orders, ((Arises.created geometry).follow orders).wellKept, ?_,
    fun opcode frame kind => ?_⟩
  · exact (total_follow _ orders).trans (Nat.zero_add _)
  · rw [stats_respond, DeviceStats.count_bump]

end Device

end CartridgeBank
