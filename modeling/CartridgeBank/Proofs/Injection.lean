import CartridgeBank.Proofs.Orders

namespace CartridgeBank

namespace Countdowns

variable {counts : Countdowns} {command asked : Command}

theorem ext_get {a b : Countdowns} (same : ∀ command, a.get command = b.get command) : a = b := by
  cases a
  cases b
  simp only [mk.injEq]
  exact ⟨same .initms, same .bzero, same .ldcart, same .rdfrme, same .wrfrme, same .powoff⟩

theorem set_set (counts : Countdowns) (command : Command) (first second : Option Nat) :
    (counts.set command first).set command second = counts.set command second := by
  refine ext_get fun other => ?_
  simp only [get_set]
  split <;> rfl

theorem set_comm (different : command ≠ asked) (counts : Countdowns) (first second : Option Nat) :
    (counts.set command first).set asked second = (counts.set asked second).set command first := by
  refine ext_get fun other => ?_
  simp only [get_set]
  by_cases here : asked = other
  · subst here
    simp [different]
  · simp [here]

/-- To set a count to what it is changes nothing. -/
theorem set_of_get {count : Option Nat} (already : counts.get command = count) :
    counts.set command count = counts := by
  refine ext_get fun other => ?_
  rw [get_set]
  split
  · rename_i here
    rw [← here, already]
  · rfl

/-- Requests for one command are counted as if there were no count for another. -/
theorem tick_set (different : command ≠ asked) (counts : Countdowns) (count : Option Nat) :
    (counts.set command count).tick asked =
      ((counts.tick asked).1, (counts.tick asked).2.set command count) := by
  unfold tick
  rw [get_set, if_neg different]
  cases counts.get asked with
  | none => rfl
  | some left =>
    dsimp only
    split
    · rw [set_comm different]
    · rw [set_comm different]

theorem tick_set_self (counts : Countdowns) (command : Command) (left : Nat) :
    (counts.set command (some (left + 2))).tick command =
      (false, counts.set command (some (left + 1))) := by
  unfold tick
  rw [get_set, if_pos rfl]
  dsimp only
  rw [if_neg (by omega), set_set]
  rfl

theorem tick_set_last (counts : Countdowns) (command : Command) :
    (counts.set command (some 1)).tick command = (true, counts.set command none) := by
  unfold tick
  rw [get_set, if_pos rfl]
  dsimp only
  rw [if_pos rfl, set_set]

theorem tick_of_none (unarmed : counts.get command = none) :
    counts.tick command = (false, counts) := by
  unfold tick
  rw [unarmed]

end Countdowns

namespace Device

variable {device : Device} {opcode : Opcode} {frame : Option Bytes} {command : Command}
  {order : DeviceOrder} {orders : List DeviceOrder}

/-- A request is refused because the device was told to, whatever else there is to say of it. -/
def Injects (device : Device) (opcode : Opcode) : Prop :=
  ∃ command, opcode.command? = some command ∧ (device.faults.tick command).1 = true

/-- The same device with another count of requests for a command, up to the one that it is to
refuse. -/
def awaiting (device : Device) (command : Command) (left : Option Nat) : Device :=
  { device with faults := device.faults.set command left }

/-- The same device with one more request refused. -/
def oneFailureMore (device : Device) : Device :=
  { device with stats := device.stats.bump none }

/-- The same device with other counts, and some more requests refused. -/
def marked (device : Device) (faults : Countdowns) (more : Nat) : Device :=
  { device with
    faults, stats := { device.stats with failures := device.stats.failures + more } }

theorem refuse_marked (device : Device) (opcode : Opcode) (faults : Countdowns) (more : Nat) :
    (device.marked faults more).refuse opcode =
      ((device.refuse opcode).1, (device.refuse opcode).2.marked faults more) := by
  simp only [refuse, marked, Nat.add_right_comm]

theorem ite_marked {condition : Prop} [Decidable condition] {faults : Countdowns} {more : Nat}
    {yes no yesMarked noMarked : Answer × Device} (onYes : yesMarked = (yes.1, yes.2.marked faults more))
    (onNo : noMarked = (no.1, no.2.marked faults more)) :
    (if condition then yesMarked else noMarked) =
      ((if condition then yes else no).1, (if condition then yes else no).2.marked faults more) := by
  split
  · exact onYes
  · exact onNo

/-- A device carries a request out without a look at its counts and its failures. -/
theorem execute_marked (device : Device) (command : Command) (opcode : Opcode)
    (frame : Option Bytes) (faults : Countdowns) (more : Nat) :
    (device.marked faults more).execute command opcode frame =
      ((device.execute command opcode frame).1,
        (device.execute command opcode frame).2.marked faults more) := by
  have refused := refuse_marked device opcode faults more
  have active : (device.marked faults more).active = device.active := rfl
  have addressed : (device.marked faults more).addressed? opcode = device.addressed? opcode := rfl
  unfold execute
  refine ite_marked refused ?_
  cases command with
  | initms => rfl
  | ldcart => exact ite_marked refused rfl
  | bzero =>
    rw [active]
    cases device.active with
    | none => exact refused
    | some cartridge => rfl
  | rdfrme =>
    rw [addressed]
    cases device.addressed? opcode with
    | none => exact refused
    | some location => rfl
  | wrfrme =>
    rw [addressed]
    cases device.addressed? opcode with
    | none => exact refused
    | some location =>
      cases frame with
      | none => exact refused
      | some data => exact ite_marked rfl refused
  | powoff => rfl

theorem execute_awaiting (device : Device) (command asked : Command) (left : Option Nat)
    (opcode : Opcode) (frame : Option Bytes) :
    (device.awaiting command left).execute asked opcode frame =
      ((device.execute asked opcode frame).1,
        (device.execute asked opcode frame).2.awaiting command left) := by
  rw [awaiting, awaiting, faults_execute]
  exact execute_marked device asked opcode frame (device.faults.set command left) 0

theorem execute_oneFailureMore (device : Device) (asked : Command) (opcode : Opcode)
    (frame : Option Bytes) :
    device.oneFailureMore.execute asked opcode frame =
      ((device.execute asked opcode frame).1,
        (device.execute asked opcode frame).2.oneFailureMore) := by
  have kept : (device.execute asked opcode frame).2.oneFailureMore =
      (device.execute asked opcode frame).2.marked device.faults 1 := by
    rw [← faults_execute device asked opcode frame]
    rfl
  rw [kept]
  exact execute_marked device asked opcode frame device.faults 1

/-- A known request counts for its command, and is carried out if it is not the one to refuse. -/
theorem respond_known (known : opcode.command? = some command) (frame : Option Bytes) :
    device.respond opcode frame =
      if (device.faults.tick command).1 then
        refuse { device with faults := (device.faults.tick command).2 } opcode
      else execute { device with faults := (device.faults.tick command).2 } command opcode frame := by
  unfold respond
  rw [known]

theorem respond_oneFailureMore (device : Device) (opcode : Opcode) (frame : Option Bytes) :
    device.oneFailureMore.respond opcode frame =
      ((device.respond opcode frame).1, (device.respond opcode frame).2.oneFailureMore) := by
  cases known : opcode.command? with
  | none =>
    rw [respond_unknown known, respond_unknown known]
    rfl
  | some command =>
    rw [respond_known known, respond_known known]
    have faults : device.oneFailureMore.faults = device.faults := rfl
    rw [faults]
    split
    · rfl
    · exact execute_oneFailureMore { device with faults := (device.faults.tick command).2 } command
        opcode frame

/-- Requests for other commands do not count. -/
theorem respond_awaiting (other : opcode.command? ≠ some command) (left : Option Nat)
    (frame : Option Bytes) :
    (device.awaiting command left).respond opcode frame =
      ((device.respond opcode frame).1, (device.respond opcode frame).2.awaiting command left) := by
  cases known : opcode.command? with
  | none =>
    rw [respond_unknown known, respond_unknown known]
    rfl
  | some asked =>
    have different : command ≠ asked := fun same => other (known.trans (congrArg some same.symm))
    have tick : (device.awaiting command left).faults.tick asked =
        ((device.faults.tick asked).1, (device.faults.tick asked).2.set command left) :=
      Countdowns.tick_set different device.faults left
    rw [respond_known known, respond_known known, tick]
    dsimp only
    split
    · rfl
    · exact execute_awaiting { device with faults := (device.faults.tick asked).2 } command asked
        left opcode frame

/-- As long as another request is to come first, a request for the command is taken off the count and
answered as if there were none. -/
theorem respond_awaiting_self (free : device.faults.get command = none)
    (known : opcode.command? = some command) (left : Nat) (frame : Option Bytes) :
    (device.awaiting command (some (left + 2))).respond opcode frame =
      ((device.respond opcode frame).1,
        (device.respond opcode frame).2.awaiting command (some (left + 1))) := by
  have tick : (device.awaiting command (some (left + 2))).faults.tick command =
      (false, device.faults.set command (some (left + 1))) :=
    Countdowns.tick_set_self device.faults command left
  rw [respond_known known, respond_known known, tick, Countdowns.tick_of_none free]
  exact execute_awaiting device command command (some (left + 1)) opcode frame

/-- The request that the count comes to is refused, and nothing is left of the count. -/
theorem respond_awaiting_last (free : device.faults.get command = none)
    (known : opcode.command? = some command) (frame : Option Bytes) :
    (device.awaiting command (some 1)).respond opcode frame =
      (Answer.failure opcode, device.oneFailureMore) := by
  have tick : (device.awaiting command (some 1)).faults.tick command =
      (true, device.faults) :=
    (Countdowns.tick_set_last device.faults command).trans
      (congrArg (Prod.mk true) (Countdowns.set_of_get free))
  rw [respond_known known, tick]
  rfl

theorem follow_oneFailureMore (device : Device) (orders : List DeviceOrder) :
    device.oneFailureMore.answers orders = device.answers orders ∧
      device.oneFailureMore.follow orders = (device.follow orders).oneFailureMore := by
  induction orders generalizing device with
  | nil => exact ⟨rfl, rfl⟩
  | cons order rest ih =>
    have step : device.oneFailureMore.obey order =
        ((device.obey order).1, (device.obey order).2.oneFailureMore) := by
      cases order with
      | request opcode frame =>
        simp only [obey, respond_oneFailureMore]
      | arm command n => rfl
      | disarm => rfl
    obtain ⟨answers, follow⟩ := ih (device.obey order).2
    rw [answers_cons, follow_cons, step]
    exact ⟨congrArg _ answers, follow⟩

/-- What is left of a count after an order that does not end it. -/
theorem get_obey (kept : order.overrules command = false) (left : Nat) :
    (device.obey order).2.faults.get command = some left ↔
      device.faults.get command = some (left + (order.asks command).toNat) ∧
        (order.asks command = true → 0 < left) := by
  cases order with
  | request opcode frame =>
    cases known : opcode.command? with
    | none =>
      have asks : DeviceOrder.asks command (.request opcode frame) = false := by
        simp [DeviceOrder.asks, known]
      simp only [obey, respond_unknown known, refuse, asks]
      simp
    | some asked =>
      simp only [obey, faults_respond_known known, Countdowns.get_tick, DeviceOrder.asks, known]
      by_cases same : asked = command
      · simp [same]
      · have other : (asked == command) = false := beq_eq_false_iff_ne.mpr same
        simp [same, other]
  | arm other n =>
    have different : other ≠ command := beq_eq_false_iff_ne.mp kept
    simp [obey, failNth, different, DeviceOrder.asks]
  | disarm => cases kept

/-- A count goes down by one with each request for its command, until there is none left. -/
theorem get_follow (kept : ∀ order ∈ orders, order.overrules command = false) (left : Nat) :
    (device.follow orders).faults.get command = some left ↔
      device.faults.get command = some (left + orders.countP (·.asks command)) ∧
        (0 < orders.countP (·.asks command) → 0 < left) := by
  induction orders generalizing device with
  | nil => simp
  | cons order rest ih =>
    rw [follow_cons, ih fun other member => kept other (List.mem_cons_of_mem _ member),
      get_obey (kept order List.mem_cons_self), DeviceOrder.countP_asks_cons, ← Nat.add_assoc]
    cases order.asks command with
    | false => simp
    | true =>
      simp only [Bool.toNat_true, forall_const]
      constructor
      · rintro ⟨⟨armed, _⟩, more⟩
        exact ⟨armed, fun _ => by omega⟩
      · rintro ⟨armed, more⟩
        exact ⟨⟨armed, by omega⟩, fun _ => more (by omega)⟩

/-- The request to refuse is the one that the count comes to. -/
theorem injects_awaiting_iff (kept : ∀ order ∈ orders, order.overrules command = false)
    {left : Nat} (positive : 0 < left) (known : opcode.command? = some command) :
    ((device.awaiting command (some left)).follow orders).Injects opcode ↔
      orders.countP (·.asks command) + 1 = left := by
  have armed : (device.awaiting command (some left)).faults.get command = some left := by
    rw [awaiting, Countdowns.get_set, if_pos rfl]
  constructor
  · rintro ⟨asked, same, told⟩
    obtain rfl := Option.some.inj (known.symm.trans same)
    obtain ⟨rest, found, last⟩ := Countdowns.tick_iff.mp told
    obtain ⟨whole, more⟩ := (get_follow kept rest).mp found
    have whole := Option.some.inj (armed.symm.trans whole)
    omega
  · intro last
    have found := (@get_follow (device.awaiting command (some left)) command orders kept 1).mpr
      ⟨armed.trans (congrArg _ (by omega)), fun _ => Nat.one_pos⟩
    exact ⟨command, known, Countdowns.tick_iff.mpr ⟨1, found, le_rfl⟩⟩

theorem failNth_awaiting {other : Command} (different : other ≠ command) (device : Device)
    (left : Option Nat) (n : Nat) :
    (device.awaiting command left).failNth other n =
      (device.failNth other n).awaiting command left := by
  simp only [awaiting, failNth, Countdowns.set_comm different]

/-- As long as the count does not come to an end, nothing but the count tells of it. -/
theorem obey_awaiting (free : device.faults.get command = none)
    (kept : order.overrules command = false) {left : Nat}
    (few : (order.asks command).toNat < left) :
    (device.awaiting command (some left)).obey order =
      ((device.obey order).1, (device.obey order).2.awaiting command
        (some (left - (order.asks command).toNat))) := by
  cases order with
  | request opcode frame =>
    by_cases known : opcode.command? = some command
    · have asks : DeviceOrder.asks command (.request opcode frame) = true := beq_iff_eq.mpr known
      rw [asks] at few ⊢
      obtain ⟨rest, rfl⟩ : ∃ rest, left = rest + 2 := ⟨left - 2, by simp at few; omega⟩
      simp only [obey, respond_awaiting_self free known]
      rfl
    · have asks : DeviceOrder.asks command (.request opcode frame) = false :=
        beq_eq_false_iff_ne.mpr known
      simp only [obey, respond_awaiting known, asks]
      rfl
  | arm other n =>
    have different : other ≠ command := beq_eq_false_iff_ne.mp kept
    simp only [obey, failNth_awaiting different]
    rfl
  | disarm => cases kept

/-- Where there is no count, none begins. -/
theorem get_follow_none (free : device.faults.get command = none)
    (kept : ∀ order ∈ orders, order.overrules command = false) :
    (device.follow orders).faults.get command = none := by
  refine Option.eq_none_iff_forall_ne_some.mpr fun left found => ?_
  cases free.symm.trans ((get_follow kept left).mp found).1

theorem follow_awaiting (free : device.faults.get command = none)
    (kept : ∀ order ∈ orders, order.overrules command = false) {left : Nat}
    (few : orders.countP (·.asks command) < left) :
    (device.awaiting command (some left)).answers orders = device.answers orders ∧
      (device.awaiting command (some left)).follow orders =
        (device.follow orders).awaiting command
          (some (left - orders.countP (·.asks command))) := by
  induction orders generalizing device left with
  | nil => exact ⟨rfl, rfl⟩
  | cons order rest ih =>
    have keptFirst := kept order List.mem_cons_self
    rw [DeviceOrder.countP_asks_cons] at few ⊢
    have fewRest : rest.countP (·.asks command) < left - (order.asks command).toNat := by omega
    have freeThen : (device.obey order).2.faults.get command = none :=
      @get_follow_none device command [order] free (by simpa using keptFirst)
    obtain ⟨answers, follow⟩ := ih freeThen
      (fun other member => kept other (List.mem_cons_of_mem _ member)) fewRest
    rw [answers_cons, follow_cons, obey_awaiting free keptFirst (by omega)]
    refine ⟨congrArg _ answers, follow.trans ?_⟩
    rw [follow_cons, Nat.sub_sub, Nat.add_comm]

/-- The request that the count comes to is refused. But for the failure, it is as if it had never been
made. -/
theorem follow_awaiting_refused (free : device.faults.get command = none)
    {earlier : List DeviceOrder} (kept : ∀ order ∈ earlier, order.overrules command = false)
    (known : opcode.command? = some command) (frame : Option Bytes) (later : List DeviceOrder) :
    let armed := device.awaiting command (some (earlier.countP (·.asks command) + 1))
    let orders := earlier ++ .request opcode frame :: later
    (armed.answers orders)[earlier.length]? = some (some (Answer.failure opcode)) ∧
      (armed.answers orders).eraseIdx earlier.length = device.answers (earlier ++ later) ∧
      armed.follow orders = (device.follow (earlier ++ later)).oneFailureMore := by
  intro armed orders
  obtain ⟨answers, follow⟩ := follow_awaiting free kept (Nat.lt_succ_self _)
  have freeThen := get_follow_none free kept
  have refused : (armed.follow earlier).obey (.request opcode frame) =
      (some (Answer.failure opcode), (device.follow earlier).oneFailureMore) := by
    rw [follow, Nat.succ_sub (Nat.le_refl _), Nat.sub_self]
    simp only [obey, respond_awaiting_last freeThen known]
  obtain ⟨answersAfter, followAfter⟩ := follow_oneFailureMore (device.follow earlier) later
  have whole : armed.answers orders = device.answers earlier ++
      some (Answer.failure opcode) :: (device.follow earlier).answers later := by
    rw [answers_append, answers, answers_cons, refused, answersAfter]
  refine ⟨?_, ?_, ?_⟩
  · rw [whole, List.getElem?_append_right (by simp)]
    simp
  · rw [whole, List.eraseIdx_append_of_length_le (by simp), answers_append]
    simp
  · rw [follow_append, follow_cons, refused, followAfter, follow_append]

/-- What is left of a count is told by the count and the orders alone. -/
theorem get_obey_congr {a b : Device} (same : a.faults.get command = b.faults.get command)
    (order : DeviceOrder) :
    (a.obey order).2.faults.get command = (b.obey order).2.faults.get command := by
  cases kept : order.overrules command with
  | false =>
    refine Option.ext fun left => ?_
    rw [get_obey kept, get_obey kept, same]
  | true =>
    cases order with
    | request opcode frame => cases kept
    | arm other n =>
      obtain rfl := beq_iff_eq.mp kept
      simp only [obey, failNth, Countdowns.get_set, if_true]
    | disarm => rfl

theorem get_follow_congr {a b : Device} (same : a.faults.get command = b.faults.get command)
    (orders : List DeviceOrder) :
    (a.follow orders).faults.get command = (b.follow orders).faults.get command := by
  induction orders generalizing a b with
  | nil => exact same
  | cons order rest ih => exact ih (get_obey_congr same order)

theorem injects_congr {a b : Device}
    (same : ∀ asked, opcode.command? = some asked → a.faults.get asked = b.faults.get asked) :
    a.Injects opcode ↔ b.Injects opcode := by
  refine exists_congr fun asked => and_congr_right fun known => ?_
  rw [Countdowns.tick_iff, Countdowns.tick_iff, same asked known]

/-- A device that is told to refuse the `n`-th request of a command refuses just this one of them,
the first for `n = 0`, whatever state it is in by then. Until that request, nothing but the count
tells of the order, and another such order takes its place. After it, all other answers and the
device itself are as if it had been made of a device that is to refuse none of that command and had
not been made at all, but for one failure. Orders for different commands do not disturb each
other. -/
theorem injection_exact (device : Device) (command : Command) (n : Nat)
    {orders : List DeviceOrder} (kept : ∀ order ∈ orders, order.overrules command = false) :
    let armed := device.failNth command n
    let free := device.awaiting command none
    (∀ earlier opcode frame later, orders = earlier ++ .request opcode frame :: later →
      opcode.command? = some command →
        ((armed.follow earlier).Injects opcode ↔
          earlier.countP (·.asks command) + 1 = max n 1)) ∧
    (orders.countP (·.asks command) < max n 1 →
      armed.answers orders = free.answers orders ∧
      armed.follow orders = (free.follow orders).awaiting command
        (some (max n 1 - orders.countP (·.asks command))) ∧
      ∀ m, (armed.follow orders).failNth command m = (free.follow orders).failNth command m) ∧
    (∀ earlier opcode frame later, orders = earlier ++ .request opcode frame :: later →
      opcode.command? = some command → earlier.countP (·.asks command) + 1 = max n 1 →
        (armed.answers orders)[earlier.length]? = some (some (Answer.failure opcode)) ∧
        (armed.answers orders).eraseIdx earlier.length = free.answers (earlier ++ later) ∧
        armed.follow orders = (free.follow (earlier ++ later)).oneFailureMore) ∧
    (∀ opcode, opcode.command? ≠ some command →
      ((armed.follow orders).Injects opcode ↔ (device.follow orders).Injects opcode)) ∧
    ∀ other m, other ≠ command →
      armed.failNth other m = (device.failNth other m).failNth command n := by
  intro armed free
  have unarmed : free.faults.get command = none := by
    simp only [free, awaiting, Countdowns.get_set, if_true]
  have counting (left : Nat) : device.awaiting command (some left) =
      free.awaiting command (some left) := by
    simp only [free, awaiting, Countdowns.set_set]
  have armedEq : armed = free.awaiting command (some (max n 1)) := counting (max n 1)
  refine ⟨?_, fun few => ?_, ?_, fun opcode other => ?_, fun other m different => ?_⟩
  · rintro earlier opcode frame later rfl known
    rw [armedEq]
    exact injects_awaiting_iff (fun order member => kept order (List.mem_append_left _ member))
      (by omega) known
  · obtain ⟨answers, follow⟩ := follow_awaiting unarmed kept few
    rw [← armedEq] at answers follow
    refine ⟨answers, follow, fun m => ?_⟩
    rw [follow]
    simp only [awaiting, failNth, Countdowns.set_set]
  · rintro earlier opcode frame later rfl known last
    rw [armedEq, ← last]
    exact follow_awaiting_refused unarmed
      (fun order member => kept order (List.mem_append_left _ member)) known frame later
  · refine injects_congr fun asked known => get_follow_congr ?_ orders
    have different : command ≠ asked := fun same => other (known.trans (congrArg some same.symm))
    simp only [armed, failNth, Countdowns.get_set, if_neg different]
  · exact failNth_awaiting different device _ m

/-- The second LDCART is refused on purpose: the first one was refused because the device was not
initialized, and a RDFRME is to be refused as well. -/
theorem injection_exact_after_refusal :
    let device : Device := { geometry := ⟨2, 4, 8⟩ }
    let earlier : List DeviceOrder :=
      [.request (.request .ldcart 0 0) none, .arm .rdfrme 1, .request (.request .initms 0 0) none]
    let later : List DeviceOrder := [.request (.request .ldcart 1 0) none]
    let orders := earlier ++ .request (.request .ldcart 9 0) none :: later
    (∀ order ∈ orders, order.overrules .ldcart = false) ∧
      ((device.failNth .ldcart 2).follow earlier).Injects (.request .ldcart 9 0) ∧
      ((device.failNth .ldcart 2).answers orders)[3]? =
        some (some (Answer.failure (.request .ldcart 9 0))) ∧
      ((device.failNth .ldcart 2).follow orders).active = some 1 ∧
      ((device.failNth .ldcart 2).follow orders).stats.failures = 2 := by
  intro device earlier later orders
  have kept : ∀ order ∈ orders, order.overrules .ldcart = false := by decide
  obtain ⟨injects, _, refused, _⟩ := injection_exact device .ldcart 2 kept
  have known : (Opcode.request .ldcart 9 0).command? = some .ldcart := by decide
  obtain ⟨answer, _, after⟩ := refused earlier _ none later rfl known (by decide)
  refine ⟨kept, (injects earlier _ none later rfl known).mpr (by decide), answer, ?_, ?_⟩
  · rw [after]
    decide
  · rw [after]
    decide

end Device

end CartridgeBank
