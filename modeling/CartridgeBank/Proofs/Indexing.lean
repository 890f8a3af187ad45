import CartridgeBank.Proofs.Guarded
import CartridgeBank.Proofs.Startup

namespace CartridgeBank

namespace FrameLocation

/-- The order of locations is the scan order. -/
theorem compare_eq_lt_iff {a b : FrameLocation} : compare a b = .lt ↔ a.Precedes b := by
  change compareLex (compareOn FrameLocation.cartridge) (compareOn FrameLocation.frame) a b = .lt ↔ _
  unfold compareLex compareOn
  rw [Ordering.then_eq_lt, Std.compare_eq_lt, Std.compare_eq_lt, Std.LawfulEqOrd.compare_eq_iff_eq]
  rfl

/-- A tag is the cartridge above the frame, and 32 bits hold both. -/
theorem toNat_tag (location : FrameLocation) :
    location.tag.raw.toNat = location.cartridge.toNat * 65536 + location.frame.toNat := by
  have cartridge := location.cartridge.toNat_lt
  have frame := location.frame.toNat_lt
  rw [tag, BitVec.toNat_ofNat]
  exact Nat.mod_eq_of_lt (by omega)

theorem location_tag (location : FrameLocation) : location.tag.location = location := by
  have frame := location.frame.toNat_lt
  have above : (location.cartridge.toNat * 65536 + location.frame.toNat) / 65536 =
      location.cartridge.toNat := by omega
  have below : UInt16.ofNat (location.cartridge.toNat * 65536 + location.frame.toNat) =
      location.frame := by
    refine UInt16.toNat_inj.mp ?_
    rw [UInt16.toNat_ofNat']
    omega
  rw [CacheTag.location, toNat_tag, above, below, UInt16.ofNat_toNat]

theorem tag_injective : Function.Injective tag :=
  Function.LeftInverse.injective location_tag

end FrameLocation

namespace Geometry

variable {geometry : Geometry} {a b : FrameLocation} {i j : Nat}

theorem isSome_index? {location : FrameLocation} :
    (geometry.index? location).isSome = geometry.contains location := by
  unfold index?
  split
  · rename_i inside
    rw [inside]
    rfl
  · rename_i outside
    rw [Bool.not_eq_true] at outside
    rw [outside]
    rfl

namespace Valid

theorem index?_of_precedes (valid : geometry.Valid) (first : geometry.index? a = some i)
    (second : geometry.index? b = some j) (less : i < j) : a.Precedes b := by
  rw [← locationAt_of_index? first, ← locationAt_of_index? second]
  exact valid.locationAt_precedes less (index?_lt_totalFrames second)

/-- Places are in the same order as their locations. -/
theorem compare_index? (valid : geometry.Valid) (first : geometry.index? a = some i)
    (second : geometry.index? b = some j) : compare a b = compare i j := by
  rcases Nat.lt_trichotomy i j with less | same | greater
  · have before := valid.index?_of_precedes first second less
    rw [FrameLocation.compare_eq_lt_iff.mpr before, Nat.compare_eq_lt.mpr less]
  · subst same
    rw [index?_injective first second, Std.ReflOrd.compare_self, Std.ReflOrd.compare_self]
  · have after := valid.index?_of_precedes second first greater
    rw [Nat.compare_eq_gt.mpr greater]
    exact Std.OrientedCmp.gt_iff_lt.mpr (FrameLocation.compare_eq_lt_iff.mpr after)

end Valid

end Geometry

/-- A configuration that passes its check has no more frames than the limit. -/
theorem Config.totalFrames_le {config : Config} (passed : config.validate = .ok ()) :
    config.geometry.totalFrames ≤ maxTotalFrames := by
  unfold validate at passed
  split at passed
  · cases passed
  · split at passed
    · cases passed
    · rename_i few
      exact Nat.le_of_not_lt few

/-- Locations and places of a bank correspond to each other, and nothing is cut off on the way. -/
structure Geometry.Exact (geometry : Geometry) : Prop where
  placed : ∀ location, (geometry.index? location).isSome = geometry.contains location
  located : ∀ location index, geometry.index? location = some index →
    index < geometry.totalFrames ∧ geometry.locationAt index = location
  indexed : ∀ index < geometry.totalFrames,
    geometry.index? (geometry.locationAt index) = some index
  ordered : ∀ a b i j, geometry.index? a = some i → geometry.index? b = some j →
    compare a b = compare i j
  ascending : ∀ i < geometry.totalFrames, ∀ j < geometry.totalFrames,
    compare (geometry.locationAt i) (geometry.locationAt j) = compare i j
  /-- Both numbers of a place fit sixteen bits. -/
  parts : ∀ index < geometry.totalFrames,
    (geometry.locationAt index).cartridge.toNat = index / geometry.framesPerCartridge ∧
      (geometry.locationAt index).frame.toNat = index % geometry.framesPerCartridge
  cartridges : ∀ cartridge < geometry.cartridges, (UInt16.ofNat cartridge).toNat = cartridge
  /-- A request for a location names just this location. -/
  addressed : ∀ command location, geometry.contains location = true →
    (Opcode.request command location.cartridge location.frame).cartridge = location.cartridge ∧
      (Opcode.request command location.cartridge location.frame).frame = location.frame
  tagged : ∀ location : FrameLocation, location.tag.location = location
  distinct : ∀ a b : FrameLocation, a ≠ b → a.tag ≠ b.tag
  totalFrames : Checked.mul geometry.cartridges geometry.framesPerCartridge =
    .ok geometry.totalFrames
  totalBytes : Checked.mul geometry.totalFrames geometry.frameSize = .ok geometry.totalBytes

theorem Geometry.Exact.of_valid {geometry : Geometry} (valid : geometry.Valid) : geometry.Exact where
  placed _ := isSome_index?
  located _ _ found := ⟨index?_lt_totalFrames found, locationAt_of_index? found⟩
  indexed _ within := valid.index?_locationAt within
  ordered _ _ _ _ first second := valid.compare_index? first second
  ascending _ first _ second :=
    valid.compare_index? (valid.index?_locationAt first) (valid.index?_locationAt second)
  parts _ within := valid.locationAt_parts within
  cartridges _ within :=
    UInt16.toNat_ofNat_of_lt' (Nat.lt_of_lt_of_le within valid.cartridges_le)
  addressed _ _ _ := ⟨Opcode.cartridge_request .., Opcode.frame_request ..⟩
  tagged := FrameLocation.location_tag
  distinct _ _ different same := different (FrameLocation.tag_injective same)
  totalFrames := Checked.mul_ok (Nat.lt_of_le_of_lt
    (Nat.mul_le_mul valid.cartridges_le valid.frames_le) (by decide))
  totalBytes := Checked.mul_ok (Nat.lt_of_le_of_lt valid.totalBytes_le (by decide))

/-- The cartridges that requests load, by the numbers in the requests. -/
def loadedNumbers {σ : Type} (sent : List (Sent σ)) : List Nat :=
  (sent.filter fun request => request.opcode.command? = some .ldcart).map fun request =>
    request.opcode.field .cartridge

namespace Storage

variable {σ : Type} [Transport σ] {storage : Storage (Recorded σ)}

/-- The numbers of the cartridges loaded so far. -/
def visited (storage : Storage (Recorded σ)) : List Nat := loadedNumbers storage.transport.sent

/-- An operation loads cartridges of these numbers in this order, and all of them unless it fails. -/
def Visits (numbers : List Nat) (operation : Operation (Recorded σ) Unit)
    (storage : Storage (Recorded σ)) : Prop :=
  ∃ loaded, loaded <+: numbers ∧ (operation.after storage).visited = storage.visited ++ loaded ∧
    ∀ next, operation storage = .ok () next → loaded = numbers

theorem visited_execute (command : Command) (cartridge index : UInt16) (payload : Option Bytes)
    (storage : Storage (Recorded σ)) :
    ((execute command cartridge index payload).after storage).visited =
      storage.visited ++ if command = .ldcart then [cartridge.toNat] else [] := by
  unfold visited loadedNumbers
  rw [execute_after_eq, Recorded.sent_after, List.filter_append, List.map_append]
  cases command <;> simp [Opcode.field_request]

/-- A loop over cartridges loads the one whose turn it is, as it is numbered. -/
theorem visited_zeroCartridge {count : Nat} (few : count < UInt16.size)
    (active : storage.active = lastVisited count) :
    ((zeroCartridge (.ofNat count)).after storage).visited = storage.visited ++ [count] ∧
      ∀ next, zeroCartridge (.ofNat count) storage = .ok () next →
        next.active = lastVisited (count + 1) := by
  have number : (UInt16.ofNat count).toNat = count := UInt16.toNat_ofNat_of_lt' few
  have away : storage.active ≠ some (UInt16.ofNat count) := by
    rw [active]
    exact lastVisited_ne few
  have loading := visited_execute .ldcart (.ofNat count) 0 none { storage with active := none }
  rw [if_pos rfl, number] at loading
  unfold Operation.after at loading ⊢
  rw [zeroCartridge_eq, loadCartridge_eq, if_neg away]
  cases load : execute .ldcart (.ofNat count) 0 none { storage with active := none } with
  | error fault next =>
    rw [load] at loading
    exact ⟨loading, nofun⟩
  | ok answer next =>
    rw [load] at loading
    have zeroing := visited_execute .bzero 0 0 none { next with active := some (.ofNat count) }
    have state := execute_after_eq .bzero 0 0 none { next with active := some (.ofNat count) }
    rw [if_neg nofun, List.append_nil] at zeroing
    unfold Operation.after at zeroing state
    dsimp only
    cases zero : execute .bzero 0 0 none { next with active := some (.ofNat count) } with
    | error fault last =>
      rw [zero] at zeroing
      exact ⟨zeroing.trans loading, nofun⟩
    | ok answer last =>
      rw [zero] at zeroing state
      refine ⟨zeroing.trans loading, ?_⟩
      rintro _ ⟨⟩
      exact congrArg Storage.active state

theorem visits_cartridges (count first : Nat) (few : first + count ≤ UInt16.size)
    (active : storage.active = lastVisited first) :
    Visits (List.range' first count)
      ((List.range' first count).forM fun cartridge => zeroCartridge (.ofNat cartridge)) storage := by
  induction count generalizing first storage with
  | zero => exact ⟨[], List.nil_prefix, (List.append_nil _).symm, fun _ _ => rfl⟩
  | succ count ih =>
    obtain ⟨visiting, activates⟩ := visited_zeroCartridge (by omega) active
    rw [List.range'_succ]
    unfold Visits Operation.after at ih ⊢
    unfold Operation.after at visiting
    rw [Operation.forM_cons_apply]
    cases run : zeroCartridge (.ofNat first) storage with
    | error fault next =>
      rw [run] at visiting
      exact ⟨[first], ⟨_, rfl⟩, visiting, nofun⟩
    | ok done next =>
      rw [run] at visiting
      obtain ⟨loaded, front, later, whole⟩ := ih (first + 1) (by omega) (activates next run)
      refine ⟨first :: loaded, (List.prefix_cons_inj first).mpr front, later.trans ?_,
        fun last finished => congrArg _ (whole last finished)⟩
      rw [visiting, List.append_assoc]
      rfl

theorem visits_initializeDevice (idle : storage.active = none)
    (few : storage.config.geometry.cartridges ≤ UInt16.size) :
    Visits (List.range storage.config.geometry.cartridges) initializeDevice storage := by
  have starting := visited_execute .initms 0 0 none storage
  have state := execute_after_eq .initms 0 0 none storage
  rw [if_neg nofun, List.append_nil] at starting
  unfold Visits
  unfold Operation.after at starting state ⊢
  rw [initializeDevice_eq]
  cases sent : execute .initms 0 0 none storage with
  | error fault next =>
    rw [sent] at starting
    exact ⟨[], List.nil_prefix, starting.trans (List.append_nil _).symm, nofun⟩
  | ok answer next =>
    rw [sent] at starting state
    change next = _ at state
    have config : next.config = storage.config := by rw [state]
    have still : next.active = lastVisited 0 := by
      rw [state]
      exact idle
    dsimp only
    rw [config, ← starting, List.range_eq_range']
    exact visits_cartridges _ 0 (by omega) still

theorem visits_powerOn (few : storage.config.geometry.cartridges ≤ UInt16.size) :
    Visits (List.range storage.config.geometry.cartridges) powerOn storage := by
  have ran := powerOn_run storage
  unfold Visits Operation.after
  cases run : powerOn storage with
  | error fault next =>
    rw [run] at ran
    cases ran with
    | already => exact ⟨[], List.nil_prefix, (List.append_nil _).symm, nofun⟩
    | unsized => exact ⟨[], List.nil_prefix, (List.append_nil _).symm, nofun⟩
    | @failed cache _ next _ _ failed =>
      obtain ⟨loaded, front, visited, _⟩ := @visits_initializeDevice _ _
        { storage.cleared with cache := some cache } rfl few
      rw [Operation.after_of_error failed] at visited
      exact ⟨loaded, front, visited, nofun⟩
  | ok done next =>
    rw [run] at ran
    cases ran with
    | @started cache next _ _ finished =>
      obtain ⟨loaded, front, visited, whole⟩ := @visits_initializeDevice _ _
        { storage.cleared with cache := some cache } rfl few
      rw [Operation.after_of_ok finished] at visited
      exact ⟨loaded, front, visited, fun _ _ => whole next finished⟩

end Storage

/-- In a bank that passes the check, the locations and the places in scan order correspond to each
other exactly. The limits keep every number on the way within its width, and power-on loads each
cartridge under its own number, whatever the transport answers. -/
theorem Config.indexes_exactly {config : Config} (passed : config.validate = .ok ()) :
    config.geometry.Exact ∧ config.geometry.totalFrames ≤ maxTotalFrames ∧
      ∀ {σ : Type} [Transport σ] (storage : Storage (Recorded σ)), storage.config = config →
        Storage.Visits (List.range config.geometry.cartridges) Storage.powerOn storage := by
  obtain ⟨valid, _⟩ := validate_ok passed
  refine ⟨.of_valid valid, totalFrames_le passed, ?_⟩
  rintro σ _ storage rfl
  exact Storage.visits_powerOn valid.cartridges_le

/-- The most cartridges there can be with as many frames as a cartridge can have. -/
def Config.largest : Config where
  geometry := ⟨256, 65536, 65536⟩

/-- Power-on over a device that keeps a record. -/
def Storage.unstarted : Storage (Recorded Device) where
  config := { geometry := ⟨2, 2, 4⟩, cacheFrames := 2 }
  transport := { transport := { geometry := ⟨2, 2, 4⟩ } }
  table := Ownership.ofGeometry ⟨2, 2, 4⟩

/-- The last frame of the last cartridge has the last place. -/
theorem Config.indexes_exactly_largest :
    largest.geometry.index? ⟨255, 65535⟩ = some 16777215 ∧
      largest.geometry.locationAt 16777215 = ⟨255, 65535⟩ ∧
      Checked.mul largest.geometry.totalFrames 65536 = .ok 1099511627776 ∧
      (Storage.powerOn.after Storage.unstarted).visited = [0, 1] := by
  have passed : largest.validate = .ok () := by decide
  obtain ⟨paired, _⟩ := indexes_exactly passed
  have placed : largest.geometry.index? ⟨255, 65535⟩ = some 16777215 := by decide
  obtain ⟨_, last⟩ := paired.located ⟨255, 65535⟩ 16777215 placed
  obtain ⟨_, _, visits⟩ := indexes_exactly (by decide : Storage.unstarted.config.validate = .ok ())
  obtain ⟨loaded, _, visited, whole⟩ := visits Storage.unstarted rfl
  obtain ⟨next, started⟩ : ∃ next, Storage.powerOn Storage.unstarted = .ok () next :=
    Operation.ok_of_run (by cbv)
  rw [whole next started] at visited
  exact ⟨placed, last, paired.totalBytes, visited⟩

end CartridgeBank
