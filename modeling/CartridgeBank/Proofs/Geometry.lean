import CartridgeBank.Config
import Mathlib

namespace CartridgeBank

/-- Scan order: cartridge by cartridge, and frame by frame on each of them. -/
def FrameLocation.Precedes (a b : FrameLocation) : Prop :=
  a.cartridge < b.cartridge ∨ a.cartridge = b.cartridge ∧ a.frame < b.frame

theorem FrameLocation.Precedes.ne {a b : FrameLocation} (before : a.Precedes b) : a ≠ b := by
  rintro rfl
  rcases before with less | ⟨_, less⟩
  · exact UInt16.lt_irrefl _ less
  · exact UInt16.lt_irrefl _ less

instance : Std.Asymm FrameLocation.Precedes where
  asymm a b before after := by
    rcases before with less | ⟨same, less⟩ <;> rcases after with more | ⟨_, more⟩
    · exact UInt16.lt_asymm less more
    · simp_all
    · simp_all
    · exact UInt16.lt_asymm less more

namespace Geometry

/-- A shape whose counts and sizes are in range. Each part of a location then fits its sixteen
bits, and no frame is empty. -/
structure Valid (geometry : Geometry) : Prop where
  cartridges_pos : 0 < geometry.cartridges
  cartridges_le : geometry.cartridges ≤ 65536
  frames_pos : 0 < geometry.framesPerCartridge
  frames_le : geometry.framesPerCartridge ≤ 65536
  frameSize_pos : 0 < geometry.frameSize
  frameSize_le : geometry.frameSize ≤ 65536

theorem contains_iff {geometry : Geometry} {location : FrameLocation} :
    geometry.contains location = true ↔
      location.cartridge.toNat < geometry.cartridges ∧
        location.frame.toNat < geometry.framesPerCartridge := by
  simp [contains]

theorem index?_eq_some_iff {geometry : Geometry} {location : FrameLocation} {index : Nat} :
    geometry.index? location = some index ↔
      geometry.contains location = true ∧
        location.cartridge.toNat * geometry.framesPerCartridge + location.frame.toNat = index := by
  unfold index?
  split <;> simp_all

theorem index?_of_contains {geometry : Geometry} {location : FrameLocation}
    (inside : geometry.contains location = true) :
    geometry.index? location =
      some (location.cartridge.toNat * geometry.framesPerCartridge + location.frame.toNat) :=
  index?_eq_some_iff.mpr ⟨inside, rfl⟩

theorem index?_of_not_contains {geometry : Geometry} {location : FrameLocation}
    (outside : geometry.contains location = false) : geometry.index? location = none := by
  rw [index?, outside]
  rfl

theorem contains_of_index? {geometry : Geometry} {location : FrameLocation} {index : Nat}
    (found : geometry.index? location = some index) : geometry.contains location = true :=
  (index?_eq_some_iff.mp found).1

/-- The place of a location lies among all places. -/
theorem index?_lt_totalFrames {geometry : Geometry} {location : FrameLocation} {index : Nat}
    (found : geometry.index? location = some index) : index < geometry.totalFrames := by
  obtain ⟨inside, value⟩ := index?_eq_some_iff.mp found
  obtain ⟨cartridge, frame⟩ := contains_iff.mp inside
  have row : (location.cartridge.toNat + 1) * geometry.framesPerCartridge ≤
      geometry.cartridges * geometry.framesPerCartridge := Nat.mul_le_mul_right _ cartridge
  rw [Nat.succ_mul] at row
  unfold totalFrames
  omega

theorem locationAt_of_index? {geometry : Geometry} {location : FrameLocation} {index : Nat}
    (found : geometry.index? location = some index) : geometry.locationAt index = location := by
  obtain ⟨inside, value⟩ := index?_eq_some_iff.mp found
  obtain ⟨_, frame⟩ := contains_iff.mp inside
  have quotient : index / geometry.framesPerCartridge = location.cartridge.toNat := by
    rw [← value, Nat.add_comm, Nat.add_mul_div_right _ _ (by omega), Nat.div_eq_of_lt frame,
      Nat.zero_add]
  have remainder : index % geometry.framesPerCartridge = location.frame.toNat := by
    rw [← value, Nat.add_comm, Nat.add_mul_mod_self_right, Nat.mod_eq_of_lt frame]
  simp only [locationAt, quotient, remainder, UInt16.ofNat_toNat]

/-- Two locations of the bank at one place are one location. -/
theorem index?_injective {geometry : Geometry} {a b : FrameLocation} {index : Nat}
    (first : geometry.index? a = some index) (second : geometry.index? b = some index) : a = b :=
  (locationAt_of_index? first).symm.trans (locationAt_of_index? second)

namespace Valid

variable {geometry : Geometry}

theorem cartridge_lt_of_lt {index : Nat} (within : index < geometry.totalFrames) :
    index / geometry.framesPerCartridge < geometry.cartridges := by
  rw [totalFrames, Nat.mul_comm] at within
  exact Nat.div_lt_of_lt_mul within

theorem locationAt_parts (valid : geometry.Valid) {index : Nat}
    (within : index < geometry.totalFrames) :
    (geometry.locationAt index).cartridge.toNat = index / geometry.framesPerCartridge ∧
      (geometry.locationAt index).frame.toNat = index % geometry.framesPerCartridge := by
  have quotient := cartridge_lt_of_lt within
  have remainder := Nat.mod_lt index valid.frames_pos
  have rows := valid.cartridges_le
  have columns := valid.frames_le
  constructor
  · exact UInt16.toNat_ofNat_of_lt' (by simp only [UInt16.size]; omega)
  · exact UInt16.toNat_ofNat_of_lt' (by simp only [UInt16.size]; omega)

theorem index?_locationAt (valid : geometry.Valid) {index : Nat}
    (within : index < geometry.totalFrames) :
    geometry.index? (geometry.locationAt index) = some index := by
  obtain ⟨cartridge, frame⟩ := valid.locationAt_parts within
  refine index?_eq_some_iff.mpr ⟨contains_iff.mpr ⟨?_, ?_⟩, ?_⟩
  · rw [cartridge]
    exact cartridge_lt_of_lt within
  · rw [frame]
    exact Nat.mod_lt _ valid.frames_pos
  · rw [cartridge, frame, Nat.mul_comm]
    exact Nat.div_add_mod _ _

theorem totalBytes_le (valid : geometry.Valid) : geometry.totalBytes ≤ 2 ^ 48 := by
  have frames : geometry.totalFrames ≤ 65536 * 65536 :=
    Nat.mul_le_mul valid.cartridges_le valid.frames_le
  exact Nat.le_trans (Nat.mul_le_mul frames valid.frameSize_le) (by decide)

theorem contains_locationAt (valid : geometry.Valid) {index : Nat}
    (within : index < geometry.totalFrames) :
    geometry.contains (geometry.locationAt index) = true :=
  contains_of_index? (valid.index?_locationAt within)

/-- Increasing places have increasing locations. -/
theorem locationAt_precedes (valid : geometry.Valid) {i j : Nat} (less : i < j)
    (within : j < geometry.totalFrames) :
    (geometry.locationAt i).Precedes (geometry.locationAt j) := by
  obtain ⟨cartridgeI, frameI⟩ := valid.locationAt_parts (Nat.lt_trans less within)
  obtain ⟨cartridgeJ, frameJ⟩ := valid.locationAt_parts within
  have rows : i / geometry.framesPerCartridge ≤ j / geometry.framesPerCartridge :=
    Nat.div_le_div_right (Nat.le_of_lt less)
  rcases Nat.lt_or_eq_of_le rows with lower | same
  · left
    rw [UInt16.lt_iff_toNat_lt, cartridgeI, cartridgeJ]
    exact lower
  · right
    have atI := Nat.div_add_mod i geometry.framesPerCartridge
    have atJ := Nat.div_add_mod j geometry.framesPerCartridge
    rw [same] at atI
    refine ⟨UInt16.toNat_inj.mp (by rw [cartridgeI, cartridgeJ, same]), ?_⟩
    rw [UInt16.lt_iff_toNat_lt, frameI, frameJ]
    omega

end Valid

/-- All locations of a bank, in scan order. -/
def locations (geometry : Geometry) : List FrameLocation :=
  (List.range geometry.totalFrames).map geometry.locationAt

@[simp] theorem length_locations {geometry : Geometry} :
    geometry.locations.length = geometry.totalFrames := by
  simp [locations]

namespace Valid

variable {geometry : Geometry}

theorem mem_locations (valid : geometry.Valid) {location : FrameLocation} :
    location ∈ geometry.locations ↔ geometry.contains location = true := by
  simp only [locations, List.mem_map, List.mem_range]
  constructor
  · rintro ⟨index, within, rfl⟩
    exact valid.contains_locationAt within
  · intro inside
    have found := index?_of_contains inside
    exact ⟨_, index?_lt_totalFrames found, locationAt_of_index? found⟩

theorem locations_pairwise (valid : geometry.Valid) :
    geometry.locations.Pairwise FrameLocation.Precedes := by
  refine List.pairwise_map.mpr (List.pairwise_lt_range.imp_of_mem ?_)
  intro i j _ within less
  exact valid.locationAt_precedes less (List.mem_range.mp within)

theorem locations_nodup (valid : geometry.Valid) : geometry.locations.Nodup :=
  valid.locations_pairwise.imp FrameLocation.Precedes.ne

end Valid

end Geometry

namespace Config

/-- A configuration that passes its check has a valid geometry and a possible cache size. -/
theorem validate_ok {config : Config} (passed : config.validate = .ok ()) :
    config.geometry.Valid ∧ 0 < config.cacheFrames ∧ config.cacheFrames ≤ maxCacheFrames := by
  unfold validate at passed
  split at passed
  · cases passed
  · rename_i ranges
    split at passed
    · cases passed
    · split at passed
      · cases passed
      · split at passed
        · cases passed
        · rename_i size
          simp only [Geometry.outOfRange, Geometry.inRange, ne_eq, List.map_eq_nil_iff,
            List.filter_eq_nil_iff, List.mem_cons, List.not_mem_nil, or_false, Bool.not_eq_true',
            decide_eq_false_iff_not, Decidable.not_not, forall_eq_or_imp, forall_eq] at ranges
          obtain ⟨frameSize, frames, cartridges⟩ := ranges
          exact ⟨⟨cartridges.1, cartridges.2, frames.1, frames.2, frameSize.1, frameSize.2⟩,
            by omega, by omega⟩

end Config

end CartridgeBank
