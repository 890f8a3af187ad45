import CartridgeBank.Ownership
import CartridgeBank.Proofs.Geometry

namespace CartridgeBank.Ownership

/-- Only places of the bank have owners, and all others are counted as free. -/
structure Within (table : Ownership) : Prop where
  bounded : ∀ index handle, table.ownerAt index = some handle → index < table.total
  counted : table.free + table.owners.size = table.total

variable {table after : Ownership} {location other : FrameLocation} {handle : Handle}

theorem owner?_of_index? {index : Nat} (found : table.geometry.index? location = some index) :
    table.owner? location = table.ownerAt index := by
  simp only [owner?, found, Option.bind_some]

theorem contains_of_owner? (owned : table.owner? location = some handle) :
    table.geometry.contains location = true := by
  obtain ⟨index, found, _⟩ := Option.bind_eq_some_iff.mp owned
  exact Geometry.contains_of_index? found

/-- Places and locations tell the same about owners. -/
theorem ownerAt_eq_owner? (valid : table.geometry.Valid) {index : Nat}
    (within : index < table.total) :
    table.ownerAt index = table.owner? (table.geometry.locationAt index) :=
  (owner?_of_index? (valid.index?_locationAt within)).symm

/-- A table is known from the owners of its locations. -/
theorem ext_owner? {second : Ownership} (valid : table.geometry.Valid)
    (shape : second.geometry = table.geometry) (first : table.Within) (other : second.Within)
    (owners : ∀ location, second.owner? location = table.owner? location) : second = table := by
  have places : second.owners = table.owners := by
    refine Std.ExtTreeMap.ext_getElem? fun index => ?_
    change second.ownerAt index = table.ownerAt index
    have size : second.total = table.total := by simp only [total, shape]
    by_cases within : index < table.total
    · rw [ownerAt_eq_owner? valid within,
        ownerAt_eq_owner? (by rwa [shape]) (by rwa [size]), shape, owners]
    · have unowned : table.ownerAt index = none :=
        Option.eq_none_iff_forall_ne_some.mpr fun handle owned => within (first.bounded _ _ owned)
      have unownedToo : second.ownerAt index = none :=
        Option.eq_none_iff_forall_ne_some.mpr fun handle owned =>
          within (size ▸ other.bounded _ _ owned)
      rw [unowned, unownedToo]
  have counters : second.free = table.free := by
    have left := other.counted
    have right := first.counted
    simp only [total, shape, places] at left right
    omega
  cases table
  cases second
  simp_all

theorem claim_of_free (handle : Handle) (inside : table.geometry.contains location = true)
    (unowned : table.owner? location = none) :
    ∃ after, table.claim location handle = .ok after := by
  have found := Geometry.index?_of_contains inside
  rw [owner?_of_index? found] at unowned
  simp only [claim, found, unowned, Option.isSome_none, Bool.false_eq_true, if_false]
  exact ⟨_, rfl⟩

theorem claim_outside (handle : Handle) (outside : table.geometry.contains location = false) :
    table.claim location handle = .error (.outsideGeometry location) := by
  simp only [claim, Geometry.index?_of_not_contains outside]

theorem claim_owned (handle : Handle) (owned : (table.owner? location).isSome = true) :
    table.claim location handle = .error (.alreadyOwned location) := by
  obtain ⟨owner, isOwner⟩ := Option.isSome_iff_exists.mp owned
  have found := Geometry.index?_of_contains (contains_of_owner? isOwner)
  rw [owner?_of_index? found] at owned
  simp only [claim, found, owned, if_true]

/-- What it takes to claim a frame, and what that changes. -/
theorem claim_ok (claimed : table.claim location handle = .ok after) :
    after.geometry = table.geometry ∧ table.geometry.contains location = true ∧
      table.owner? location = none ∧
      ∀ other, after.owner? other = if other = location then some handle else table.owner? other := by
  unfold claim at claimed
  split at claimed
  · cases claimed
  · rename_i index found
    split at claimed
    · cases claimed
    · rename_i unowned
      obtain rfl := Except.ok.inj claimed
      refine ⟨rfl, Geometry.contains_of_index? found, ?_, fun other => ?_⟩
      · rw [owner?_of_index? found]
        simpa using unowned
      · cases place : table.geometry.index? other with
        | none =>
          have different : other ≠ location := by
            rintro rfl
            rw [found] at place
            cases place
          simp only [owner?, place, Option.bind_none, if_neg different]
        | some second =>
          simp only [owner?, place, Option.bind_some, ownerAt, Std.ExtTreeMap.getElem?_insert,
            Nat.compare_eq_eq]
          by_cases same : other = location
          · subst same
            rw [if_pos (Option.some.inj (found.symm.trans place)), if_pos rfl]
          · rw [if_neg same, if_neg]
            rintro rfl
            exact same (Geometry.index?_injective place found)

theorem contains_owners {index : Nat} :
    table.owners.contains index = (table.ownerAt index).isSome :=
  Std.ExtTreeMap.contains_eq_isSome_getElem?

/-- As long as a place of the bank has no owner, the count of free frames is not zero. -/
theorem Within.free_pos (within : table.Within) {index : Nat} (inside : index < table.total)
    (unowned : table.ownerAt index = none) : 0 < table.free := by
  have fresh : index ∉ table.owners.keys := by
    rw [Std.ExtTreeMap.mem_keys, ← Std.ExtTreeMap.contains_iff_mem, contains_owners, unowned]
    exact Bool.false_ne_true
  have places : (index :: table.owners.keys).length ≤ (List.range table.total).length := by
    refine List.Nodup.length_le_of_subset (List.nodup_cons.mpr ⟨fresh, Std.ExtTreeMap.nodup_keys⟩) ?_
    intro place member
    rw [List.mem_range]
    rcases List.mem_cons.mp member with rfl | owned
    · exact inside
    · rw [Std.ExtTreeMap.mem_keys, ← Std.ExtTreeMap.contains_iff_mem, contains_owners] at owned
      obtain ⟨owner, isOwner⟩ := Option.isSome_iff_exists.mp owned
      exact within.bounded place owner isOwner
  have counted := within.counted
  rw [List.length_cons, Std.ExtTreeMap.length_keys, List.length_range] at places
  omega

theorem Within.claim (within : table.Within) (claimed : table.claim location handle = .ok after) :
    after.Within := by
  unfold Ownership.claim at claimed
  split at claimed
  · cases claimed
  · rename_i index found
    have inside := Geometry.index?_lt_totalFrames found
    split at claimed
    · cases claimed
    · rename_i unowned
      obtain rfl := Except.ok.inj claimed
      refine ⟨fun place owner owned => ?_, ?_⟩
      · simp only [ownerAt, Std.ExtTreeMap.getElem?_insert, Nat.compare_eq_eq] at owned
        split at owned
        · rename_i same
          subst same
          exact inside
        · exact within.bounded place owner owned
      · have some := within.free_pos inside (by simpa using unowned)
        have counted := within.counted
        have grown : (table.owners.insert index handle).size = table.owners.size + 1 := by
          rw [Std.ExtTreeMap.size_insert, contains_owners, if_neg unowned]
        change table.free - 1 + (table.owners.insert index handle).size = table.total
        omega

theorem release_of_contains (inside : table.geometry.contains location = true) :
    ∃ after, table.release location = .ok (table.owner? location, after) := by
  have found := Geometry.index?_of_contains inside
  simp only [release, found, owner?_of_index? found]
  exact ⟨_, rfl⟩

theorem release_outside (outside : table.geometry.contains location = false) :
    table.release location = .error (.outsideGeometry location) := by
  simp only [release, Geometry.index?_of_not_contains outside]

theorem release_ok {previous : Option Handle}
    (released : table.release location = .ok (previous, after)) :
    after.geometry = table.geometry ∧ previous = table.owner? location ∧
      ∀ other, after.owner? other = if other = location then none else table.owner? other := by
  unfold release at released
  split at released
  · cases released
  · rename_i index found
    obtain ⟨rfl, rfl⟩ := Prod.mk.inj (Except.ok.inj released)
    refine ⟨rfl, (owner?_of_index? found).symm, fun other => ?_⟩
    cases place : table.geometry.index? other with
    | none => simp only [owner?, place, Option.bind_none, ite_self]
    | some second =>
      simp only [owner?, place, Option.bind_some, ownerAt, Std.ExtTreeMap.getElem?_erase,
        Nat.compare_eq_eq]
      by_cases same : other = location
      · subst same
        rw [if_pos (Option.some.inj (found.symm.trans place)), if_pos rfl]
      · rw [if_neg same, if_neg]
        rintro rfl
        exact same (Geometry.index?_injective place found)

theorem Within.release {previous : Option Handle} (within : table.Within)
    (released : table.release location = .ok (previous, after)) : after.Within := by
  unfold Ownership.release at released
  split at released
  · cases released
  · rename_i index found
    obtain ⟨rfl, rfl⟩ := Prod.mk.inj (Except.ok.inj released)
    refine ⟨fun place owner owned => ?_, ?_⟩
    · simp only [ownerAt, Std.ExtTreeMap.getElem?_erase, Nat.compare_eq_eq] at owned
      split at owned
      · cases owned
      · exact within.bounded place owner owned
    · have counted := within.counted
      change (if (table.ownerAt index).isSome = true then table.free + 1 else table.free) +
        (table.owners.erase index).size = table.total
      rw [Std.ExtTreeMap.size_erase, contains_owners]
      by_cases owned : (table.ownerAt index).isSome = true
      · have member := Std.ExtTreeMap.contains_iff_mem.mp (contains_owners.trans owned)
        have some : table.owners.size ≠ 0 := fun empty =>
          Std.ExtTreeMap.ne_empty_of_mem member (Std.ExtTreeMap.eq_empty_iff_size_eq_zero.mpr empty)
        rw [if_pos owned, if_pos owned]
        omega
      · rw [if_neg owned, if_neg owned]
        exact counted

/-- Claims frames one after the other, passing over those that cannot be claimed. -/
def claimEach (table : Ownership) (handle : Handle) (locations : List FrameLocation) : Ownership :=
  locations.foldl (fun table location => (table.claim location handle).toOption.getD table) table

/-- Releases frames one after the other, passing over those outside the bank. -/
def releaseEach (table : Ownership) (locations : List FrameLocation) : Ownership :=
  locations.foldl
    (fun table location => ((table.release location).toOption.map Prod.snd).getD table) table

@[simp] theorem claimEach_nil : table.claimEach handle [] = table := rfl

@[simp] theorem claimEach_cons {rest : List FrameLocation} :
    table.claimEach handle (location :: rest) =
      ((table.claim location handle).toOption.getD table).claimEach handle rest := rfl

@[simp] theorem releaseEach_nil : table.releaseEach [] = table := rfl

@[simp] theorem releaseEach_cons {rest : List FrameLocation} :
    table.releaseEach (location :: rest) =
      (((table.release location).toOption.map Prod.snd).getD table).releaseEach rest := rfl

/-- Releasing frames leaves exactly those without an owner. -/
theorem releaseEach_spec (locations : List FrameLocation) :
    (table.releaseEach locations).geometry = table.geometry ∧
      (table.Within → (table.releaseEach locations).Within) ∧
      ∀ other, (table.releaseEach locations).owner? other =
        if other ∈ locations then none else table.owner? other := by
  induction locations generalizing table with
  | nil => simp
  | cons location rest ih =>
    rw [releaseEach_cons]
    cases released : table.release location with
    | error fault =>
      obtain ⟨shape, within, owners⟩ := @ih table
      refine ⟨shape, within, fun other => ?_⟩
      have outside : table.owner? location = none := by
        unfold release at released
        split at released
        · rename_i missing
          simp only [owner?, missing, Option.bind_none]
        · cases released
      by_cases same : other = location
      · subst same
        simp only [Except.toOption, Option.map_none, Option.getD_none, owners, outside, ite_self]
      · simp [Except.toOption, owners, same]
    | ok pair =>
      obtain ⟨previous, next⟩ := pair
      obtain ⟨shape, _, owners⟩ := release_ok released
      obtain ⟨shapeRest, withinRest, ownersRest⟩ := @ih next
      refine ⟨shapeRest.trans shape, fun within => withinRest (within.release released), ?_⟩
      intro other
      simp only [Except.toOption, Option.map_some, Option.getD_some, ownersRest, owners,
        List.mem_cons]
      by_cases same : other = location <;> simp [same]

/-- Claiming frames gives those of the bank that are free to the new owner. -/
theorem claimEach_spec (locations : List FrameLocation) :
    (table.claimEach handle locations).geometry = table.geometry ∧
      (table.Within → (table.claimEach handle locations).Within) ∧
      ∀ other, (table.claimEach handle locations).owner? other =
        if other ∈ locations ∧ table.geometry.contains other = true ∧ table.owner? other = none
        then some handle else table.owner? other := by
  induction locations generalizing table with
  | nil => simp
  | cons location rest ih =>
    rw [claimEach_cons]
    cases claimed : table.claim location handle with
    | error fault =>
      obtain ⟨shape, within, owners⟩ := @ih table
      refine ⟨shape, within, fun other => ?_⟩
      simp only [Except.toOption, Option.getD_none, owners, List.mem_cons]
      by_cases same : other = location
      · subst same
        have taken : ¬(table.geometry.contains other = true ∧ table.owner? other = none) := by
          rintro ⟨inside, unowned⟩
          obtain ⟨next, success⟩ := claim_of_free handle inside unowned
          rw [success] at claimed
          cases claimed
        rw [if_neg fun all => taken all.2, if_neg fun all => taken all.2]
      · simp only [same, false_or]
    | ok next =>
      obtain ⟨shape, inside, unowned, owners⟩ := claim_ok claimed
      obtain ⟨shapeRest, withinRest, ownersRest⟩ := @ih next
      refine ⟨shapeRest.trans shape, fun within => withinRest (within.claim claimed), ?_⟩
      intro other
      simp only [Except.toOption, Option.getD_some, ownersRest, owners, shape, List.mem_cons]
      by_cases same : other = location
      · subst same
        simp [inside, unowned]
      · simp [same]

/-- Of distinct frames with owners the first can be given back, and the others have theirs still. -/
theorem release_next {rest : List FrameLocation} (distinct : (location :: rest).Nodup)
    (owned : ∀ other ∈ location :: rest, (table.owner? other).isSome = true) :
    ∃ owner after, table.release location = .ok (some owner, after) ∧
      ∀ other ∈ rest, (after.owner? other).isSome = true := by
  obtain ⟨owner, isOwner⟩ := Option.isSome_iff_exists.mp (owned location List.mem_cons_self)
  obtain ⟨after, released⟩ := release_of_contains (contains_of_owner? isOwner)
  obtain ⟨_, _, owners⟩ := release_ok released
  refine ⟨owner, after, isOwner ▸ released, fun other member => ?_⟩
  have different : other ≠ location := by
    rintro rfl
    exact (List.nodup_cons.mp distinct).1 member
  rw [owners, if_neg different]
  exact owned other (List.mem_cons_of_mem _ member)

/-- Of distinct free frames the first can be claimed, and the others are still free then. -/
theorem claim_next (handle : Handle) {rest : List FrameLocation} (distinct : (location :: rest).Nodup)
    (free : ∀ other ∈ location :: rest,
      table.geometry.contains other = true ∧ table.owner? other = none) :
    ∃ after, table.claim location handle = .ok after ∧
      ∀ other ∈ rest, after.geometry.contains other = true ∧ after.owner? other = none := by
  obtain ⟨inside, unowned⟩ := free location List.mem_cons_self
  obtain ⟨after, claimed⟩ := claim_of_free handle inside unowned
  obtain ⟨shape, _, _, owners⟩ := claim_ok claimed
  refine ⟨after, claimed, fun other member => ?_⟩
  obtain ⟨insideToo, unownedToo⟩ := free other (List.mem_cons_of_mem _ member)
  have different : other ≠ location := by
    rintro rfl
    exact (List.nodup_cons.mp distinct).1 member
  exact ⟨shape ▸ insideToo, (owners other).trans ((if_neg different).trans unownedToo)⟩

/-- Frames that were given up and partly taken again, with others that were free, come back to their
owner when all of that is undone. -/
theorem restored (valid : table.geometry.Valid) (within : table.Within)
    {old claimed : List FrameLocation} (mine : ∀ location ∈ old, table.owner? location = some handle)
    (free : ∀ location ∈ claimed, (table.releaseEach old).owner? location = none) :
    (((table.releaseEach old).claimEach handle claimed).releaseEach claimed).claimEach handle old =
      table := by
  obtain ⟨shape₁, within₁, owners₁⟩ := @releaseEach_spec table old
  obtain ⟨shape₂, within₂, owners₂⟩ := @claimEach_spec (table.releaseEach old) handle claimed
  obtain ⟨shape₃, within₃, owners₃⟩ :=
    @releaseEach_spec ((table.releaseEach old).claimEach handle claimed) claimed
  obtain ⟨shape₄, within₄, owners₄⟩ := @claimEach_spec
    (((table.releaseEach old).claimEach handle claimed).releaseEach claimed) handle old
  refine ext_owner? valid (by rw [shape₄, shape₃, shape₂, shape₁]) within
    (within₄ (within₃ (within₂ (within₁ within)))) fun location => ?_
  rw [owners₄, owners₃, owners₂, shape₃, shape₂, shape₁]
  by_cases before : location ∈ old
  · have owner := mine location before
    have inside := contains_of_owner? owner
    have released : (table.releaseEach old).owner? location = none := by
      rw [owners₁, if_pos before]
    by_cases again : location ∈ claimed <;> simp [before, again, inside, released, owner]
  · have kept : (table.releaseEach old).owner? location = table.owner? location := by
      rw [owners₁, if_neg before]
    by_cases again : location ∈ claimed
    · have unowned := free location again
      rw [kept] at unowned
      simp [before, again, unowned]
    · simp [before, again, kept]

/-- Frames that were given up for free ones. -/
theorem exchanged {old targets : List FrameLocation}
    (free : ∀ location ∈ targets, table.geometry.contains location = true ∧
      (table.releaseEach old).owner? location = none) :
    ((table.releaseEach old).claimEach handle targets).geometry = table.geometry ∧
      (table.Within → ((table.releaseEach old).claimEach handle targets).Within) ∧
      ∀ location, ((table.releaseEach old).claimEach handle targets).owner? location =
        if location ∈ targets then some handle
        else if location ∈ old then none else table.owner? location := by
  obtain ⟨shape₁, within₁, owners₁⟩ := @releaseEach_spec table old
  obtain ⟨shape₂, within₂, owners₂⟩ := @claimEach_spec (table.releaseEach old) handle targets
  refine ⟨shape₂.trans shape₁, fun within => within₂ (within₁ within), fun location => ?_⟩
  rw [owners₂, shape₁]
  by_cases new : location ∈ targets
  · obtain ⟨inside, unowned⟩ := free location new
    simp [new, inside, unowned]
  · simp [new, owners₁]

theorem releaseAll_spec :
    (table.releaseAll handle).2.geometry = table.geometry ∧
      (table.Within → (table.releaseAll handle).2.Within) ∧
      ∀ other, (table.releaseAll handle).2.owner? other =
        (table.owner? other).filter (· != handle) := by
  have places (index : Nat) : (table.releaseAll handle).2.ownerAt index =
      (table.ownerAt index).filter (· != handle) :=
    Std.ExtTreeMap.getElem?_filter'
  refine ⟨rfl, fun within => ⟨fun index owner owned => ?_, ?_⟩, fun other => ?_⟩
  · rw [places] at owned
    exact within.bounded index owner (Option.filter_eq_some_iff.mp owned).1
  · have counted := within.counted
    have fewer : (table.releaseAll handle).2.owners.size ≤ table.owners.size :=
      Std.ExtTreeMap.size_filter_le_size
    change table.free + (table.owners.size - (table.releaseAll handle).2.owners.size) +
      (table.releaseAll handle).2.owners.size = table.total
    omega
  · cases place : table.geometry.index? other with
    | none => simp [owner?, releaseAll, place]
    | some index =>
      rw [@owner?_of_index? (table.releaseAll handle).2 _ _ place, owner?_of_index? place]
      exact places index

theorem reset_eq (table : Ownership) : table.reset = ofGeometry table.geometry := rfl

theorem reset_spec :
    table.reset.geometry = table.geometry ∧ table.reset.Within ∧
      ∀ other, table.reset.owner? other = none := by
  have places (index : Nat) : table.reset.ownerAt index = none := Std.ExtTreeMap.getElem?_empty
  refine ⟨rfl, ⟨fun index owner owned => ?_, rfl⟩, fun other => ?_⟩
  · rw [places] at owned
    cases owned
  · cases place : table.geometry.index? other with
    | none => simp [owner?, reset, place]
    | some index => rw [@owner?_of_index? table.reset _ _ place, places]

theorem scanFree_eq (index wanted : Nat) :
    table.scanFree index wanted =
      ((List.range' index (table.total - index)).filter
        fun place => (table.ownerAt place).isNone).take wanted := by
  fun_induction table.scanFree index wanted with
  | case1 index => simp
  | case2 index more within unowned ih =>
    have rest : table.total - index = (table.total - (index + 1)) + 1 := by omega
    rw [rest, List.range'_succ, List.filter_cons_of_pos (by simp [unowned]), List.take_succ_cons, ih]
  | case3 index more within owner owned ih =>
    have rest : table.total - index = (table.total - (index + 1)) + 1 := by omega
    rw [rest, List.range'_succ, List.filter_cons_of_neg (by simp [owned]), ih]
  | case4 index more beyond =>
    have none : table.total - index = 0 := by omega
    simp [none]

/-- The first free frames are the first of all locations that have no owner. -/
theorem firstFree_eq (valid : table.geometry.Valid) (wanted : Nat) :
    table.firstFree wanted =
      (table.geometry.locations.filter fun location => (table.owner? location).isNone).take
        wanted := by
  have sameOwners : ∀ index ∈ List.range table.geometry.totalFrames,
      (table.ownerAt index).isNone = (table.owner? (table.geometry.locationAt index)).isNone := by
    intro index member
    rw [ownerAt_eq_owner? valid (List.mem_range.mp member)]
  simp only [firstFree, scanFree_eq, Nat.sub_zero, ← List.range_eq_range', Geometry.locations,
    List.map_take, List.filter_map, total]
  rw [List.filter_congr sameOwners]
  rfl

theorem length_firstFree_le (wanted : Nat) : (table.firstFree wanted).length ≤ wanted := by
  rw [firstFree, scanFree_eq, List.length_map, List.length_take]
  omega

theorem mem_firstFree (valid : table.geometry.Valid) {wanted : Nat}
    (member : location ∈ table.firstFree wanted) :
    table.geometry.contains location = true ∧ table.owner? location = none := by
  rw [firstFree_eq valid] at member
  obtain ⟨inside, unowned⟩ := List.mem_filter.mp (List.mem_of_mem_take member)
  exact ⟨valid.mem_locations.mp inside, by simpa using unowned⟩

theorem firstFree_pairwise (valid : table.geometry.Valid) (wanted : Nat) :
    (table.firstFree wanted).Pairwise FrameLocation.Precedes := by
  rw [firstFree_eq valid]
  exact (valid.locations_pairwise.filter _).take

theorem firstFree_nodup (valid : table.geometry.Valid) (wanted : Nat) :
    (table.firstFree wanted).Nodup :=
  (firstFree_pairwise valid wanted).imp FrameLocation.Precedes.ne

/-- The owned frames are as many as the locations with an owner. -/
theorem used_eq (valid : table.geometry.Valid) (within : table.Within) :
    table.used =
      (table.geometry.locations.filter fun location => (table.owner? location).isSome).length := by
  have places : (table.owners.keys).Perm
      ((List.range table.total).filter fun index => (table.ownerAt index).isSome) := by
    refine (List.perm_ext_iff_of_nodup Std.ExtTreeMap.nodup_keys (List.nodup_range.filter _)).mpr ?_
    intro index
    rw [Std.ExtTreeMap.mem_keys, List.mem_filter, List.mem_range,
      Std.ExtTreeMap.mem_iff_isSome_getElem?]
    constructor
    · intro owned
      obtain ⟨owner, isOwner⟩ := Option.isSome_iff_exists.mp owned
      exact ⟨within.bounded index owner isOwner, owned⟩
    · exact fun both => both.2
  have sameOwners : ∀ index ∈ List.range table.total,
      (table.ownerAt index).isSome = (table.owner? (table.geometry.locationAt index)).isSome := by
    intro index member
    rw [ownerAt_eq_owner? valid (List.mem_range.mp member)]
  have counted : table.used = table.owners.size := by
    rw [used, ← within.counted, Nat.add_sub_cancel_left]
  rw [counted, ← Std.ExtTreeMap.length_keys, places.length_eq, List.filter_congr sameOwners,
    Geometry.locations, List.filter_map, List.length_map]
  rfl

/-- Free frames and owned frames together are all frames. -/
theorem free_add_used (within : table.Within) : table.free + table.used = table.total := by
  have counted := within.counted
  rw [used]
  omega

theorem free_eq (valid : table.geometry.Valid) (within : table.Within) :
    table.free =
      (table.geometry.locations.filter fun location => (table.owner? location).isNone).length := by
  have parts := List.length_eq_countP_add_countP (fun location => (table.owner? location).isSome)
    (l := table.geometry.locations)
  simp only [List.countP_eq_length_filter, Geometry.length_locations, Bool.not_eq_true,
    Option.isSome_eq_false_iff, Bool.decide_eq_true] at parts
  have all := free_add_used within
  rw [used_eq valid within, total] at all
  omega

theorem length_firstFree (valid : table.geometry.Valid) (within : table.Within) (wanted : Nat) :
    (table.firstFree wanted).length = min wanted table.free := by
  rw [firstFree_eq valid, List.length_take, free_eq valid within]

/-- Frames that are given up are free, beside those that were free already. -/
theorem free_releaseEach (valid : table.geometry.Valid) (within : table.Within)
    {old : List FrameLocation} (distinct : old.Nodup)
    (inside : ∀ location ∈ old, table.geometry.contains location = true) :
    table.free ≤ (table.releaseEach old).free ∧ old.length ≤ (table.releaseEach old).free := by
  obtain ⟨shape, keptWithin, owners⟩ := @releaseEach_spec table old
  rw [free_eq (by rwa [shape]) (keptWithin within), free_eq valid within, shape]
  simp only [← List.countP_eq_length_filter]
  refine ⟨List.countP_mono_left fun location _ unowned => ?_, ?_⟩
  · rw [owners]
    split
    · rfl
    · exact unowned
  · have own : (table.geometry.locations.filter (· ∈ old)).Perm old := by
      refine (List.perm_ext_iff_of_nodup (valid.locations_nodup.filter _) distinct).mpr ?_
      intro location
      rw [List.mem_filter, valid.mem_locations, decide_eq_true_iff]
      exact ⟨fun both => both.2, fun member => ⟨inside location member, member⟩⟩
    rw [← own.length_eq, ← List.countP_eq_length_filter]
    refine List.countP_mono_left fun location _ member => ?_
    rw [owners, if_pos (of_decide_eq_true member)]
    rfl

end CartridgeBank.Ownership
