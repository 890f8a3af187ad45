import CartridgeBank.Proofs.Ownership

namespace CartridgeBank

/-- A change of the owners of frames. -/
inductive TableCall where
  | claim (location : FrameLocation) (handle : Handle)
  | release (location : FrameLocation)
  | releaseAll (handle : Handle)
  | reset
deriving DecidableEq, Repr

/-- What a change of the owners returns. -/
inductive TableReply where
  | done
  | owner (previous : Option Handle)
  | count (frames : Nat)
deriving DecidableEq, Repr

namespace Ownership

def respond (call : TableCall) (table : Ownership) : Except Fault TableReply × Ownership :=
  match call with
  | .claim location handle =>
    match table.claim location handle with
    | .ok next => (.ok .done, next)
    | .error fault => (.error fault, table)
  | .release location =>
    match table.release location with
    | .ok (previous, next) => (.ok (.owner previous), next)
    | .error fault => (.error fault, table)
  | .releaseAll handle => (.ok (.count (table.releaseAll handle).1), (table.releaseAll handle).2)
  | .reset => (.ok .done, table.reset)

/-- Makes calls one after the other, whether they succeed or not. -/
def respondAll : List TableCall → Ownership → List (Except Fault TableReply) × Ownership
  | [], table => ([], table)
  | call :: rest, table =>
    let (reply, next) := respond call table
    let (replies, last) := respondAll rest next
    (reply :: replies, last)

end Ownership

/-- The owners of the frames of a bank as a map from locations, which has nothing to say of locations
outside the bank. -/
structure Holdings where
  geometry : Geometry
  owner? : FrameLocation → Option Handle := fun _ => none

namespace Holdings

def unowned (holdings : Holdings) : List FrameLocation :=
  holdings.geometry.locations.filter fun location => (holdings.owner? location).isNone

def heldBy (holdings : Holdings) (handle : Handle) : List FrameLocation :=
  holdings.geometry.locations.filter fun location => holdings.owner? location == some handle

def change (holdings : Holdings) (location : FrameLocation) (owner : Option Handle) : Holdings :=
  { holdings with
    owner? := fun other => if other = location then owner else holdings.owner? other }

def respond (call : TableCall) (holdings : Holdings) : Except Fault TableReply × Holdings :=
  match call with
  | .claim location handle =>
    if holdings.geometry.contains location = false then (.error (.outsideGeometry location), holdings)
    else if (holdings.owner? location).isSome then (.error (.alreadyOwned location), holdings)
    else (.ok .done, holdings.change location (some handle))
  | .release location =>
    if holdings.geometry.contains location = false then (.error (.outsideGeometry location), holdings)
    else (.ok (.owner (holdings.owner? location)), holdings.change location none)
  | .releaseAll handle => (.ok (.count (holdings.heldBy handle).length),
      { holdings with owner? := fun other => (holdings.owner? other).filter (· != handle) })
  | .reset => (.ok .done, { geometry := holdings.geometry })

/-- Makes calls one after the other, whether they succeed or not. -/
def respondAll : List TableCall → Holdings → List (Except Fault TableReply) × Holdings
  | [], holdings => ([], holdings)
  | call :: rest, holdings =>
    let (reply, next) := respond call holdings
    let (replies, last) := respondAll rest next
    (reply :: replies, last)

theorem geometry_respond (call : TableCall) (holdings : Holdings) :
    (respond call holdings).2.geometry = holdings.geometry := by
  cases call with
  | claim location handle =>
    simp only [respond]
    split
    · rfl
    · split <;> rfl
  | release location =>
    simp only [respond]
    split <;> rfl
  | releaseAll handle => rfl
  | reset => rfl

theorem geometry_respondAll (calls : List TableCall) (holdings : Holdings) :
    (respondAll calls holdings).2.geometry = holdings.geometry := by
  induction calls generalizing holdings with
  | nil => rfl
  | cons call rest ih => exact (ih _).trans (geometry_respond call holdings)

end Holdings

namespace Ownership

variable {table : Ownership} {location : FrameLocation} {handle : Handle}

theorem freeFrames_eq (valid : table.geometry.Valid) :
    table.freeFrames =
      table.geometry.locations.filter fun location => (table.owner? location).isNone := by
  rw [freeFrames, firstFree_eq valid]
  refine List.take_of_length_le ?_
  rw [total, ← Geometry.length_locations]
  exact List.length_filter_le _ _

/-- The places of a file, in scan order. -/
theorem ownedPlaces_eq (within : table.Within) (handle : Handle) :
    (table.owners.toList.filter fun entry => entry.2 == handle).map Prod.fst =
      (List.range table.total).filter fun index => table.ownerAt index == some handle := by
  have rising : ((table.owners.toList.filter fun entry => entry.2 == handle).map Prod.fst).Pairwise
      (· < ·) :=
    List.pairwise_map.mpr ((Std.ExtTreeMap.ordered_keys_toList.imp Nat.compare_eq_lt.mp).filter _)
  refine rising.eq_of_mem_iff (List.pairwise_lt_range.filter _) fun index => ?_
  have owned : (index, handle) ∈ table.owners.toList ↔ table.ownerAt index = some handle :=
    Std.ExtTreeMap.mem_toList_iff_getElem?_eq_some
  simp only [List.mem_map, List.mem_filter, beq_iff_eq, List.mem_range]
  constructor
  · rintro ⟨⟨place, owner⟩, ⟨member, rfl⟩, rfl⟩
    exact ⟨within.bounded place owner (owned.mp member), owned.mp member⟩
  · exact fun both => ⟨(index, handle), ⟨owned.mpr both.2, rfl⟩, rfl⟩

theorem ownedBy_eq (valid : table.geometry.Valid) (within : table.Within) (handle : Handle) :
    table.ownedBy handle =
      table.geometry.locations.filter fun location => table.owner? location == some handle := by
  have sameOwners : ∀ index ∈ List.range table.total, (table.ownerAt index == some handle) =
      (table.owner? (table.geometry.locationAt index) == some handle) := by
    intro index member
    rw [ownerAt_eq_owner? valid (List.mem_range.mp member)]
  calc table.ownedBy handle
      = ((table.owners.toList.filter fun entry => entry.2 == handle).map Prod.fst).map
          table.geometry.locationAt := by rw [ownedBy, List.map_map]; rfl
    _ = ((List.range table.total).filter fun index =>
          table.owner? (table.geometry.locationAt index) == some handle).map
            table.geometry.locationAt := by rw [ownedPlaces_eq within, List.filter_congr sameOwners]
    _ = table.geometry.locations.filter fun location => table.owner? location == some handle := by
        rw [Geometry.locations, List.filter_map]; rfl

theorem mem_freeFrames (valid : table.geometry.Valid) : location ∈ table.freeFrames ↔
    table.geometry.contains location = true ∧ table.owner? location = none := by
  rw [freeFrames_eq valid, List.mem_filter, valid.mem_locations, Option.isNone_iff_eq_none]

theorem mem_ownedBy (valid : table.geometry.Valid) (within : table.Within) :
    location ∈ table.ownedBy handle ↔ table.owner? location = some handle := by
  rw [ownedBy_eq valid within, List.mem_filter, valid.mem_locations, beq_iff_eq]
  exact ⟨fun both => both.2, fun owned => ⟨contains_of_owner? owned, owned⟩⟩

theorem ownedBy_pairwise (valid : table.geometry.Valid) (within : table.Within) (handle : Handle) :
    (table.ownedBy handle).Pairwise FrameLocation.Precedes := by
  rw [ownedBy_eq valid within]
  exact valid.locations_pairwise.filter _

/-- Each frame of the bank is free or has an owner. -/
theorem contains_iff_listed (valid : table.geometry.Valid) (within : table.Within) :
    table.geometry.contains location = true ↔
      location ∈ table.freeFrames ∨ ∃ handle, location ∈ table.ownedBy handle := by
  constructor
  · intro inside
    cases owner : table.owner? location with
    | none => exact Or.inl ((mem_freeFrames valid).mpr ⟨inside, owner⟩)
    | some handle => exact Or.inr ⟨handle, (mem_ownedBy valid within).mpr owner⟩
  · rintro (free | ⟨handle, owned⟩)
    · exact ((mem_freeFrames valid).mp free).1
    · exact contains_of_owner? ((mem_ownedBy valid within).mp owned)

/-- No frame is listed twice. -/
theorem ownedBy_apart (valid : table.geometry.Valid) (within : table.Within)
    (mine : location ∈ table.ownedBy handle) : location ∉ table.freeFrames ∧
      ∀ other, location ∈ table.ownedBy other → other = handle := by
  have owned := (mem_ownedBy valid within).mp mine
  refine ⟨fun free => ?_, fun other theirs => ?_⟩
  · cases owned.symm.trans ((mem_freeFrames valid).mp free).2
  · exact Option.some.inj (((mem_ownedBy valid within).mp theirs).symm.trans owned)

/-- A file gives back as many frames as it has. -/
theorem releaseAll_fst (table : Ownership) (handle : Handle) :
    (table.releaseAll handle).1 = (table.ownedBy handle).length := by
  have parts := List.length_eq_countP_add_countP (fun entry => entry.2 != handle)
    (l := table.owners.toList)
  have given : table.owners.toList.countP (fun entry => decide ¬(entry.2 != handle) = true) =
      (table.ownedBy handle).length := by
    rw [ownedBy, List.length_map, List.countP_eq_length_filter]
    simp only [bne_iff_ne, ne_eq, Decidable.not_not, beq_eq_decide]
  rw [given, List.countP_eq_length_filter] at parts
  change table.owners.size - (table.owners.filter fun _ owner => owner != handle).size = _
  rw [← Std.ExtTreeMap.length_toList, ← Std.ExtTreeMap.length_toList, Std.ExtTreeMap.toList_filter,
    parts]
  exact Nat.add_sub_cancel_left _ _

/-- A table of owners says the same as a map from locations. -/
structure Shows (table : Ownership) (holdings : Holdings) : Prop where
  shape : table.geometry = holdings.geometry
  within : table.Within
  owners : ∀ location, table.owner? location = holdings.owner? location

namespace Shows

variable {holdings : Holdings}

theorem claim (shows : table.Shows holdings) (location : FrameLocation) (handle : Handle) :
    (respond (.claim location handle) table).1 =
        (Holdings.respond (.claim location handle) holdings).1 ∧
      (respond (.claim location handle) table).2.Shows
        (Holdings.respond (.claim location handle) holdings).2 := by
  simp only [respond, Holdings.respond, ← shows.shape, ← shows.owners]
  cases inside : table.geometry.contains location with
  | false =>
    rw [claim_outside handle inside]
    exact ⟨rfl, shows⟩
  | true =>
    rw [if_neg nofun]
    cases owned : (table.owner? location).isSome with
    | true =>
      rw [claim_owned handle owned, if_pos rfl]
      exact ⟨rfl, shows⟩
    | false =>
      obtain ⟨next, claimed⟩ := claim_of_free handle inside
        (Option.isNone_iff_eq_none.mp (Option.isSome_eq_false_iff.mp owned))
      obtain ⟨shape, _, _, owners⟩ := claim_ok claimed
      rw [claimed, if_neg nofun]
      refine ⟨rfl, shape.trans shows.shape, shows.within.claim claimed, fun other => ?_⟩
      rw [owners, shows.owners]
      rfl

theorem release (shows : table.Shows holdings) (location : FrameLocation) :
    (respond (.release location) table).1 = (Holdings.respond (.release location) holdings).1 ∧
      (respond (.release location) table).2.Shows
        (Holdings.respond (.release location) holdings).2 := by
  simp only [respond, Holdings.respond, ← shows.shape, ← shows.owners]
  cases inside : table.geometry.contains location with
  | false =>
    rw [release_outside inside]
    exact ⟨rfl, shows⟩
  | true =>
    obtain ⟨next, released⟩ := release_of_contains inside
    obtain ⟨shape, _, owners⟩ := release_ok released
    rw [released, if_neg nofun]
    refine ⟨rfl, shape.trans shows.shape, shows.within.release released, fun other => ?_⟩
    rw [owners, shows.owners]
    rfl

theorem heldBy (shows : table.Shows holdings) (valid : table.geometry.Valid) (handle : Handle) :
    table.ownedBy handle = holdings.heldBy handle := by
  rw [ownedBy_eq valid shows.within, Holdings.heldBy, ← shows.shape]
  exact List.filter_congr fun location _ => by rw [shows.owners]

theorem unowned (shows : table.Shows holdings) (valid : table.geometry.Valid) :
    table.freeFrames = holdings.unowned := by
  rw [freeFrames_eq valid, Holdings.unowned, ← shows.shape]
  exact List.filter_congr fun location _ => by rw [shows.owners]

theorem respond (shows : table.Shows holdings) (valid : table.geometry.Valid) (call : TableCall) :
    (respond call table).1 = (Holdings.respond call holdings).1 ∧
      (respond call table).2.Shows (Holdings.respond call holdings).2 := by
  cases call with
  | claim location handle => exact shows.claim location handle
  | release location => exact shows.release location
  | releaseAll handle =>
    obtain ⟨shape, within, owners⟩ := @releaseAll_spec table handle
    refine ⟨?_, shape.trans shows.shape, within shows.within, fun other => ?_⟩
    · rw [Ownership.respond, releaseAll_fst, shows.heldBy valid]
      rfl
    · exact (owners other).trans (by rw [shows.owners]; rfl)
  | reset =>
    obtain ⟨shape, within, owners⟩ := @reset_spec table
    exact ⟨rfl, shape.trans shows.shape, within, owners⟩

theorem created (geometry : Geometry) : (ofGeometry geometry).Shows { geometry } := by
  obtain ⟨_, within, owners⟩ := @reset_spec (ofGeometry geometry)
  exact ⟨rfl, within, owners⟩

theorem respondAll (shows : table.Shows holdings) (valid : table.geometry.Valid)
    (calls : List TableCall) :
    (Ownership.respondAll calls table).1 = (Holdings.respondAll calls holdings).1 ∧
      (Ownership.respondAll calls table).2.Shows (Holdings.respondAll calls holdings).2 := by
  induction calls generalizing table holdings with
  | nil => exact ⟨rfl, shows⟩
  | cons call rest ih =>
    obtain ⟨reply, kept⟩ := shows.respond valid call
    have still : (Ownership.respond call table).2.geometry.Valid := by
      rw [kept.shape, Holdings.geometry_respond, ← shows.shape]
      exact valid
    obtain ⟨replies, followed⟩ := ih kept still
    exact ⟨List.cons_eq_cons.mpr ⟨reply, replies⟩, followed⟩

end Shows

theorem respond_error {call : TableCall} {fault : Fault}
    (failed : (respond call table).1 = .error fault) : (respond call table).2 = table := by
  cases call with
  | claim location handle =>
    simp only [respond] at failed ⊢
    split
    · rename_i next claimed
      rw [claimed] at failed
      cases failed
    · rfl
  | release location =>
    simp only [respond] at failed ⊢
    split
    · rename_i previous next released
      rw [released] at failed
      cases failed
    · rfl
  | releaseAll handle => cases failed
  | reset => cases failed

/-- Whatever calls are made on the table of a bank, it answers as a map from locations would, and the
frames that are free and those of each file are the parts of the bank that the map says, in scan
order. The counters are kept apart from the owners, but come to the same. -/
theorem answers_as_map {config : Config} (passed : config.validate = .ok ())
    (calls : List TableCall) :
    let table := (respondAll calls (ofGeometry config.geometry)).2
    let holdings := (Holdings.respondAll calls { geometry := config.geometry }).2
    (respondAll calls (ofGeometry config.geometry)).1 =
        (Holdings.respondAll calls { geometry := config.geometry }).1 ∧
      (∀ location, table.owner? location = holdings.owner? location) ∧
      table.free = holdings.unowned.length ∧
      table.free + table.used = config.geometry.totalFrames ∧
      (∀ call fault, (respond call table).1 = .error fault → (respond call table).2 = table) ∧
      table.freeFrames = holdings.unowned ∧
      (∀ handle, table.ownedBy handle = holdings.heldBy handle) ∧
      (∀ location, config.geometry.contains location = true ↔
        location ∈ table.freeFrames ∨ ∃ handle, location ∈ table.ownedBy handle) ∧
      (∀ location handle, location ∈ table.ownedBy handle → location ∉ table.freeFrames ∧
        ∀ other, location ∈ table.ownedBy other → other = handle) ∧
      table.freeFrames.Pairwise FrameLocation.Precedes ∧
      ∀ handle, (table.ownedBy handle).Pairwise FrameLocation.Precedes := by
  have valid := (Config.validate_ok passed).1
  obtain ⟨replies, shows⟩ := (Shows.created config.geometry).respondAll valid calls
  intro table holdings
  have shape : table.geometry = config.geometry :=
    shows.shape.trans (Holdings.geometry_respondAll calls _)
  have tableValid : table.geometry.Valid := shape ▸ valid
  have listed {location : FrameLocation} := @contains_iff_listed table location tableValid shows.within
  refine ⟨replies, shows.owners, ?_, ?_, fun call fault => respond_error, shows.unowned tableValid,
    shows.heldBy tableValid, fun location => shape ▸ listed, fun location handle => ?_, ?_,
    ownedBy_pairwise tableValid shows.within⟩
  · rw [← shows.unowned tableValid, freeFrames_eq tableValid, free_eq tableValid shows.within]
  · rw [free_add_used shows.within, total, shape]
  · exact ownedBy_apart tableValid shows.within
  · exact firstFree_pairwise tableValid _

/-- A frame cannot be claimed twice, nor one outside the bank, whoever owns it. Giving back a free frame
tells of no owner, and a file that has none gives back none. -/
theorem answers_as_map_two_files :
    (respondAll [.claim ⟨0, 1⟩ ⟨0⟩, .claim ⟨0, 1⟩ ⟨1⟩, .claim ⟨2, 0⟩ ⟨0⟩, .claim ⟨1, 0⟩ ⟨0⟩,
        .release ⟨1, 1⟩, .releaseAll ⟨1⟩, .releaseAll ⟨0⟩, .release ⟨0, 1⟩]
      (ofGeometry ⟨2, 2, 4⟩)).1 =
        [.ok .done, .error (.alreadyOwned ⟨0, 1⟩), .error (.outsideGeometry ⟨2, 0⟩), .ok .done,
          .ok (.owner none), .ok (.count 0), .ok (.count 2), .ok (.owner none)] := by
  have passed : Config.validate { geometry := ⟨2, 2, 4⟩ } = .ok () := rfl
  refine (answers_as_map passed _).1.trans ?_
  decide

end Ownership

end CartridgeBank
