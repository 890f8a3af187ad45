import CartridgeBank.Proofs.Errands
import CartridgeBank.Proofs.Inclusion

namespace CartridgeBank

/-- One frame that is read from the device or written to it. -/
inductive Transfer where
  | fetch (location : FrameLocation)
  | store (location : FrameLocation) (frame : Bytes)

/-- The cartridge that an errand is to load, if that is what it is for. -/
def Errand.loaded? : Errand → Option UInt16
  | load cartridge => some cartridge
  | _ => none

namespace Transfer

def location : Transfer → FrameLocation
  | fetch location => location
  | store location _ => location

def cartridge (transfer : Transfer) : UInt16 := transfer.location.cartridge

def errand : Transfer → Errand
  | fetch location => .fetch location
  | store location frame => .store location frame

/-- Transfers one after the other. Before each, its cartridge is loaded unless it is the active one. -/
def errands (active : Option UInt16) : List Transfer → List Errand
  | [] => []
  | transfer :: rest =>
    (if active = some transfer.cartridge then [] else [.load transfer.cartridge]) ++
      transfer.errand :: errands (some transfer.cartridge) rest

/-- The cartridge that is active once transfers have been made. -/
def arrival (active : Option UInt16) (transfers : List Transfer) : Option UInt16 :=
  (transfers.getLast?.map cartridge).or active

theorem arrival_cons (active : Option UInt16) (transfer : Transfer) (rest : List Transfer) :
    arrival active (transfer :: rest) = arrival (some transfer.cartridge) rest := by
  unfold arrival
  rw [List.getLast?_cons]
  cases rest.getLast? <;> rfl

theorem arrival_append (active : Option UInt16) (first second : List Transfer) :
    arrival active (first ++ second) = arrival (arrival active first) second := by
  induction first generalizing active with
  | nil => rfl
  | cons transfer rest ih => rw [List.cons_append, arrival_cons, ih, arrival_cons]

theorem errands_append (active : Option UInt16) (first second : List Transfer) :
    errands active (first ++ second) =
      errands active first ++ errands (arrival active first) second := by
  induction first generalizing active with
  | nil => rfl
  | cons transfer rest ih =>
    rw [List.cons_append, errands, errands, ih, arrival_cons, List.append_assoc, List.cons_append]

/-- The active cartridge and the ones that are loaded after it are those that the transfers visit, with
each stay at one of them counted once. -/
theorem loads_eq_destutter (active : Option UInt16) (transfers : List Transfer) :
    active.toList ++ (errands active transfers).filterMap Errand.loaded? =
      (active.toList ++ transfers.map cartridge).destutter (· ≠ ·) := by
  have bare (transfer : Transfer) : transfer.errand.loaded? = none := by
    cases transfer <;> rfl
  induction transfers generalizing active with
  | nil => cases active <;> rfl
  | cons transfer rest ih =>
    have later := ih (some transfer.cartridge)
    rw [Option.toList_some, List.singleton_append, List.singleton_append, List.destutter_cons']
      at later
    rw [errands, List.filterMap_append, List.filterMap_cons_none (bare transfer), List.map_cons]
    cases active with
    | none => exact later
    | some cartridge =>
      rw [Option.toList_some, List.singleton_append, List.singleton_append, List.destutter_cons']
      by_cases already : cartridge = transfer.cartridge
      · subst already
        rw [if_pos rfl, List.destutter'_cons_neg _ (not_not_intro rfl)]
        exact later
      · rw [if_neg fun same => already (Option.some.inj same), List.destutter'_cons_pos _ already]
        exact congrArg _ later

end Transfer

/-- A pass over the bank in scan order. A cartridge is loaded exactly if the next frame lies on it and
it is not active. -/
structure Sweep (active : Option UInt16) (transfers : List Transfer) (sent : List Errand) : Prop where
  errands : sent = Transfer.errands active transfers
  ordered : (transfers.map Transfer.location).Pairwise FrameLocation.Precedes
  once : (sent.filterMap Errand.loaded?).Nodup
  needed : (active.toList ++ sent.filterMap Errand.loaded?).IsChain (· ≠ ·)

/-- In scan order, no cartridge is visited again after another one. -/
theorem Sweep.of_ordered (active : Option UInt16) {transfers : List Transfer}
    (ordered : (transfers.map Transfer.location).Pairwise FrameLocation.Precedes) :
    Sweep active transfers (Transfer.errands active transfers) := by
  have loads := Transfer.loads_eq_destutter active transfers
  have needed : (active.toList ++ (Transfer.errands active transfers).filterMap
      Errand.loaded?).IsChain (· ≠ ·) := loads ▸ List.isChain_destutter _ _
  refine ⟨rfl, ordered, ?_, needed⟩
  have visited : ((Transfer.errands active transfers).filterMap Errand.loaded?).Sublist
      (transfers.map Transfer.cartridge) :=
    (List.append_sublist_append_left _).mp (loads ▸ List.destutter_sublist _ _)
  have rising : (transfers.map Transfer.cartridge).Pairwise (· ≤ ·) := by
    refine List.pairwise_map.mpr ((List.pairwise_map.mp ordered).imp ?_)
    rintro a b (less | ⟨same, _⟩)
    · exact UInt16.le_of_lt less
    · exact UInt16.le_of_eq same
  have chain := (List.isChain_append.mp needed).2.1
  have whole := List.destutter_of_isChain (· ≠ ·) _ chain
  rw [(rising.sublist visited).destutter_eq_dedup] at whole
  exact List.dedup_eq_self.mp whole

namespace FrameCache

/-- The locations, of frames read through the cache one after the other, that it does not hold when it
is their turn. -/
def missed (cache : FrameCache) : List (FrameLocation × Bytes) → List FrameLocation
  | [] => []
  | piece :: rest =>
    (if cache.contains piece.1 then [] else [piece.1]) ++
      (cache.readThrough piece.1 piece.2).missed rest

theorem missed_sublist (pieces : List (FrameLocation × Bytes)) (cache : FrameCache) :
    (cache.missed pieces).Sublist (pieces.map Prod.fst) := by
  induction pieces generalizing cache with
  | nil => exact .slnil
  | cons piece rest ih =>
    have later := ih (cache.readThrough piece.1 piece.2)
    unfold missed
    split
    · exact later.cons piece.1
    · exact later.cons_cons piece.1

theorem misses_readThroughAll (pieces : List (FrameLocation × Bytes)) (cache : FrameCache) :
    (cache.readThroughAll pieces).misses = cache.misses + (cache.missed pieces).length := by
  induction pieces generalizing cache with
  | nil => rfl
  | cons piece rest ih =>
    obtain ⟨_, first⟩ := counters_access cache (.readThrough piece.1 piece.2)
    have later := ih (cache.readThrough piece.1 piece.2)
    refine later.trans ?_
    rw [show (cache.readThrough piece.1 piece.2).misses = _ from first, missed, List.length_append]
    cases held : cache.contains piece.1 with
    | true => simp [lacks, CacheAccess.sought?, held]
    | false =>
      simp [lacks, CacheAccess.sought?, held]
      omega

theorem misses_putAll (pieces : List (FrameLocation × Bytes)) (cache : FrameCache) :
    (cache.putAll pieces).misses = cache.misses := by
  induction pieces generalizing cache with
  | nil => rfl
  | cons piece rest ih =>
    exact (ih (cache.put piece.1 piece.2)).trans (counters_put cache piece.1 piece.2).2

theorem misses_invalidateAll (locations : List FrameLocation) (cache : FrameCache) :
    (cache.invalidateAll locations).misses = cache.misses := by
  induction locations generalizing cache with
  | nil => rfl
  | cons location rest ih =>
    exact (ih (cache.invalidate location).2).trans (counters_invalidate cache location).2

end FrameCache

namespace Storage

variable {σ : Type}

/-- What a storage sends on its way to another are exactly these transfers, with their loads. -/
structure Makes (transfers : List Transfer) (turns : List (Turn σ)) (before after : Storage σ) :
    Prop where
  errands : turns.map Turn.errand = Transfer.errands before.active transfers
  active : after.active = Transfer.arrival before.active transfers

namespace Makes

variable {first second : List Transfer} {earlier later : List (Turn σ)}
  {before middle after : Storage σ}

theorem none (same : after.active = before.active) : Makes [] [] before after := ⟨rfl, same⟩

theorem trans (one : Makes first earlier before middle) (two : Makes second later middle after) :
    Makes (first ++ second) (earlier ++ later) before after where
  errands := by
    rw [List.map_append, one.errands, two.errands, one.active, Transfer.errands_append]
  active := by rw [two.active, one.active, Transfer.arrival_append]

end Makes

variable [Transport σ] {storage loaded next : Storage σ} {cache : FrameCache}

/-- A transfer is made once its cartridge is loaded. -/
theorem visit_makes {transfer : Transfer}
    (load : loadCartridge transfer.cartridge storage = .ok () loaded)
    (arrived : next.active = some transfer.cartridge) :
    Makes [transfer] (visitTurns transfer.cartridge transfer.errand storage) storage next := by
  refine ⟨?_, arrived⟩
  unfold visitTurns loadTurns
  rw [load, Transfer.errands, List.map_append]
  split <;> rfl

/-- A frame that is read is fetched if it is not cached. -/
theorem readFrame_makes {location : FrameLocation} {frame : Bytes} (on : storage.cache = some cache)
    (read : readFrame location storage = .ok frame next) :
    Makes ((cache.missed [(location, frame)]).map .fetch) (fetchTurns location storage) storage
      next := by
  have looked : cached? location storage =
      .ok (cache.get location).1 { storage with cache := some (cache.get location).2 } := by
    simp only [cached?, on]
  rw [readFrame_eq location on] at read
  unfold fetchTurns FrameCache.missed
  rw [looked, FrameCache.get_fst]
  rw [show cache.get location = (cache.frame? location, (cache.get location).2) from
    Prod.ext FrameCache.get_fst rfl] at read
  cases cached : cache.frame? location with
  | some bytes =>
    rw [cached] at read
    cases read
    have held : cache.contains location = true := by
      by_contra absent
      rw [FrameCache.frame?_eq_none_iff.mpr (Bool.eq_false_iff.mpr absent)] at cached
      cases cached
    rw [if_pos held]
    exact .none rfl
  | none =>
    rw [cached] at read
    dsimp only at read ⊢
    have absent : ¬cache.contains location = true :=
      Bool.eq_false_iff.mp (FrameCache.frame?_eq_none_iff.mp cached)
    rw [if_neg absent]
    obtain ⟨_, transport, rfl⟩ := fetchFrame_ok read
    rw [fetchFrame_eq] at read
    cases load : loadCartridge location.cartridge
        { storage with cache := some (cache.get location).2 } with
    | error fault last =>
      rw [load] at read
      cases read
    | ok done loaded =>
      obtain ⟨errands, active⟩ := @visit_makes _ _ _ loaded { storage with
          transport
          active := some location.cartridge
          cache := some ((cache.get location).2.put location frame) } (.fetch location) load rfl
      exact ⟨errands, active⟩

/-- Of the frames that are read, those are fetched that are not cached when it is their turn. -/
theorem readFrames_makes {locations : List FrameLocation} {frames : List Bytes}
    (on : storage.cache = some cache) (read : readFrames locations storage = .ok frames next) :
    Makes ((cache.missed (locations.zip frames)).map .fetch)
      (eachTurns fetchTurns readFrame locations storage) storage next := by
  induction locations generalizing storage cache frames with
  | nil =>
    cases read
    exact .none rfl
  | cons location rest ih =>
    rw [readFrames_cons] at read
    unfold eachTurns
    cases first : readFrame location storage with
    | error fault last =>
      rw [first] at read
      cases read
    | ok frame middle =>
      rw [first] at read
      dsimp only at read ⊢
      cases others : readFrames rest middle with
      | error fault last =>
        rw [others] at read
        cases read
      | ok more last =>
        rw [others] at read
        cases read
        have made := readFrame_makes on first
        obtain ⟨_, transport, active, rfl⟩ := readFrame_ok on first
        have whole := made.trans (ih rfl others)
        rw [← List.map_append] at whole
        simpa only [FrameCache.missed, List.append_nil, List.zip_cons_cons] using whole

omit [Transport σ] in
/-- A claim changes nothing but the table of owners. -/
theorem claim_ok {handle : Handle} {location : FrameLocation}
    (run : claim handle location storage = .ok () next) : ∃ table, next = { storage with table } := by
  rw [claim_eq] at run
  cases claims : storage.table.claim location handle with
  | error fault =>
    rw [claims] at run
    cases run
  | ok table =>
    rw [claims] at run
    cases run
    exact ⟨table, rfl⟩

theorem claimAndWrite_makes {handle : Handle} {piece : FrameLocation × Bytes}
    (run : claimAndWrite handle piece storage = .ok () next) :
    Makes [.store piece.1 piece.2] (storeTurns handle piece storage) storage next := by
  unfold claimAndWrite at run
  rw [Operation.bind_apply] at run
  unfold storeTurns
  cases claims : claim handle piece.1 storage with
  | error fault last =>
    rw [claims] at run
    cases run
  | ok done owning =>
    rw [claims] at run
    dsimp only at run ⊢
    obtain ⟨table, rfl⟩ := claim_ok claims
    obtain ⟨transport, rfl⟩ := writeFrame_ok run
    rw [writeFrame_eq] at run
    cases load : loadCartridge piece.1.cartridge { storage with table } with
    | error fault last =>
      rw [load] at run
      cases run
    | ok done loaded =>
      obtain ⟨errands, active⟩ := @visit_makes _ _ _ loaded { storage with
          table
          transport
          active := some piece.1.cartridge
          cache := storage.cache.map (·.put piece.1 piece.2) } (.store piece.1 piece.2) load rfl
      exact ⟨errands, active⟩

theorem store_cons_ok {handle : Handle} {piece : FrameLocation × Bytes}
    {rest : List (FrameLocation × Bytes)} {claimed : List FrameLocation}
    (stored : store handle (piece :: rest) storage = (claimed, .ok (), next)) :
    ∃ middle others, claimAndWrite handle piece storage = .ok () middle ∧
      store handle rest middle = (others, .ok (), next) := by
  obtain ⟨location, frame⟩ := piece
  unfold store at stored
  simp only [claimAndWrite, Operation.bind_apply]
  cases claims : claim handle location storage with
  | error fault last =>
    rw [claims] at stored
    cases stored
  | ok done owning =>
    rw [claims] at stored
    dsimp only at stored ⊢
    cases written : writeFrame location frame owning with
    | error fault last =>
      rw [written] at stored
      cases stored
    | ok done middle =>
      rw [written] at stored
      obtain ⟨_, same⟩ := Prod.mk.inj stored
      exact ⟨middle, _, rfl, Prod.ext rfl same⟩

/-- All pieces are stored, in order. -/
theorem store_makes {handle : Handle} {pieces : List (FrameLocation × Bytes)}
    {claimed : List FrameLocation} (stored : store handle pieces storage = (claimed, .ok (), next)) :
    Makes (pieces.map fun piece => .store piece.1 piece.2)
      (eachTurns (storeTurns handle) (claimAndWrite handle) pieces storage) storage next := by
  induction pieces generalizing storage claimed with
  | nil =>
    cases stored
    exact .none rfl
  | cons piece rest ih =>
    obtain ⟨middle, others, first, later⟩ := store_cons_ok stored
    unfold eachTurns
    rw [first]
    exact (claimAndWrite_makes first).trans (ih later)

/-- Content that is placed is stored in the first free frames. -/
theorem placeContent_makes {handle : Handle} {content : Bytes} {targets claimed : List FrameLocation}
    (positive : 0 < storage.frameSize)
    (placed : placeContent handle content storage = .ok (targets, claimed, .ok ()) next) :
    let pieces := (storage.table.firstFree (framesFor content.length storage.frameSize)).zip
      (blocks content storage.frameSize)
    Makes (pieces.map fun piece => .store piece.1 piece.2) (placeTurns handle content storage) storage
        next ∧
      next.cache = storage.cache.map (·.putAll pieces) := by
  obtain ⟨rfl, _, written, _, _, _, _, whole, same⟩ := placeContent_spec positive placed
  obtain ⟨_, rfl, _⟩ := whole rfl
  obtain ⟨_, ⟨_, _, failed, _⟩ | ⟨enough, stored⟩⟩ := placeContent_ok placed
  · cases failed
  · refine ⟨?_, by rw [same]⟩
    unfold placeTurns
    dsimp only
    rw [if_neg (Nat.not_lt.mpr enough)]
    exact store_makes stored

end Storage

end CartridgeBank
