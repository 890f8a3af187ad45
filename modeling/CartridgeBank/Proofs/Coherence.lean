import CartridgeBank.Proofs.InStep
import CartridgeBank.Proofs.Soundness

namespace CartridgeBank

namespace Storage

variable {σ : Type} {view : σ → Device} {storage next : Storage σ} {location : FrameLocation}

/-- The cache holds what the device holds, but for some locations. -/
structure Coherent (view : σ → Device) (stale : List FrameLocation) (storage : Storage σ) :
    Prop where
  inStep : InStep view storage
  cached : ∀ cache, storage.cache = some cache →
    cache.Keeps storage.config.cacheFrames fun location frame =>
      location ∈ stale ∨ frame = (view storage.transport).content location

theorem Coherent.framed {stale : List FrameLocation} (coherent : Coherent view stale storage)
    {table : Ownership} {files : Registry} {poweredOn : Bool} :
    Coherent view stale { storage with table, files, poweredOn } :=
  ⟨coherent.inStep.framed, coherent.cached⟩

/-- Where the device's frames stay as they are, what was cached may stay cached. -/
theorem Kept.coherent {before after : Storage σ} (kept : Kept view before after)
    (config : after.config = before.config) {stale : List FrameLocation} {cache : FrameCache}
    (held : after.cache = some cache)
    (keeps : cache.Keeps before.config.cacheFrames fun location frame =>
      location ∈ stale ∨ frame = (view before.transport).content location) :
    Coherent view stale after := by
  refine ⟨kept.inStep, fun other heldToo => ?_⟩
  obtain rfl := Option.some.inj (held.symm.trans heldToo)
  rw [kept.same.content, config]
  exact keeps

theorem Coherent.weaken {stale more : List FrameLocation} (coherent : Coherent view stale storage)
    (subset : stale ⊆ more) : Coherent view more storage :=
  ⟨coherent.inStep, fun cache held => (coherent.cached cache held).imp
    fun _ _ _ either => either.imp_left fun member => subset member⟩

variable [Transport σ]

theorem readFrame_relayed (relays : Relays view) (coherent : Coherent view [] storage)
    {cache : FrameCache} (on : storage.cache = some cache) (location : FrameLocation) :
    (Kept view storage ((readFrame location).after storage) ∧
      Coherent view [] ((readFrame location).after storage)) ∧
      ∀ frame next, readFrame location storage = .ok frame next →
        frame = (view storage.transport).content location := by
  have keeps := coherent.cached cache on
  have looked : (cache.get location).2.Keeps storage.config.cacheFrames _ := keeps.get
  unfold Operation.after
  rw [readFrame_eq location on]
  cases found : cache.get location with
  | mk held after =>
    rw [found] at looked
    cases held with
    | some frame =>
      have cached : cache.frame? location = some frame := by
        rw [← FrameCache.get_fst, found]
      have value := (keeps.frames location frame cached).resolve_left List.not_mem_nil
      have kept : Kept view storage { storage with cache := some after } :=
        coherent.inStep.kept.recached
      refine ⟨⟨kept, kept.coherent rfl rfl looked⟩, ?_⟩
      rintro _ _ ⟨⟩
      exact value
    | none =>
      have inStep : InStep view { storage with cache := some after } :=
        coherent.inStep.framed
      obtain ⟨kept, fetched⟩ := fetchFrame_relayed relays inStep location
      have kept : Kept view storage
          ((fetchFrame location).after { storage with cache := some after }) :=
        ⟨kept.inStep, kept.same⟩
      refine ⟨⟨kept, ?_⟩, fetched⟩
      change Coherent view [] ((fetchFrame location).after { storage with cache := some after })
      cases run : fetchFrame location { storage with cache := some after } with
      | error fault next =>
        rw [Operation.after_of_error run] at kept ⊢
        obtain ⟨transport, active, rfl⟩ := fetchFrame_error run
        exact kept.coherent rfl rfl looked
      | ok frame next =>
        rw [Operation.after_of_ok run] at kept ⊢
        have value := fetched frame next run
        obtain ⟨_, transport, rfl⟩ := fetchFrame_ok run
        exact kept.coherent rfl rfl (looked.put (Or.inr value))

/-- Frames that are read are what the device holds. -/
theorem readFrames_relayed (relays : Relays view) (coherent : Coherent view [] storage)
    (on : storage.cache.isSome = true) (locations : List FrameLocation) :
    (Kept view storage ((readFrames locations).after storage) ∧
      Coherent view [] ((readFrames locations).after storage)) ∧
      ∀ frames next, readFrames locations storage = .ok frames next →
        frames = locations.map (view storage.transport).content := by
  induction locations generalizing storage with
  | nil =>
    refine ⟨⟨coherent.inStep.kept, coherent⟩, ?_⟩
    rintro _ _ ⟨⟩
    rfl
  | cons location rest ih =>
    obtain ⟨cache, held⟩ := Option.isSome_iff_exists.mp on
    obtain ⟨⟨kept, stays⟩, value⟩ := readFrame_relayed relays coherent held location
    unfold Operation.after at ih ⊢
    rw [readFrames_cons]
    cases run : readFrame location storage with
    | error fault middle =>
      rw [Operation.after_of_error run] at kept stays
      exact ⟨⟨kept, stays⟩, nofun⟩
    | ok frame middle =>
      rw [Operation.after_of_ok run] at kept stays
      have stillOn : middle.cache.isSome = true := by
        obtain ⟨_, transport, active, rfl⟩ := readFrame_ok held run
        rfl
      obtain ⟨⟨keptRest, staysRest⟩, values⟩ := ih stays stillOn
      dsimp only
      cases runRest : readFrames rest middle with
      | error fault last =>
        rw [runRest] at keptRest staysRest
        exact ⟨⟨kept.trans keptRest, staysRest⟩, nofun⟩
      | ok frames last =>
        rw [runRest] at keptRest staysRest
        refine ⟨⟨kept.trans keptRest, staysRest⟩, ?_⟩
        rintro _ _ ⟨⟩
        rw [value frame middle run, values frames last runRest, kept.same.content]
        rfl

/-- Whatever was stored, the cache is right about all frames but those claimed; and about these too
if there was no fault. -/
theorem store_relayed (relays : Relays view) {handle : Handle}
    {pieces : List (FrameLocation × Bytes)} {claimed : List FrameLocation}
    {result : Except Fault Unit} (coherent : Coherent view [] storage)
    (on : storage.cache.isSome = true)
    (run : store handle pieces storage = (claimed, result, next)) :
    Coherent view claimed next ∧ (result = .ok () → Coherent view [] next ∧
      ((view storage.transport).storeAll pieces).SameFrames (view next.transport)) := by
  induction pieces generalizing storage claimed with
  | nil =>
    cases run
    exact ⟨coherent, fun _ => ⟨coherent, rfl, rfl⟩⟩
  | cons piece rest ih =>
    obtain ⟨location, frame⟩ := piece
    obtain ⟨cache, held⟩ := Option.isSome_iff_exists.mp on
    unfold store at run
    rw [claim_eq] at run
    cases claim : storage.table.claim location handle with
    | error fault =>
      simp only [claim] at run
      cases run
      exact ⟨coherent, fun success => by cases success⟩
    | ok table =>
      simp only [claim] at run
      have inStep : InStep view { storage with table } :=
        coherent.inStep.framed
      obtain ⟨written, failed⟩ := writeFrame_relayed relays inStep location frame
      have keeps := coherent.cached cache held
      split at run
      · rename_i fault middle write
        cases run
        obtain ⟨inStep, either⟩ := failed fault _ write
        obtain ⟨transport, active, rfl⟩ := writeFrame_error write
        refine ⟨⟨inStep, fun other heldToo => ?_⟩, fun success => by cases success⟩
        obtain rfl := Option.some.inj (held.symm.trans heldToo)
        refine keeps.imp fun other bytes _ value => ?_
        have value := value.resolve_left List.not_mem_nil
        rcases either with same | stored
        · rw [same.content]
          exact Or.inr value
        · rw [stored.content, Device.content_store]
          by_cases here : other = location
          · exact Or.inl (List.mem_singleton.mpr here)
          · rw [if_neg here]
            exact Or.inr value
      · rename_i middle write
        obtain ⟨inStep, stored⟩ := written middle write
        obtain ⟨transport, rfl⟩ := writeFrame_ok write
        have coherent : Coherent view [] { storage with
            transport
            active := some location.cartridge
            table
            cache := storage.cache.map (·.put location frame) } := by
          refine ⟨inStep, fun other heldToo => ?_⟩
          simp only [held, Option.map_some, Option.some.injEq] at heldToo
          subst heldToo
          rw [stored.content]
          refine (keeps.imp fun other bytes _ value => ?_).overwrite (Or.inr ?_)
          · have value := value.resolve_left List.not_mem_nil
            rw [Device.content_store]
            by_cases here : other = location
            · exact Or.inl here
            · rw [if_neg here]
              exact Or.inr (Or.inr value)
          · rw [Device.content_store, if_pos rfl]
        cases run
        obtain ⟨rough, precise⟩ := ih coherent (by rw [Option.isSome_map]; exact on) rfl
        refine ⟨rough.weaken (List.subset_cons_self _ _), fun success => ?_⟩
        obtain ⟨coherent, same⟩ := precise success
        exact ⟨coherent, (stored.storeAll rest).trans same⟩

theorem placeContent_relayed (relays : Relays view) {handle : Handle} {content : Bytes}
    {targets claimed : List FrameLocation} {result : Except Fault Unit}
    (coherent : Coherent view [] storage) (on : storage.cache.isSome = true)
    (run : placeContent handle content storage = .ok (targets, claimed, result) next) :
    Coherent view claimed next ∧ (result = .ok () → Coherent view [] next ∧
      ((view storage.transport).storeAll (targets.zip (blocks content storage.frameSize))).SameFrames
        (view next.transport)) := by
  obtain ⟨_, ⟨_, rfl, rfl, rfl⟩ | ⟨_, stored⟩⟩ := placeContent_ok run
  · exact ⟨coherent, nofun⟩
  · exact store_relayed relays coherent on stored

/-- What a write finds in its old frames, and what it has done once it has placed the new content, or
has failed to. -/
theorem rewrite_relayed (relays : Relays view) {handle : Handle} {file : OpenFile}
    {frames : List Bytes} {content : Bytes} {targets claimed : List FrameLocation}
    {result : Except Fault Unit} {middle : Storage σ} (coherent : Coherent view [] storage)
    (on : storage.cache.isSome = true)
    (read : readFrames file.frames storage = .ok frames middle)
    (placed : placeContent handle content
      { middle with table := middle.table.releaseEach file.frames } =
        .ok (targets, claimed, result) next) :
    frames = file.frames.map (view storage.transport).content ∧ Coherent view claimed next ∧
      (result = .ok () → Coherent view [] next ∧ ((view storage.transport).storeAll
        (targets.zip (blocks content storage.frameSize))).SameFrames (view next.transport)) := by
  obtain ⟨cache, held⟩ := Option.isSome_iff_exists.mp on
  obtain ⟨⟨kept, stays⟩, values⟩ := readFrames_relayed relays coherent on file.frames
  rw [Operation.after_of_ok read] at kept stays
  have anyFrames : cache.Keeps storage.config.cacheFrames fun _ _ => True :=
    (coherent.cached cache held).imp fun _ _ _ _ => trivial
  obtain ⟨_, _, transport, active, rfl⟩ :=
    readFrames_ok held anyFrames (fun _ _ _ _ => trivial) read
  have released : Coherent view [] { storage with
      transport
      active
      cache := some (cache.readThroughAll (file.frames.zip frames))
      table := storage.table.releaseEach file.frames } :=
    stays.framed
  obtain ⟨rough, precise⟩ := placeContent_relayed relays released rfl placed
  refine ⟨values frames _ read, rough, fun success => ?_⟩
  obtain ⟨coherent, same⟩ := precise success
  exact ⟨coherent, (kept.same.storeAll _).trans same⟩

namespace Coherent

omit [Transport σ] in
theorem invalidated {stale locations : List FrameLocation} (coherent : Coherent view stale storage)
    (covered : stale ⊆ locations) :
    Coherent view [] { storage with cache := storage.cache.map (·.invalidateAll locations) } := by
  refine ⟨coherent.inStep.framed, fun cache held => ?_⟩
  obtain ⟨before, heldBefore, rfl⟩ := Option.map_eq_some_iff.mp held
  refine (coherent.cached before heldBefore).invalidateAll.imp ?_
  rintro location frame _ ⟨kept, old | value⟩
  · exact absurd (covered old) kept
  · exact Or.inr value

theorem write (relays : Relays view) (sound : storage.Sound) (coherent : Coherent view [] storage)
    (handle : Handle) (data : Bytes) : Coherent view [] ((write handle data).after storage) := by
  have ending := sound.write_run handle data
  unfold Operation.after
  generalize Storage.write handle data storage = result at ending
  cases ending with
  | off off => exact coherent
  | invalid on absent => exact coherent
  | nothing on present empty => exact coherent
  | full on present some grows few => exact coherent
  | unread starts run =>
    have on : storage.cache.isSome = true := sound.power.symm.trans starts.on
    obtain ⟨⟨_, stays⟩, _⟩ := readFrames_relayed relays coherent on (OpenFile.frames _)
    rw [Operation.after_of_error run] at stays
    exact stays
  | unstored starts run placed =>
    rename_i file frames middle targets claimed fault next
    have on : storage.cache.isSome = true := sound.power.symm.trans starts.on
    obtain ⟨_, rough, _⟩ := rewrite_relayed relays coherent on run placed
    have settled := rough.invalidated (List.subset_append_left claimed file.frames)
    exact settled.framed
  | stored starts run placed =>
    rename_i file frames middle targets claimed next
    have on : storage.cache.isSome = true := sound.power.symm.trans starts.on
    obtain ⟨_, _, precise⟩ := rewrite_relayed relays coherent on run placed
    have settled := (precise rfl).1.invalidated (List.nil_subset (givenUp file.frames targets))
    exact settled.framed

theorem read (relays : Relays view) (sound : storage.Sound) (coherent : Coherent view [] storage)
    (handle : Handle) (wanted : Nat) : Coherent view [] ((read handle wanted).after storage) := by
  have ending := read_run handle wanted storage
  unfold Operation.after
  generalize Storage.read handle wanted storage = result at ending
  cases ending with
  | off off => exact coherent
  | invalid on absent => exact coherent
  | nothing on present zero => exact coherent
  | atEnd on present some ended => exact coherent
  | unread on present some more run =>
    have on : storage.cache.isSome = true := sound.power.symm.trans on
    obtain ⟨⟨_, stays⟩, _⟩ := readFrames_relayed relays coherent on (covering _ _ _)
    rw [Operation.after_of_error run] at stays
    exact stays
  | done on present some more run =>
    have on : storage.cache.isSome = true := sound.power.symm.trans on
    obtain ⟨⟨_, stays⟩, _⟩ := readFrames_relayed relays coherent on (covering _ _ _)
    rw [Operation.after_of_ok run] at stays
    exact stays.framed

omit [Transport σ] in
/-- Without a cache and a loaded cartridge, only the geometry counts. -/
theorem idle (shape : (view storage.transport).geometry = storage.config.geometry)
    (whole : (view storage.transport).Whole)
    (active : storage.active = none) (absent : storage.cache = none) :
    Coherent view [] storage := by
  refine ⟨⟨shape, whole, fun cartridge known => ?_⟩, fun cache held => ?_⟩
  · cases active.symm.trans known
  · cases absent.symm.trans held

theorem powerOn (relays : Relays view) (coherent : Coherent view [] storage) :
    Coherent view [] (powerOn.after storage) := by
  have ending := powerOn_run storage
  unfold Operation.after
  generalize Storage.powerOn storage = result at ending
  cases ending with
  | already on => exact coherent
  | unsized off refused => exact coherent
  | failed off made run =>
    rename_i cache fault next
    have begun : InStep view { storage.cleared with cache := some cache } :=
      coherent.inStep.cleared
    have inStep := initializeDevice_inStep relays begun rfl
    rw [Operation.after_of_error run] at inStep
    exact idle inStep.shape inStep.whole rfl rfl
  | started off made run =>
    rename_i cache next
    have begun : InStep view { storage.cleared with cache := some cache } :=
      coherent.inStep.cleared
    have inStep := initializeDevice_inStep relays begun rfl
    rw [Operation.after_of_ok run] at inStep
    obtain ⟨transport, active, same⟩ :=
      @initializeDevice_after σ _ { storage.cleared with cache := some cache }
    obtain rfl := (Operation.after_of_ok run).symm.trans same
    refine ⟨inStep.framed, ?_⟩
    rintro _ ⟨⟩
    obtain ⟨capacity, distinct, empty⟩ := FrameCache.ofCapacity_ok made
    refine ⟨distinct, capacity, fun location frame cached => ?_⟩
    rw [empty] at cached
    cases cached

theorem powerOff (relays : Relays view) (coherent : Coherent view [] storage) :
    Coherent view [] (powerOff.after storage) := by
  unfold Operation.after
  rw [powerOff_eq]
  by_cases on : storage.poweredOn = true
  · rw [if_pos on]
    have cleared : InStep view { storage.cleared with poweredOn := false } :=
      coherent.inStep.cleared
    obtain ⟨shape, whole⟩ := execute_shape relays .powoff 0 0 none cleared
    have hungUp (transport : σ) :
        (view transport).SameFrames (view (Transport.disconnect transport)) :=
      .of_plain (relays.disconnected transport)
    cases sent : execute .powoff 0 0 none { storage.cleared with poweredOn := false } with
    | ok answer next =>
      rw [Operation.after_of_ok sent] at shape whole
      obtain ⟨transport, rfl⟩ := execute_ok sent
      exact idle ((hungUp transport).geometry.trans shape) (whole.congr (hungUp transport)) rfl rfl
    | error fault next =>
      rw [Operation.after_of_error sent] at shape whole
      obtain ⟨transport, rfl⟩ := execute_error sent
      exact idle ((hungUp transport).geometry.trans shape) (whole.congr (hungUp transport)) rfl rfl
  · rw [if_neg on]
    exact coherent

theorem respond (relays : Relays view) (sound : storage.Sound)
    (coherent : Coherent view [] storage) (call : Call) :
    Coherent view [] (respond call storage).2 := by
  refine respond_keeps (Coherent view []) coherent (coherent.powerOn relays)
    (coherent.powerOff relays) (fun name => ?_) (fun handle => ?_) (coherent.read relays sound)
    (coherent.write relays sound) (fun handle offset => ?_) (fun frames => ?_) call
  · obtain ⟨files, same⟩ := @openFile_after σ storage name
    rw [same]
    exact coherent.framed
  · obtain ⟨files, table, locations, same⟩ := @closeFile_after σ storage handle
    have settled := coherent.invalidated (List.nil_subset locations)
    rw [same]
    exact settled.framed
  · obtain ⟨files, same⟩ := @seek_after σ storage handle offset
    rw [same]
    exact coherent.framed
  · rcases @setCacheFrames_after σ storage frames with same | ⟨absent, same⟩
    · rwa [same]
    · rw [same]
      refine ⟨coherent.inStep.framed, fun cache held => ?_⟩
      cases absent.symm.trans held

omit [Transport σ] in
theorem meddled (coherent : Coherent view [] storage) {transport : σ}
    (same : (view transport).plain = (view storage.transport).plain) :
    Coherent view [] { storage with transport } := by
  obtain ⟨geometry, frames, initialized, active⟩ := Device.plain_eq_iff.mp same
  have sameFrames := Device.SameFrames.of_plain same
  refine ⟨coherent.inStep.relayed (coherent.inStep.whole.congr sameFrames) geometry initialized
    active, fun cache held => ?_⟩
  rw [sameFrames.content]
  exact coherent.cached cache held

/-- The bytes that a read returns are those of the file's frames on the device. -/
theorem read_ok (relays : Relays view) (sound : storage.Sound)
    (coherent : Coherent view [] storage) {handle : Handle} {wanted : Nat} {bytes : Bytes}
    (run : Storage.read handle wanted storage = .ok bytes next) :
    ∃ file, storage.files.get? handle = some file ∧
      (view storage.transport).SameFrames (view next.transport) ∧
      bytes = (((file.frames.flatMap (view storage.transport).content).take file.length).drop
        file.position).take wanted := by
  have ending := read_run handle wanted storage
  rw [run] at ending
  cases ending with
  | nothing on present zero =>
    subst zero
    exact ⟨_, present, ⟨rfl, rfl⟩, rfl⟩
  | done on present some more read =>
    rename_i file frames middle
    have on : storage.cache.isSome = true := sound.power.symm.trans on
    obtain ⟨⟨kept, _⟩, values⟩ := readFrames_relayed relays coherent on (covering file _ _)
    rw [Operation.after_of_ok read] at kept
    refine ⟨file, present, kept.same, ?_⟩
    have full : ∀ frame ∈ file.frames.map (view storage.transport).content,
        frame.length = storage.frameSize := by
      intro frame member
      obtain ⟨location, _, rfl⟩ := List.mem_map.mp member
      rw [coherent.inStep.whole.length_content, coherent.inStep.shape]
      rfl
    have readable_pos : 0 < readable file wanted := by
      unfold readable
      omega
    rw [values frames middle read, covering, List.map_take, List.map_drop,
      flatten_window sound.positive full readable_pos, readable, List.flatMap, List.drop_take,
      List.take_take]

theorem readToEnd_ok (relays : Relays view) (sound : storage.Sound)
    (coherent : Coherent view [] storage) {handle : Handle} {bytes : Bytes}
    (run : Storage.readToEnd handle storage = .ok bytes next) :
    ∃ file, storage.files.get? handle = some file ∧
      (view storage.transport).SameFrames (view next.transport) ∧
      bytes = ((file.frames.flatMap (view storage.transport).content).take file.length).drop
        file.position := by
  rw [readToEnd_eq] at run
  split at run
  · split at run
    · rename_i file present
      split at run
      · rename_i atEnd
        cases run
        refine ⟨file, present, ⟨rfl, rfl⟩, ?_⟩
        rw [List.drop_take, atEnd, List.take_zero]
      · obtain ⟨other, found, same, value⟩ := coherent.read_ok relays sound run
        obtain rfl := Option.some.inj (present.symm.trans found)
        refine ⟨file, present, same, ?_⟩
        rw [value, List.drop_take, List.take_take, Nat.min_self]
    · cases run
  · cases run

end Coherent

theorem Reached.coherent (relays : Relays view) {starts : Config → σ → Prop}
    {meddles : σ → σ → Prop}
    (begin : ∀ config transport, starts config transport →
      (view transport).geometry = config.geometry ∧ (view transport).Whole)
    (harmless : ∀ before after, meddles before after → (view after).plain = (view before).plain)
    (reached : Reached starts meddles storage) : Coherent view [] storage := by
  induction reached with
  | created start made =>
    obtain ⟨shape, whole⟩ := begin _ _ start
    obtain ⟨_, rfl⟩ := create_eq_ok_iff.mp made
    exact .idle shape whole rfl rfl
  | called call reached coherent => exact coherent.respond relays reached.sound call
  | meddled _ change coherent => exact coherent.meddled (harmless _ _ change)

/-- Whatever becomes of the single requests, the cache holds what the device holds, and what is read
is what the device holds. -/
theorem Reached.mirrors {storage : Storage Unreliable}
    (reached : Reached Unreliable.Fits Unreliable.Retuned storage) :
    (∀ cache, storage.cache = some cache → ∀ entry ∈ cache.entries,
      entry.frame = storage.transport.device.content entry.location) ∧
      (∀ handle wanted bytes,
        (respond (.read handle wanted) storage).1 = .ok (.bytes bytes) →
        (respond (.read handle wanted) storage).2.transport.device.content =
            storage.transport.device.content ∧
          ∃ file, storage.files.get? handle = some file ∧
            bytes = (((file.frames.flatMap storage.transport.device.content).take
              file.length).drop file.position).take wanted) ∧
      ∀ handle bytes, (respond (.readToEnd handle) storage).1 = .ok (.bytes bytes) →
        (respond (.readToEnd handle) storage).2.transport.device.content =
            storage.transport.device.content ∧
          ∃ file, storage.files.get? handle = some file ∧
            bytes = ((file.frames.flatMap storage.transport.device.content).take
              file.length).drop file.position := by
  have relays := Unreliable.relays
  have sound := reached.sound
  have coherent : Coherent Unreliable.device [] storage :=
    reached.coherent relays (fun _ _ fits => ⟨fits.1, fits.2.whole⟩) fun _ _ retuned => by
      obtain ⟨faults, same⟩ := retuned
      rw [same]
      rfl
  refine ⟨fun cache held => ?_, fun handle wanted bytes success => ?_, fun handle bytes success => ?_⟩
  · have keeps : cache.Keeps storage.config.cacheFrames fun location frame =>
        frame = storage.transport.device.content location :=
      (coherent.cached cache held).imp fun _ _ _ value => value.resolve_left List.not_mem_nil
    exact (FrameCache.forall_entries_iff keeps.distinct).mpr keeps.frames
  · obtain ⟨_, run, ⟨⟩⟩ := Operation.bind_pure_ok.mp (respond_ok success)
    obtain ⟨file, present, same, value⟩ := coherent.read_ok relays sound run
    exact ⟨same.content, file, present, value⟩
  · obtain ⟨_, run, ⟨⟩⟩ := Operation.bind_pure_ok.mp (respond_ok success)
    obtain ⟨file, present, same, value⟩ := coherent.readToEnd_ok relays sound run
    exact ⟨same.content, file, present, value⟩

/-- A storage whose second write follows one with a lost answer. -/
def afterLostAnswer : Storage Unreliable :=
  (respondAll [.powerOn, .openFile "a", .write ⟨0⟩ [1, 2], .write ⟨0⟩ [3, 4], .seek ⟨0⟩ 0] {
    config := { geometry := ⟨2, 2, 4⟩, cacheFrames := 1 }
    transport := {
      device := { geometry := ⟨2, 2, 4⟩ }
      fates := List.replicate 6 .answered ++ [.lost .notConnected] }
    table := Ownership.ofGeometry ⟨2, 2, 4⟩ }).2

theorem Reached.mirrors_lost_answer :
    ∃ file, afterLostAnswer.files.get? ⟨0⟩ = some file ∧
      [3, 4] = (((file.frames.flatMap afterLostAnswer.transport.device.content).take
        file.length).drop file.position).take 5 := by
  have fits : Unreliable.Fits { geometry := ⟨2, 2, 4⟩, cacheFrames := 1 }
      { device := { geometry := ⟨2, 2, 4⟩ }
        fates := List.replicate 6 .answered ++ [.lost .notConnected] } :=
    ⟨rfl, .created _⟩
  have reached : Reached Unreliable.Fits Unreliable.Retuned afterLostAnswer :=
    Reached.all (.created fits (create_eq_ok_iff.mpr ⟨rfl, rfl⟩)) _
  have success : (respond (.read ⟨0⟩ 5) afterLostAnswer).1 = .ok (.bytes [3, 4]) := by cbv
  exact (reached.mirrors.2.1 ⟨0⟩ 5 [3, 4] success).2

end Storage

end CartridgeBank
