import CartridgeBank.Proofs.Sweeps

namespace CartridgeBank

open Wire

/-- Whether a request is for the content of a frame. -/
def Wire.Request.isRead (request : Request) : Bool := request.opcode.command? == some .rdfrme

theorem Errand.isRead_request (errand : Errand) :
    errand.request.isRead = (errand.command == .rdfrme) := by
  unfold Request.isRead request
  rw [errand.command?_opcode]
  cases errand <;> rfl

/-- Of transfers with their loads, only those that fetch a frame ask for one. -/
theorem countP_isRead_errands (transfers : List Transfer) (active : Option UInt16) :
    ((Transfer.errands active transfers).map Errand.request).countP Request.isRead =
      transfers.countP fun transfer => transfer.errand.command == .rdfrme := by
  induction transfers generalizing active with
  | nil => rfl
  | cons transfer rest ih =>
    have load : (Errand.load transfer.cartridge).request.isRead = false := Errand.isRead_request _
    rw [Transfer.errands, List.map_append, List.countP_append, List.map_cons, List.countP_cons,
      List.countP_cons, ih, Errand.isRead_request]
    split
    · exact Nat.zero_add _
    · rw [List.map_singleton, List.countP_singleton, load]
      exact Nat.zero_add _

/-- One frame is asked for with each fetch, and none otherwise. -/
theorem countP_isRead_transfers (fetched : List FrameLocation) (pieces : List (FrameLocation × Bytes))
    (active : Option UInt16) :
    ((Transfer.errands active (fetched.map .fetch ++
      pieces.map fun piece => .store piece.1 piece.2)).map Errand.request).countP Request.isRead =
        fetched.length := by
  rw [countP_isRead_errands, List.countP_append, List.countP_map, List.countP_map]
  have asked : fetched.countP ((fun transfer : Transfer => transfer.errand.command == .rdfrme) ∘
      Transfer.fetch) = fetched.length := List.countP_eq_length.mpr fun _ _ => rfl
  have stored : pieces.countP ((fun transfer : Transfer => transfer.errand.command == .rdfrme) ∘
      fun piece => Transfer.store piece.1 piece.2) = 0 :=
    List.countP_eq_zero.mpr fun _ _ => Bool.false_ne_true
  rw [asked, stored, Nat.add_zero]

namespace Storage

section Moves

variable {σ : Type} {turns : List (Turn σ)} {before after : Storage σ}

/-- A call during a session makes some transfers, each with the loads it needs. First it fetches frames,
and each of these is one that the cache has missed; then it stores frames. -/
structure Moves (turns : List (Turn σ)) (before after : Storage σ) : Prop where
  power : after.poweredOn = before.poweredOn
  transfers : ∀ cache, before.cache = some cache →
    ∃ (fetched : List FrameLocation) (pieces : List (FrameLocation × Bytes)) (later : FrameCache),
      Makes (fetched.map .fetch ++ pieces.map fun piece => .store piece.1 piece.2) turns before
          after ∧
        after.cache = some later ∧ later.misses = cache.misses + fetched.length

/-- A call that reads and writes nothing may still have the cache forget frames. -/
theorem Moves.none (power : after.poweredOn = before.poweredOn)
    (active : after.active = before.active) (locations : List FrameLocation)
    (cached : after.cache = before.cache.map (·.invalidateAll locations)) :
    Moves [] before after := by
  refine ⟨power, fun cache held => ⟨[], [], cache.invalidateAll locations, .none active, ?_, ?_⟩⟩
  · rw [cached, held]
    rfl
  · exact FrameCache.misses_invalidateAll locations cache

theorem Moves.same (power : after.poweredOn = before.poweredOn)
    (active : after.active = before.active) (cached : after.cache = before.cache) :
    Moves [] before after :=
  .none power active [] (by rw [cached]; exact Option.map_id'.symm)

end Moves

namespace Undisturbed

variable {reference : Reference} {storage : Storage (Recorded Unreliable)}

theorem read_moves (undisturbed : Undisturbed reference storage) (handle : Handle) (wanted : Nat) :
    Moves (readTurns handle wanted storage) storage ((read handle wanted).after storage) := by
  have ending := read_run handle wanted storage
  unfold Operation.after
  generalize run : Storage.read handle wanted storage = result at ending
  cases ending with
  | off off =>
    rw [Settled.readTurns_nil fun _ _ => Or.inl off]
    exact .same rfl rfl rfl
  | invalid on absent =>
    rw [Settled.readTurns_nil fun file present => by cases absent.symm.trans present]
    exact .same rfl rfl rfl
  | nothing on present none =>
    rw [Settled.readTurns_nil fun _ _ => Or.inr (Or.inl none)]
    exact .same rfl rfl rfl
  | atEnd on present some ended =>
    rw [Settled.readTurns_nil fun other found => by
      cases present.symm.trans found
      exact Or.inr (Or.inr ended)]
    exact .same rfl rfl rfl
  | unread on present some more failed =>
    obtain ⟨_, _, success⟩ := undisturbed.reads on present some more
    cases run.symm.trans success
  | done on present some more read =>
    refine ⟨?_, fun cache held => ?_⟩
    · obtain ⟨transport, active, cache, rfl⟩ := readFrames_leaves read
      rfl
    · obtain ⟨made, left⟩ := undisturbed.read_makes held on present some more read
      refine ⟨_, [], _, ?_, left, FrameCache.misses_readThroughAll _ _⟩
      rw [List.map_nil, List.append_nil]
      exact ⟨made.errands, made.active⟩

theorem readToEnd_moves (undisturbed : Undisturbed reference storage) (handle : Handle) :
    Moves (readToEndTurns handle storage) storage ((readToEnd handle).after storage) := by
  have reading := undisturbed.read_moves handle
  unfold Operation.after at reading ⊢
  rw [readToEnd_eq]
  unfold readToEndTurns
  cases present : storage.files.get? handle with
  | none =>
    by_cases on : storage.poweredOn = true
    · rw [if_pos on]
      exact .same rfl rfl rfl
    · rw [if_neg on]
      exact .same rfl rfl rfl
  | some file =>
    dsimp only
    by_cases on : storage.poweredOn = true
    · rw [if_pos on]
      by_cases atEnd : file.length - file.position = 0
      · rw [if_pos atEnd, Settled.readTurns_nil fun _ _ => Or.inr (Or.inl atEnd)]
        exact .same rfl rfl rfl
      · rw [if_neg atEnd]
        exact reading _
    · rw [if_neg on, Settled.readTurns_nil fun _ _ => Or.inl (Bool.eq_false_iff.mpr on)]
      exact .same rfl rfl rfl

theorem write_moves (undisturbed : Undisturbed reference storage) (handle : Handle) (data : Bytes) :
    Moves (writeTurns handle data storage) storage ((write handle data).after storage) := by
  have ending := undisturbed.sound.write_run handle data
  unfold Operation.after
  generalize run : Storage.write handle data storage = result at ending
  cases ending with
  | off off =>
    rw [Settled.writeTurns_nil fun _ _ => Or.inl off]
    exact .same rfl rfl rfl
  | invalid on absent =>
    rw [Settled.writeTurns_nil fun file present => by cases absent.symm.trans present]
    exact .same rfl rfl rfl
  | nothing on present empty =>
    rw [Settled.writeTurns_nil fun _ _ => Or.inr (Or.inl empty)]
    exact .same rfl rfl rfl
  | full on present nonempty grows few =>
    rw [Settled.writeTurns_nil fun other found => by
      cases present.symm.trans found
      exact Or.inr (Or.inr ⟨grows, few⟩)]
    exact .same rfl rfl rfl
  | unread starts failed =>
    obtain ⟨_, _, success⟩ := undisturbed.writes starts
    cases run.symm.trans success
  | unstored starts read failed =>
    obtain ⟨_, _, success⟩ := undisturbed.writes starts
    cases run.symm.trans success
  | stored starts read placed =>
    refine ⟨?_, fun cache held => ?_⟩
    · obtain ⟨_, _, _, _, _, transport, active, cache, _, rfl⟩ :=
        undisturbed.sound.rewritten starts read placed
      rfl
    · obtain ⟨_, _, made, left⟩ := undisturbed.write_makes held starts read placed
      refine ⟨_, _, _, ⟨made.errands, made.active⟩, congrArg (Option.map _) left, ?_⟩
      rw [FrameCache.misses_invalidateAll, FrameCache.misses_putAll,
        FrameCache.misses_readThroughAll]

theorem respond_moves (undisturbed : Undisturbed reference storage) {call : Call}
    (session : call ≠ .powerOn ∧ call ≠ .powerOff) :
    Moves (turns call storage) storage (Storage.respond call storage).2 := by
  have discarding {α : Type} {turns : List (Turn (Recorded Unreliable))}
      (operation : Operation (Recorded Unreliable) α) (function : α → Reply)
      (moves : Moves turns storage (operation.after storage)) :
      Moves turns storage
        ((do return function (← operation) : Operation _ Reply).after storage) := by
    rwa [Operation.after_bind_pure]
  rw [respond_snd]
  cases call with
  | powerOn => exact absurd rfl session.1
  | powerOff => exact absurd rfl session.2
  | openFile name =>
    refine discarding _ _ ?_
    obtain ⟨files, same⟩ := @openFile_after _ storage name
    rw [same]
    exact .same rfl rfl rfl
  | closeFile handle =>
    refine discarding _ _ ?_
    obtain ⟨files, table, locations, same⟩ := @closeFile_after _ storage handle
    rw [same]
    exact .none rfl rfl locations rfl
  | read handle wanted => exact discarding _ _ (undisturbed.read_moves handle wanted)
  | readToEnd handle => exact discarding _ _ (undisturbed.readToEnd_moves handle)
  | write handle data => exact discarding _ _ (undisturbed.write_moves handle data)
  | seek handle offset =>
    refine discarding _ _ ?_
    obtain ⟨files, same⟩ := @seek_after _ storage handle offset
    rw [same]
    exact .same rfl rfl rfl
  | info handle =>
    refine discarding _ _ ?_
    rw [info_after]
    exact .same rfl rfl rfl
  | lookup name => exact .same rfl rfl rfl
  | openFiles => exact .same rfl rfl rfl
  | stats => exact .same rfl rfl rfl
  | setCacheFrames frames =>
    refine discarding _ _ ?_
    rcases @setCacheFrames_after _ storage frames with same | ⟨_, same⟩
    · rw [same]
      exact .same rfl rfl rfl
    · rw [same]
      exact .same rfl rfl rfl

end Undisturbed

section Active

variable {σ : Type} [Transport σ] {storage next : Storage σ}

theorem zeroCartridge_active {cartridge : UInt16}
    (run : zeroCartridge cartridge storage = .ok () next) : next.active = some cartridge := by
  rw [zeroCartridge_eq] at run
  cases load : loadCartridge cartridge storage with
  | error fault last =>
    rw [load] at run
    cases run
  | ok done loaded =>
    obtain ⟨transport, rfl⟩ := loadCartridge_ok load
    rw [load] at run
    dsimp only at run
    split at run
    · cases run
    · rename_i zeroed
      cases run
      obtain ⟨transport, rfl⟩ := execute_ok zeroed
      rfl

/-- Once a cartridge is zeroed, there is an active one. -/
theorem zeroAll_active {cartridges : List Nat}
    (run : (cartridges.forM fun cartridge => zeroCartridge (.ofNat cartridge)) storage = .ok () next)
    (some : storage.active.isSome = true ∨ cartridges ≠ []) : next.active.isSome = true := by
  induction cartridges generalizing storage with
  | nil =>
    cases run
    exact some.resolve_right (not_not_intro rfl)
  | cons cartridge rest ih =>
    rw [Operation.forM_cons_apply] at run
    cases first : zeroCartridge (.ofNat cartridge) storage with
    | error fault last =>
      rw [first] at run
      cases run
    | ok done middle =>
      rw [first] at run
      exact ih run (Or.inl (by rw [zeroCartridge_active first]; rfl))

theorem initializeDevice_active (valid : storage.config.geometry.Valid)
    (run : initializeDevice storage = .ok () next) : next.active.isSome = true := by
  rw [initializeDevice_eq] at run
  cases sent : execute .initms 0 0 none storage with
  | error fault last =>
    rw [sent] at run
    cases run
  | ok answer begun =>
    obtain ⟨transport, rfl⟩ := execute_ok sent
    rw [sent] at run
    refine zeroAll_active run (Or.inr fun none => ?_)
    have count := congrArg List.length none
    rw [List.length_range] at count
    exact Nat.ne_of_gt valid.cartridges_pos count

/-- While the storage is on, it has a cartridge active. -/
def Loaded {σ : Type} (storage : Storage σ) : Prop :=
  storage.poweredOn = true → storage.active.isSome = true

omit [Transport σ] in
theorem Makes.loaded {transfers : List Transfer} {turns : List (Turn σ)}
    (made : Makes transfers turns storage next) (some : storage.active.isSome = true) :
    next.active.isSome = true := by
  rw [made.active, Transfer.arrival, Option.isSome_or, some, Bool.or_true]

theorem powerOn_loaded (sound : storage.Sound) (start : storage.Loaded) :
    (powerOn.after storage).Loaded := by
  have ending := powerOn_run storage
  unfold Operation.after
  generalize Storage.powerOn storage = result at ending
  cases ending with
  | already on => exact start
  | unsized off refused => exact start
  | failed off made run =>
    obtain ⟨transport, active, same⟩ :=
      @initializeDevice_after σ _ { storage.cleared with cache := some _ }
    obtain rfl := (Operation.after_of_error run).symm.trans same
    exact fun on => Bool.noConfusion (off.symm.trans on)
  | started off made run =>
    have some := initializeDevice_active (by exact sound.valid) run
    exact fun _ => some

theorem powerOff_loaded (sound : storage.Sound) (start : storage.Loaded) :
    (powerOff.after storage).Loaded := by
  by_cases on : storage.poweredOn = true
  · have left := respond_powerOff sound on
    rw [respond_snd, perform, Operation.after_bind_pure] at left
    rw [left]
    exact fun on => absurd on Bool.false_ne_true
  · unfold Operation.after
    rw [powerOff_eq, if_neg on]
    exact start

end Active

theorem Undisturbed.respond_loaded {reference : Reference}
    {storage : Storage (Recorded Unreliable)} (undisturbed : Undisturbed reference storage)
    (start : storage.Loaded) (call : Call) : (Storage.respond call storage).2.Loaded := by
  have sound := undisturbed.sound
  by_cases starting : call = .powerOn
  · subst starting
    rw [respond_snd, perform, Operation.after_bind_pure]
    exact powerOn_loaded sound start
  by_cases ending : call = .powerOff
  · subst ending
    rw [respond_snd, perform, Operation.after_bind_pure]
    exact powerOff_loaded sound start
  obtain ⟨power, transfers⟩ := undisturbed.respond_moves ⟨starting, ending⟩
  intro on
  rw [power] at on
  obtain ⟨cache, held⟩ := sound.cache_of_on on
  obtain ⟨_, _, _, made, _⟩ := transfers cache held
  exact made.loaded (start on)

theorem Reached.loaded {storage : Storage (Recorded Unreliable)}
    (reached : Reached Recorded.Clear (fun _ _ => False) storage) : storage.Loaded := by
  induction reached with
  | created clear made =>
    obtain ⟨_, rfl⟩ := create_eq_ok_iff.mp made
    exact fun on => absurd on Bool.false_ne_true
  | called call reached start =>
    obtain ⟨reference, undisturbed⟩ := reached.undisturbed
    exact undisturbed.respond_loaded start call
  | meddled _ never _ => exact never.elim

namespace Undisturbed

variable {reference : Reference} {storage : Storage (Recorded Unreliable)} {cache : FrameCache}

/-- During a session, a call misses as many frames as it asks for. -/
theorem respond_tallies (undisturbed : Undisturbed reference storage)
    (held : storage.cache = some cache) {call : Call} (further : call ≠ .powerOff) :
    ∃ later, (Storage.respond call storage).2.cache = some later ∧ later.misses = cache.misses +
      (((turns call storage).map Turn.errand).map Errand.request).countP Request.isRead := by
  by_cases again : call = .powerOn
  · subst again
    have on : storage.poweredOn = true := by
      rw [undisturbed.sound.power, held]
      rfl
    have silent : turns .powerOn storage = [] := if_pos on
    rw [respond_snd, perform, Operation.after_bind_pure, silent]
    unfold Operation.after
    rw [powerOn_eq, if_pos on]
    exact ⟨cache, held, rfl⟩
  · obtain ⟨_, _, later, made, left, count⟩ :=
      (undisturbed.respond_moves ⟨again, further⟩).transfers cache held
    refine ⟨later, left, ?_⟩
    rw [made.errands, countP_isRead_transfers, count]

/-- Up to the end of a session, there is one miss for each frame that is asked for. -/
theorem respondAll_tallies (undisturbed : Undisturbed reference storage)
    (held : storage.cache = some cache) {calls : List Call} (further : .powerOff ∉ calls) :
    ∃ later sent, (respondAll calls storage).2.cache = some later ∧
      (respondAll calls storage).2.transport.requests = storage.transport.requests ++ sent ∧
      later.misses = cache.misses + sent.countP Request.isRead := by
  induction calls generalizing reference storage cache with
  | nil => exact ⟨cache, [], held, (List.append_nil _).symm, rfl⟩
  | cons call rest ih =>
    rw [List.mem_cons, not_or] at further
    obtain ⟨apart, others⟩ := further
    obtain ⟨middle, kept, first⟩ := undisturbed.respond_tallies held (Ne.symm apart)
    obtain ⟨later, sent, left, requests, count⟩ := ih (undisturbed.respond call).2 kept others
    rw [undisturbed.requests_respond call, List.append_assoc] at requests
    refine ⟨later, _, left, requests, ?_⟩
    rw [count, first, List.countP_append, Nat.add_assoc]

end Undisturbed

section Start

variable {σ α β : Type} {property : Turn σ → Prop}

/-- What holds of the turns of each step holds of the turns of a loop. -/
theorem forall_eachTurns {turns : α → Storage σ → List (Turn σ)} {step : α → Operation σ β}
    (one : ∀ item storage, ∀ turn ∈ turns item storage, property turn) (items : List α)
    (storage : Storage σ) : ∀ turn ∈ eachTurns turns step items storage, property turn := by
  induction items generalizing storage with
  | nil => nofun
  | cons item rest ih =>
    intro turn member
    unfold eachTurns at member
    rcases List.mem_append.mp member with first | later
    · exact one item storage turn first
    · cases run : step item storage with
      | error fault next =>
        rw [run] at later
        cases later
      | ok value next =>
        rw [run] at later
        exact ih next turn later

/-- Power-on reads no frame. -/
theorem powerOnTurns_command [Transport σ] (storage : Storage σ) :
    ∀ turn ∈ powerOnTurns storage, turn.errand.command ≠ .rdfrme := by
  have visiting (cartridge : Nat) (storage : Storage σ) :
      ∀ turn ∈ visitTurns (.ofNat cartridge) (.zero (.ofNat cartridge)) storage,
        turn.errand.command ≠ .rdfrme := by
    intro turn member
    unfold visitTurns loadTurns at member
    rcases List.mem_append.mp member with load | zero
    · split at load
      · cases load
      · rw [List.mem_singleton.mp load]
        nofun
    · split at zero
      · rw [List.mem_singleton.mp zero]
        nofun
      · cases zero
  intro turn member
  unfold powerOnTurns initializeTurns at member
  split at member
  · cases member
  · split at member
    · cases member
    · rcases List.mem_cons.mp member with rfl | later
      · nofun
      · split at later
        · cases later
        · exact forall_eachTurns visiting _ _ turn later

end Start

namespace Undisturbed

variable {reference : Reference} {storage : Storage (Recorded Unreliable)}

/-- A session starts with a cache that has missed nothing, and no frame is asked for. -/
theorem powerOn_tallies (undisturbed : Undisturbed reference storage)
    (off : storage.poweredOn = false) :
    ∃ cache, (Storage.respond .powerOn storage).2.cache = some cache ∧ cache.misses = 0 ∧
      (((turns .powerOn storage).map Turn.errand).map Errand.request).countP Request.isRead = 0 := by
  have counted := (undisturbed.respond .powerOn).2.refines.shows.cache
  have started : Reference.respond .powerOn reference = (.ok .done, {
      config := reference.config
      poweredOn := true
      usage := some { capacity := reference.config.cacheFrames } }) := by
    have off : reference.poweredOn = false := undisturbed.refines.power off
    exact if_neg (by rw [off]; exact Bool.false_ne_true)
  rw [started] at counted
  obtain ⟨cache, cached, used⟩ := FrameCache.Used.exists_cache counted
  refine ⟨cache, cached, used.misses, List.countP_eq_zero.mpr fun request member => ?_⟩
  obtain ⟨errand, sent, rfl⟩ := List.mem_map.mp member
  obtain ⟨turn, taken, rfl⟩ := List.mem_map.mp sent
  rw [Errand.isRead_request, beq_iff_eq]
  exact powerOnTurns_command storage turn taken

end Undisturbed

variable {storage : Storage (Recorded Unreliable)}

/-- As long as nothing goes wrong, a storage sends no more than it has to. A successful read fetches,
in scan order, the frames it covers that are not cached when it is their turn. A successful write does
so with the frames that it reads back, and then stores each frame of the new content, in scan order.
A cartridge is loaded exactly before a transfer that finds another one active, so that each of these
passes loads no cartridge twice. In a session there is one miss for each frame that is asked for. -/
theorem Reached.economical (reached : Reached Recorded.Clear (fun _ _ => False) storage) :
    (storage.poweredOn = true → ∃ cartridge, storage.active = some cartridge ∧
      storage.transport.device.active = some cartridge) ∧
      (∀ handle wanted reply, 0 < wanted →
        (respond (.read handle wanted) storage).1 = .ok reply →
          ∃ file cache fetched sent, storage.files.get? handle = some file ∧
            storage.cache = some cache ∧
            fetched = cache.missed (storage.transport.device.snapshot
              (covering file storage.frameSize (readable file wanted))) ∧
            Sweep storage.active (fetched.map .fetch) sent ∧
            (respond (.read handle wanted) storage).2.transport.requests =
              storage.transport.requests ++ sent.map Errand.request) ∧
      (∀ handle data reply, data ≠ [] → (respond (.write handle data) storage).1 = .ok reply →
        ∃ file after cache fetched pieces readBack stored, storage.files.get? handle = some file ∧
          (respond (.write handle data) storage).2.files.get? handle = some after ∧
          storage.cache = some cache ∧
          fetched = cache.missed (storage.transport.device.snapshot file.frames) ∧
          pieces = storage.placement file (file.frames.map storage.transport.device.content) data ∧
          pieces.map Prod.fst = after.frames ∧
          pieces.length = framesFor after.length storage.frameSize ∧
          Sweep storage.active (fetched.map .fetch) readBack ∧
          Sweep (Transfer.arrival storage.active (fetched.map .fetch))
            (pieces.map fun piece => .store piece.1 piece.2) stored ∧
          (respond (.write handle data) storage).2.transport.requests =
            storage.transport.requests ++ (readBack ++ stored).map Errand.request) ∧
      (storage.poweredOn = false → ∀ calls, .powerOff ∉ calls →
        ∃ cache sent, (respondAll (.powerOn :: calls) storage).2.cache = some cache ∧
          (respondAll (.powerOn :: calls) storage).2.transport.requests =
            storage.transport.requests ++ sent ∧
          cache.misses = sent.countP Request.isRead) := by
  obtain ⟨reference, undisturbed⟩ := reached.undisturbed
  refine ⟨fun on => ?_, fun handle wanted reply some success => undisturbed.read_sweeps some success,
    fun handle data reply some success => undisturbed.write_sweeps some success,
    fun off calls further => ?_⟩
  · obtain ⟨cartridge, active⟩ := Option.isSome_iff_exists.mp (reached.loaded on)
    exact ⟨cartridge, active, (undisturbed.settled.inStep.loaded cartridge active).2⟩
  · obtain ⟨cache, cached, fresh, silent⟩ := undisturbed.powerOn_tallies off
    obtain ⟨later, sent, left, requests, count⟩ :=
      (undisturbed.respond .powerOn).2.respondAll_tallies cached further
    rw [undisturbed.requests_respond .powerOn, List.append_assoc] at requests
    refine ⟨later, _, left, requests, ?_⟩
    rw [count, fresh, List.countP_append, silent]

/-- Three frames on two cartridges, with a cache of two. -/
def threeFrames : Storage (Recorded Unreliable) :=
  (respondAll [.powerOn, .openFile "a", .write ⟨0⟩ [1, 2, 3, 4, 5, 6, 7, 8, 9], .seek ⟨0⟩ 0] {
    config := { geometry := ⟨2, 2, 4⟩, cacheFrames := 2 }
    transport := { transport := { device := { geometry := ⟨2, 2, 4⟩ } } }
    table := Ownership.ofGeometry ⟨2, 2, 4⟩ }).2

/-- The last two frames are cached, but fetching the first drives out the second, and fetching that the
third. -/
theorem Reached.economical_evicting :
    ∃ sent, (respond (.read ⟨0⟩ 9) threeFrames).2.transport.requests =
        threeFrames.transport.requests ++ sent.map Errand.request ∧
      Sweep (some 1) [.fetch ⟨0, 0⟩, .fetch ⟨0, 1⟩, .fetch ⟨1, 0⟩] sent ∧
      sent.filterMap Errand.loaded? = [0, 1] := by
  have clear : Recorded.Clear { geometry := ⟨2, 2, 4⟩, cacheFrames := 2 }
      { transport := { device := { geometry := ⟨2, 2, 4⟩ } } } :=
    ⟨⟨rfl, .created _⟩, rfl, nofun⟩
  have reached : Reached Recorded.Clear (fun _ _ => False) threeFrames :=
    Reached.all (.created clear (create_eq_ok_iff.mpr ⟨rfl, rfl⟩)) _
  have success : (respond (.read ⟨0⟩ 9) threeFrames).1 = .ok (.bytes [1, 2, 3, 4, 5, 6, 7, 8, 9]) := by
    cbv
  obtain ⟨file, cache, fetched, sent, present, held, rfl, sweep, requests⟩ :=
    reached.economical.2.1 _ _ _ (by decide) success
  have missed : (threeFrames.cache.bind fun cache => (threeFrames.files.get? ⟨0⟩).map fun file =>
      cache.missed (threeFrames.transport.device.snapshot
        (covering file threeFrames.frameSize (readable file 9)))) =
      some [⟨0, 0⟩, ⟨0, 1⟩, ⟨1, 0⟩] := by cbv
  rw [held, present, Option.bind_some, Option.map_some, Option.some.injEq] at missed
  have active : threeFrames.active = some 1 := by cbv
  rw [missed, active] at sweep
  refine ⟨sent, requests, sweep, ?_⟩
  rw [sweep.errands]
  rfl

end Storage

end CartridgeBank
