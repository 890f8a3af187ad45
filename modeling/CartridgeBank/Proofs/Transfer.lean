import CartridgeBank.Proofs.FrameCache
import CartridgeBank.Proofs.Operation
import CartridgeBank.Proofs.Ownership
import CartridgeBank.Proofs.Registry

namespace CartridgeBank

/-- The transport after a request, however it ends. -/
def Transport.after {σ : Type} [Transport σ] (opcode : Opcode) (frame : Option Bytes)
    (transport : σ) : σ :=
  match Transport.send opcode frame transport with
  | .ok _ next => next
  | .error _ next => next

namespace Storage

variable {σ : Type} {storage next : Storage σ}

variable [Transport σ] {location : FrameLocation} {frame : Bytes} {fault : Fault}

theorem execute_eq (command : Command) (cartridge index : UInt16) (payload : Option Bytes) :
    execute command cartridge index payload storage =
      match Transport.send (Opcode.request command cartridge index) payload storage.transport with
      | .ok answer transport =>
        if answer.opcode.field .ky1 ≠ command.number then
          .error (.unexpectedAnswer command answer.opcode) { storage with transport }
        else if answer.opcode.isSuccess then .ok answer { storage with transport }
        else .error (.deviceFailure command answer.opcode) { storage with transport }
      | .error fault transport => .error fault { storage with transport } := by
  simp only [execute, Operation.bind_apply, send]
  cases Transport.send (Opcode.request command cartridge index) payload storage.transport with
  | error fault transport => rfl
  | ok answer transport =>
    by_cases echoed : answer.opcode.field .ky1 = command.number
    · cases success : answer.opcode.isSuccess <;> simp [echoed, success]
    · simp [echoed]

/-- A request changes nothing but the transport. -/
theorem execute_after_eq (command : Command) (cartridge index : UInt16) (payload : Option Bytes)
    (storage : Storage σ) :
    (execute command cartridge index payload).after storage = { storage with
      transport := Transport.after (Opcode.request command cartridge index) payload
        storage.transport } := by
  unfold Operation.after Transport.after
  rw [execute_eq]
  cases Transport.send (Opcode.request command cartridge index) payload storage.transport with
  | error fault transport => rfl
  | ok answer transport =>
    by_cases echoed : answer.opcode.field .ky1 = command.number
    · cases success : answer.opcode.isSuccess <;> simp [echoed, success]
    · simp [echoed]

theorem execute_after (command : Command) (cartridge index : UInt16) (payload : Option Bytes) :
    ∃ transport, (execute command cartridge index payload).after storage =
      { storage with transport } :=
  ⟨_, execute_after_eq command cartridge index payload storage⟩

theorem execute_ok {command : Command} {cartridge index : UInt16} {payload : Option Bytes}
    {answer : Answer} (run : execute command cartridge index payload storage = .ok answer next) :
    ∃ transport, next = { storage with transport } := by
  rw [← Operation.after_of_ok run]
  exact execute_after command cartridge index payload

theorem execute_error {command : Command} {cartridge index : UInt16} {payload : Option Bytes}
    (run : execute command cartridge index payload storage = .error fault next) :
    ∃ transport, next = { storage with transport } := by
  rw [← Operation.after_of_error run]
  exact execute_after command cartridge index payload

theorem loadCartridge_eq (cartridge : UInt16) :
    loadCartridge cartridge storage =
      if storage.active = some cartridge then .ok () storage
      else
        match execute .ldcart cartridge 0 none { storage with active := none } with
        | .ok _ next => .ok () { next with active := some cartridge }
        | .error fault next => .error fault next := by
  simp only [loadCartridge, Operation.bind_apply, Operation.get_apply, Operation.ite_apply,
    Operation.pure_apply, Operation.modify_apply]
  split
  · rfl
  · cases execute .ldcart cartridge 0 none { storage with active := none } <;> rfl

theorem loadCartridge_ok {cartridge : UInt16}
    (run : loadCartridge cartridge storage = .ok () next) :
    ∃ transport, next = { storage with transport, active := some cartridge } := by
  rw [loadCartridge_eq] at run
  split at run
  · rename_i loaded
    cases run
    exact ⟨storage.transport, by rw [← loaded]⟩
  · split at run
    · rename_i answer after sent
      cases run
      obtain ⟨transport, rfl⟩ := execute_ok sent
      exact ⟨transport, rfl⟩
    · cases run

theorem loadCartridge_error {cartridge : UInt16}
    (run : loadCartridge cartridge storage = .error fault next) :
    ∃ transport, next = { storage with transport, active := none } := by
  rw [loadCartridge_eq] at run
  split at run
  · cases run
  · split at run
    · cases run
    · rename_i failure after sent
      cases run
      obtain ⟨transport, rfl⟩ := execute_error sent
      exact ⟨transport, rfl⟩

theorem fetchFrame_eq (location : FrameLocation) :
    fetchFrame location storage =
      match loadCartridge location.cartridge storage with
      | .error fault next => .error fault next
      | .ok () loaded =>
        match execute .rdfrme 0 location.frame none loaded with
        | .error fault next => .error fault next
        | .ok answer next =>
          if (answer.frame.getD []).length = next.frameSize then
            .ok (answer.frame.getD [])
              { next with cache := next.cache.map (·.put location (answer.frame.getD [])) }
          else .error (.unexpectedPayload next.frameSize (answer.frame.getD []).length) next := by
  simp only [fetchFrame, Operation.bind_apply, Operation.get_apply, Operation.ite_apply]
  cases loadCartridge location.cartridge storage with
  | error fault next => rfl
  | ok value loaded =>
    dsimp only
    cases execute .rdfrme 0 location.frame none loaded with
    | error fault next => rfl
    | ok answer next =>
      by_cases full : (answer.frame.getD []).length = next.frameSize <;> simp [full]

theorem fetchFrame_ok (run : fetchFrame location storage = .ok frame next) :
    frame.length = storage.frameSize ∧
      ∃ transport, next = { storage with
        transport
        active := some location.cartridge
        cache := storage.cache.map (·.put location frame) } := by
  rw [fetchFrame_eq] at run
  split at run
  · cases run
  · rename_i loaded load
    obtain ⟨first, rfl⟩ := loadCartridge_ok load
    split at run
    · cases run
    · rename_i answer after sent
      obtain ⟨second, rfl⟩ := execute_ok sent
      split at run
      · rename_i full
        cases run
        exact ⟨full, second, rfl⟩
      · cases run

theorem fetchFrame_error (run : fetchFrame location storage = .error fault next) :
    ∃ transport active, next = { storage with transport, active } := by
  rw [fetchFrame_eq] at run
  split at run
  · rename_i failure after load
    cases run
    obtain ⟨transport, rfl⟩ := loadCartridge_error load
    exact ⟨transport, none, rfl⟩
  · rename_i loaded load
    obtain ⟨first, rfl⟩ := loadCartridge_ok load
    split at run
    · rename_i failure after sent
      cases run
      obtain ⟨second, rfl⟩ := execute_error sent
      exact ⟨second, some location.cartridge, rfl⟩
    · rename_i answer after sent
      obtain ⟨second, rfl⟩ := execute_ok sent
      split at run
      · cases run
      · cases run
        exact ⟨second, some location.cartridge, rfl⟩

theorem readFrame_eq (location : FrameLocation) {cache : FrameCache}
    (on : storage.cache = some cache) :
    readFrame location storage =
      match cache.get location with
      | (some frame, cache) => .ok frame { storage with cache := some cache }
      | (none, cache) => fetchFrame location { storage with cache := some cache } := by
  simp only [readFrame, Operation.bind_apply, cached?, on]
  cases cache.get location with
  | mk found cache => cases found <;> rfl

theorem readFrame_uncached (location : FrameLocation) (off : storage.cache = none) :
    readFrame location storage = fetchFrame location storage := by
  simp [readFrame, cached?, off]

/-- A frame that was read has gone through the cache; one that was cached is what was cached. -/
theorem readFrame_ok {cache : FrameCache} (on : storage.cache = some cache)
    (run : readFrame location storage = .ok frame next) :
    (cache.frame? location = some frame ∨
        cache.frame? location = none ∧ frame.length = storage.frameSize) ∧
      ∃ transport active, next = { storage with
        transport, active, cache := some (cache.readThrough location frame) } := by
  rw [readFrame_eq location on] at run
  rw [← FrameCache.get_fst]
  unfold FrameCache.readThrough
  split at run
  · rename_i held cached looked
    cases run
    rw [looked]
    exact ⟨Or.inl rfl, storage.transport, storage.active, rfl⟩
  · rename_i cached looked
    obtain ⟨full, transport, rfl⟩ := fetchFrame_ok run
    rw [looked]
    exact ⟨Or.inr ⟨rfl, full⟩, transport, some location.cartridge, rfl⟩

theorem readFrame_error {cache : FrameCache} (on : storage.cache = some cache)
    (run : readFrame location storage = .error fault next) :
    cache.frame? location = none ∧
      ∃ transport active, next = { storage with
        transport, active, cache := some (cache.get location).2 } := by
  rw [readFrame_eq location on] at run
  rw [← FrameCache.get_fst]
  split at run
  · cases run
  · rename_i cached looked
    obtain ⟨transport, active, rfl⟩ := fetchFrame_error run
    rw [looked]
    exact ⟨rfl, transport, active, rfl⟩

theorem writeFrame_eq (location : FrameLocation) (frame : Bytes) :
    writeFrame location frame storage =
      match loadCartridge location.cartridge storage with
      | .error fault next => .error fault next
      | .ok () loaded =>
        match execute .wrfrme 0 location.frame (some frame) loaded with
        | .error fault next => .error fault next
        | .ok _ next => .ok () { next with cache := next.cache.map (·.put location frame) } := by
  simp only [writeFrame, Operation.bind_apply, modifyCache_apply]
  cases loadCartridge location.cartridge storage with
  | error fault next => rfl
  | ok value loaded =>
    dsimp only
    cases execute .wrfrme 0 location.frame (some frame) loaded <;> rfl

theorem writeFrame_ok (run : writeFrame location frame storage = .ok () next) :
    ∃ transport, next = { storage with
      transport
      active := some location.cartridge
      cache := storage.cache.map (·.put location frame) } := by
  rw [writeFrame_eq] at run
  split at run
  · cases run
  · rename_i loaded load
    obtain ⟨first, rfl⟩ := loadCartridge_ok load
    split at run
    · cases run
    · rename_i answer after sent
      obtain ⟨second, rfl⟩ := execute_ok sent
      cases run
      exact ⟨second, rfl⟩

theorem writeFrame_error (run : writeFrame location frame storage = .error fault next) :
    ∃ transport active, next = { storage with transport, active } := by
  rw [writeFrame_eq] at run
  split at run
  · rename_i failure after load
    cases run
    obtain ⟨transport, rfl⟩ := loadCartridge_error load
    exact ⟨transport, none, rfl⟩
  · rename_i loaded load
    obtain ⟨first, rfl⟩ := loadCartridge_ok load
    split at run
    · rename_i failure after sent
      cases run
      obtain ⟨second, rfl⟩ := execute_error sent
      exact ⟨second, some location.cartridge, rfl⟩
    · cases run

/-- Reading a frame changes nothing but the transport, the loaded cartridge and the cache. -/
theorem readFrame_after (location : FrameLocation) :
    ∃ transport active cache, (readFrame location).after storage =
      { storage with transport, active, cache } := by
  cases on : storage.cache with
  | none =>
    have uncached := readFrame_uncached location on
    cases run : fetchFrame location storage with
    | ok frame next =>
      obtain ⟨_, transport, rfl⟩ := fetchFrame_ok run
      exact ⟨transport, _, _, Operation.after_of_ok (uncached.trans run)⟩
    | error fault next =>
      obtain ⟨transport, active, rfl⟩ := fetchFrame_error run
      exact ⟨transport, active, _, Operation.after_of_error (uncached.trans run)⟩
  | some cache =>
    cases run : readFrame location storage with
    | ok frame next =>
      obtain ⟨_, transport, active, rfl⟩ := readFrame_ok on run
      exact ⟨transport, active, _, Operation.after_of_ok run⟩
    | error fault next =>
      obtain ⟨_, transport, active, rfl⟩ := readFrame_error on run
      exact ⟨transport, active, _, Operation.after_of_error run⟩

section Frames

variable {cache : FrameCache} {capacity : Nat} {property : FrameLocation → Bytes → Prop}
  {locations : List FrameLocation}

theorem readFrames_cons (location : FrameLocation) (rest : List FrameLocation) :
    readFrames (location :: rest) storage =
      match readFrame location storage with
      | .error fault next => .error fault next
      | .ok frame next =>
        match readFrames rest next with
        | .error fault last => .error fault last
        | .ok frames last => .ok (frame :: frames) last := by
  simp only [readFrames, Operation.bind_apply, Operation.pure_apply]
  cases readFrame location storage with
  | error fault next => rfl
  | ok frame next =>
    dsimp only
    cases readFrames rest next <;> rfl

theorem readFrames_after (locations : List FrameLocation) :
    ∃ transport active cache, (readFrames locations).after storage =
      { storage with transport, active, cache } := by
  induction locations generalizing storage with
  | nil => exact ⟨storage.transport, storage.active, storage.cache, rfl⟩
  | cons location rest ih =>
    obtain ⟨transport, active, cache, first⟩ := @readFrame_after σ storage _ location
    cases run : readFrame location storage with
    | error fault next =>
      obtain rfl := (Operation.after_of_error run).symm.trans first
      exact ⟨transport, active, cache, Operation.after_of_error (by rw [readFrames_cons, run])⟩
    | ok frame next =>
      obtain rfl := (Operation.after_of_ok run).symm.trans first
      obtain ⟨lastTransport, lastActive, lastCache, last⟩ :=
        @ih { storage with transport, active, cache }
      refine ⟨lastTransport, lastActive, lastCache, Eq.trans ?_ last⟩
      cases tail : readFrames rest { storage with transport, active, cache } with
      | error fault next =>
        have whole : readFrames (location :: rest) storage = .error fault next := by
          rw [readFrames_cons, run]
          simp only [tail]
        rw [Operation.after_of_error tail, Operation.after_of_error whole]
      | ok frames next =>
        have whole : readFrames (location :: rest) storage = .ok (frame :: frames) next := by
          rw [readFrames_cons, run]
          simp only [tail]
        rw [Operation.after_of_ok tail, Operation.after_of_ok whole]

/-- Frames that are read change no more than the transport, the cache and what is loaded. -/
theorem readFrames_leaves {frames : List Bytes}
    (read : readFrames locations storage = .ok frames next) :
    ∃ transport active cache, next = { storage with transport, active, cache } := by
  obtain ⟨transport, active, cache, same⟩ := @readFrames_after σ storage _ locations
  exact ⟨transport, active, cache, (Operation.after_of_ok read).symm.trans same⟩

/-- Nor do frames of which one cannot be read. -/
theorem readFrames_leaves_error (failed : readFrames locations storage = .error fault next) :
    ∃ transport active cache, next = { storage with transport, active, cache } := by
  obtain ⟨transport, active, cache, same⟩ := @readFrames_after σ storage _ locations
  exact ⟨transport, active, cache, (Operation.after_of_error failed).symm.trans same⟩

theorem readFrames_ok {frames : List Bytes} (on : storage.cache = some cache)
    (keeps : cache.Keeps capacity property)
    (fetched : ∀ location ∈ locations, ∀ frame, frame.length = storage.frameSize →
      property location frame)
    (run : readFrames locations storage = .ok frames next) :
    frames.length = locations.length ∧
      (∀ piece ∈ locations.zip frames, property piece.1 piece.2) ∧
      ∃ transport active, next = { storage with
        transport, active, cache := some (cache.readThroughAll (locations.zip frames)) } := by
  induction locations generalizing storage cache frames with
  | nil =>
    cases run
    exact ⟨rfl, by simp, next.transport, next.active, by simp [FrameCache.readThroughAll, ← on]⟩
  | cons location rest ih =>
    rw [readFrames_cons] at run
    split at run
    · cases run
    · rename_i frame middle read
      split at run
      · cases run
      · rename_i others last readRest
        cases run
        obtain ⟨value, transport, active, rfl⟩ := readFrame_ok on read
        have first : property location frame := by
          rcases value with cached | ⟨_, full⟩
          · exact keeps.frames location frame cached
          · exact fetched location List.mem_cons_self frame full
        obtain ⟨count, values, final, lastActive, rfl⟩ := ih rfl (keeps.readThrough first)
          (by exact fun other member => fetched other (List.mem_cons_of_mem _ member)) readRest
        refine ⟨by rw [List.length_cons, List.length_cons, count], ?_, final, lastActive, rfl⟩
        simpa [first] using values

/-- As long as only whole frames are cached, only whole frames are read. -/
theorem readFrames_full {frames : List Bytes} (on : storage.cache = some cache)
    (keeps : cache.Keeps capacity fun _ frame => frame.length = storage.frameSize)
    (run : readFrames locations storage = .ok frames next) :
    frames.length = locations.length ∧ ∀ frame ∈ frames, frame.length = storage.frameSize := by
  obtain ⟨count, values, _⟩ := readFrames_ok on keeps (fun _ _ _ full => full) run
  refine ⟨count, fun frame member => ?_⟩
  rw [← List.map_snd_zip (Nat.le_of_eq count)] at member
  obtain ⟨piece, paired, rfl⟩ := List.mem_map.mp member
  exact values piece paired

theorem readFrames_error (on : storage.cache = some cache) (keeps : cache.Keeps capacity property)
    (fetched : ∀ location ∈ locations, ∀ frame, frame.length = storage.frameSize →
      property location frame)
    (run : readFrames locations storage = .error fault next) :
    ∃ transport active after, after.Keeps capacity property ∧
      next = { storage with transport, active, cache := some after } := by
  induction locations generalizing storage cache with
  | nil => cases run
  | cons location rest ih =>
    rw [readFrames_cons] at run
    split at run
    · rename_i failure middle read
      cases run
      obtain ⟨_, transport, active, rfl⟩ := readFrame_error on read
      exact ⟨transport, active, _, keeps.get, rfl⟩
    · rename_i frame middle read
      split at run
      · rename_i failure last readRest
        cases run
        obtain ⟨value, transport, active, rfl⟩ := readFrame_ok on read
        have first : property location frame := by
          rcases value with cached | ⟨_, full⟩
          · exact keeps.frames location frame cached
          · exact fetched location List.mem_cons_self frame full
        obtain ⟨final, lastActive, after, kept, rfl⟩ := ih rfl (keeps.readThrough first)
          (by exact fun other member => fetched other (List.mem_cons_of_mem _ member)) readRest
        exact ⟨final, lastActive, after, kept, rfl⟩
      · cases run

end Frames

end Storage

end CartridgeBank
