import CartridgeBank.Proofs.Acceptance

namespace CartridgeBank

namespace Storage

/-- The device is initialized, and the storage knows which cartridge it has loaded. -/
structure InSession (storage : Storage (Recorded Unreliable)) : Prop where
  inStep : InStep Recorded.device storage
  ready : storage.transport.device.initialized = true

theorem relays : Relays Recorded.device := Recorded.relays Unreliable.relays

namespace InSession

variable {storage : Storage (Recorded Unreliable)} {errand : Errand} {cartridge : UInt16}
  {location : FrameLocation} {frame : Bytes} {α β : Type}

/-- Only the transport, the geometry and the loaded cartridge count. -/
theorem framed (session : storage.InSession) {cache : Option FrameCache} {table : Ownership}
    {files : Registry} : InSession { storage with cache, table, files } :=
  ⟨session.inStep.framed, session.ready⟩

theorem ready_after (session : storage.InSession) (further : errand ≠ .finish) :
    (errand.run.after storage).transport.device.initialized = true := by
  have other : errand.command ≠ .powoff := by
    cases errand <;> first | exact absurd rfl further | exact nofun
  unfold Operation.after Errand.run
  cases sent : execute errand.command errand.cartridge errand.index errand.payload storage with
  | ok answer next =>
    obtain ⟨_, transport, rfl, execution⟩ := execute_relayed relays sent
    exact execution.ready other session.ready
  | error fault next =>
    obtain ⟨transport, answer, rfl, execution⟩ := execute_relayed_error relays sent
    exact execution.ready other session.ready

theorem congr {other : Storage (Recorded Unreliable)} (session : storage.InSession)
    (kin : Kin other storage) : other.InSession := by
  obtain ⟨geometry, transport, active⟩ := kin
  refine ⟨⟨?_, ?_, ?_⟩, ?_⟩
  · rw [geometry, transport]
    exact session.inStep.shape
  · rw [transport]
    exact session.inStep.whole
  · rw [active, transport]
    exact session.inStep.loaded
  · rw [transport]
    exact session.ready

end InSession

/-- Requests that a storage sends during a session. -/
structure Stretch (turns : List (Turn (Recorded Unreliable)))
    (before after : Storage (Recorded Unreliable)) : Prop where
  works : Works turns before after
  session : after.InSession

namespace Stretch

variable {first second : List (Turn (Recorded Unreliable))}
  {before middle after start last : Storage (Recorded Unreliable)}

theorem none (session : before.InSession) (kin : Kin after before) : Stretch [] before after :=
  ⟨.none kin.geometry kin.transport, session.congr kin⟩

theorem trans (earlier : Stretch first before middle) (later : Stretch second middle after) :
    Stretch (first ++ second) before after :=
  ⟨earlier.works.trans later.works, later.session⟩

theorem congr (stretch : Stretch first before after) (starts : Kin start before)
    (ends : Kin last after) : Stretch first start last where
  works := stretch.works.congr starts.geometry starts.transport ends.geometry ends.transport
  session := stretch.session.congr ends

end Stretch

namespace InSession

variable {storage : Storage (Recorded Unreliable)} {errand : Errand} {cartridge : UInt16}
  {location : FrameLocation} {frame : Bytes} {α β : Type}

/-- An errand that is due leaves the session as it is. -/
theorem run (session : storage.InSession) (further : errand ≠ .start ∧ errand ≠ .finish)
    (due : errand.Due storage) : Stretch [⟨errand, storage⟩] storage (errand.run.after storage) := by
  have sound := Errand.sound_of_due session.inStep (fun _ => session.ready) due
  refine ⟨Errand.run_works sound, ?_, session.ready_after further.2⟩
  cases errand with
  | start => exact absurd rfl further.1
  | finish => exact absurd rfl further.2
  | load cartridge =>
    obtain ⟨shape, whole⟩ := execute_shape relays .ldcart cartridge 0 none session.inStep
    unfold Errand.run
    rw [execute_after_eq] at shape whole ⊢
    refine ⟨shape, whole, fun other known => ?_⟩
    cases due.1.symm.trans known
  | zero cartridge => exact bzero_relayed relays session.inStep
  | fetch location => exact (rdfrme_relayed relays session.inStep due.1).1.inStep
  | store location frame =>
    obtain ⟨written, failed⟩ := wrfrme_relayed relays session.inStep due.1 frame
    unfold Operation.after
    cases sent : (Errand.store location frame).run storage with
    | ok answer next => exact (written answer next sent).1
    | error fault next => exact (failed fault next sent).1

theorem load (session : storage.InSession)
    (within : cartridge.toNat < storage.config.geometry.cartridges) :
    Stretch (loadTurns cartridge storage) storage ((loadCartridge cartridge).after storage) := by
  have inStep := (loadCartridge_kept relays session.inStep cartridge).inStep
  unfold loadTurns
  by_cases already : storage.active = some cartridge
  · have same : (loadCartridge cartridge).after storage = storage := by
      unfold Operation.after
      rw [loadCartridge_eq, if_pos already]
    rw [if_pos already, same]
    exact .none session ⟨rfl, rfl, rfl⟩
  · have forgotten : InSession { storage with active := none } :=
      ⟨⟨session.inStep.shape, session.inStep.whole, nofun⟩, session.ready⟩
    obtain ⟨works, after⟩ :=
      @run { storage with active := none } (.load cartridge) forgotten ⟨nofun, nofun⟩ ⟨rfl, within⟩
    have same := loadCartridge_sends already
    rw [if_neg already]
    refine ⟨works.congr rfl rfl same.1 same.2, inStep, ?_⟩
    rw [same.2]
    exact after.ready

/-- An errand to a cartridge is sent once the cartridge is loaded. -/
theorem visit (session : storage.InSession) (errand : Errand)
    (within : cartridge.toNat < storage.config.geometry.cartridges)
    (further : errand ≠ .start ∧ errand ≠ .finish)
    (due : ∀ next : Storage (Recorded Unreliable), next.active = some cartridge →
      next.config = storage.config → errand.Due next) :
    Stretch (visitTurns cartridge errand storage) storage
      ((Storage.visit cartridge errand).after storage) := by
  have loading := session.load within
  unfold visitTurns
  cases load : loadCartridge cartridge storage with
  | error fault next =>
    rw [Operation.after_of_error load] at loading
    have ended : Storage.visit cartridge errand storage = .error fault next := by
      rw [visit_eq, load]
    rw [Operation.after_of_error ended]
    simpa using loading
  | ok done loaded =>
    rw [Operation.after_of_ok load] at loading
    obtain ⟨transport, same⟩ := loadCartridge_ok load
    have ended : (Storage.visit cartridge errand).after storage = errand.run.after loaded := by
      unfold Operation.after
      rw [visit_eq, load]
    rw [ended]
    refine loading.trans (loading.session.run further (due loaded ?_ ?_))
    · rw [same]
    · rw [same]

/-- What holds of one step holds of one step after the other. -/
theorem each {turns : α → Storage (Recorded Unreliable) → List (Turn (Recorded Unreliable))}
    {step : α → Operation (Recorded Unreliable) β} {geometry : Geometry} {items : List α}
    (one : ∀ item ∈ items, ∀ storage : Storage (Recorded Unreliable), storage.InSession →
      storage.config.geometry = geometry →
      Stretch (turns item storage) storage ((step item).after storage))
    (session : storage.InSession) (shape : storage.config.geometry = geometry) :
    Stretch (eachTurns turns step items storage) storage (eachAfter step items storage) := by
  induction items generalizing storage with
  | nil => exact .none session ⟨rfl, rfl, rfl⟩
  | cons item rest ih =>
    have first := one item List.mem_cons_self storage session shape
    have others := fun other member => one other (List.mem_cons_of_mem item member)
    unfold eachTurns eachAfter
    cases ran : step item storage with
    | error fault next =>
      rw [Operation.after_of_error ran] at first
      simpa using first
    | ok value next =>
      rw [Operation.after_of_ok ran] at first
      exact first.trans (ih others first.session (first.works.geometry.trans shape))

theorem within_of_contains {geometry : Geometry}
    (inside : geometry.contains location = true) :
    location.cartridge.toNat < geometry.cartridges := by
  simp only [Geometry.contains, decide_eq_true_eq] at inside
  exact inside.1

theorem zero (session : storage.InSession)
    (within : cartridge.toNat < storage.config.geometry.cartridges) :
    Stretch (visitTurns cartridge (.zero cartridge) storage) storage
      ((zeroCartridge cartridge).after storage) := by
  have visited := session.visit (.zero cartridge) within ⟨nofun, nofun⟩ fun next loaded _ => loaded
  exact visited.congr ⟨rfl, rfl, rfl⟩ (zeroCartridge_kin cartridge storage)

theorem zeroAll (session : storage.InSession) (cartridges : List Nat)
    (within : ∀ cartridge ∈ cartridges, cartridge < storage.config.geometry.cartridges) :
    Stretch
      (eachTurns (fun cartridge => visitTurns (.ofNat cartridge) (.zero (.ofNat cartridge)))
        (fun cartridge => zeroCartridge (.ofNat cartridge)) cartridges storage)
      storage
      (eachAfter (fun cartridge => zeroCartridge (.ofNat cartridge)) cartridges storage) := by
  refine session.each (fun cartridge member storage session shape => session.zero ?_) rfl
  rw [shape, UInt16.toNat_ofNat']
  exact Nat.lt_of_le_of_lt (Nat.mod_le _ _) (within cartridge member)

theorem fetch (session : storage.InSession)
    (inside : storage.config.geometry.contains location = true) :
    Stretch (fetchTurns location storage) storage ((readFrame location).after storage) := by
  obtain ⟨found, cache, looked⟩ := cached?_ok location storage
  have framed : InSession { storage with cache } := session.framed
  unfold fetchTurns Operation.after readFrame
  rw [Operation.bind_apply, looked]
  cases found with
  | some frame => exact .none session ⟨rfl, rfl, rfl⟩
  | none =>
    have visited := framed.visit (.fetch location) (within_of_contains inside) ⟨nofun, nofun⟩
      fun next loaded same => ⟨loaded, same ▸ inside⟩
    exact visited.congr ⟨rfl, rfl, rfl⟩ (fetchFrame_kin location _)

theorem place {handle : Handle} {piece : FrameLocation × Bytes} (session : storage.InSession)
    (inside : storage.config.geometry.contains piece.1 = true)
    (full : piece.2.length = storage.frameSize) :
    Stretch (storeTurns handle piece storage) storage
      ((claimAndWrite handle piece).after storage) := by
  unfold storeTurns Operation.after claimAndWrite
  rw [Operation.bind_apply, claim_eq]
  cases storage.table.claim piece.1 handle with
  | error fault => exact .none session ⟨rfl, rfl, rfl⟩
  | ok table =>
    have framed : InSession { storage with table } := session.framed
    have due (next : Storage (Recorded Unreliable)) (loaded : next.active = some piece.1.cartridge)
        (same : next.config = storage.config) : (Errand.store piece.1 piece.2).Due next := by
      refine ⟨loaded, same ▸ inside, ?_⟩
      rw [full, frameSize, frameSize, same]
    have visited :=
      framed.visit (.store piece.1 piece.2) (within_of_contains inside) ⟨nofun, nofun⟩ due
    exact visited.congr ⟨rfl, rfl, rfl⟩ (writeFrame_kin piece.1 piece.2 _)

end InSession

end Storage

end CartridgeBank
