import CartridgeBank.Proofs.Simulation

namespace CartridgeBank

namespace Storage

variable {reference : Reference} {storage : Storage Device}

namespace Refines

theorem agrees (refines : Refines reference storage) (call : Call) :
    Agrees call reference storage := by
  cases call with
  | powerOn => exact refines.powerOn
  | powerOff => exact refines.powerOff
  | openFile name => exact refines.openFile name
  | closeFile handle => exact refines.closeFile handle
  | read handle wanted => exact refines.read handle wanted
  | readToEnd handle => exact refines.readToEnd handle
  | write handle data => exact refines.write handle data
  | seek handle offset => exact refines.seek handle offset
  | info handle => exact refines.info handle
  | lookup name => exact ⟨congrArg (Except.ok ∘ Reply.found) (refines.lookup? name), refines.shows⟩
  | openFiles => exact ⟨congrArg (Except.ok ∘ Reply.files) refines.infos, refines.shows⟩
  | stats => exact ⟨congrArg (Except.ok ∘ Reply.stats) refines.stats, refines.shows⟩
  | setCacheFrames frames => exact refines.setCacheFrames frames

theorem respond (refines : Refines reference storage) (call : Call) :
    Refines (Reference.respond call reference).2 (respond call storage).2 where
  sound := refines.sound.respond call
  coherent := refines.coherent.respond Device.relays refines.sound call
  shows := (refines.agrees call).shows

theorem respondAll (refines : Refines reference storage) (calls : List Call) :
    (respondAll calls storage).1 = (Reference.respondAll calls reference).1 := by
  induction calls generalizing reference storage with
  | nil => rfl
  | cons call rest ih =>
    exact List.cons_eq_cons.mpr ⟨(refines.agrees call).reply, ih (refines.respond call)⟩

theorem created {config : Config} {device : Device} (passed : config.validate = .ok ())
    (shape : device.geometry = config.geometry) (whole : device.Whole)
    (unarmed : device.faults = {}) :
    Refines { config } { config, transport := device, table := Ownership.ofGeometry config.geometry }
    where
  sound := .created (create_eq_ok_iff.mpr ⟨passed, rfl⟩)
  coherent := .idle shape whole rfl rfl
  shows := {
    config := rfl
    poweredOn := rfl
    slots := rfl
    cache := .none
    contents := fun _ member => by cases List.mem_singleton.mp member
    faults := unarmed
    ready := nofun }

end Refines

/-- Over a device that is to refuse nothing, a storage answers any calls as if its files were byte
strings. -/
theorem answers_as_reference {config : Config} {device : Device}
    (passed : config.validate = .ok ()) (shape : device.geometry = config.geometry)
    (arises : device.Arises) (unarmed : device.faults = {}) :
    ∃ storage, create config device = .ok storage ∧ ∀ calls,
      (respondAll calls storage).1 = (Reference.respondAll calls { config }).1 :=
  ⟨_, create_eq_ok_iff.mpr ⟨passed, rfl⟩,
    (Refines.created passed shape arises.whole unarmed).respondAll⟩

/-- Two of six bytes are overwritten, one on each side of the border between the frames, and the others
stay. With one slot, the frames of the file keep driving each other out of the cache. -/
theorem answers_as_reference_across_frames :
    ∃ storage, create { geometry := ⟨2, 2, 4⟩, cacheFrames := 1 }
        ({ geometry := ⟨2, 2, 4⟩ } : Device) = .ok storage ∧
      (respondAll [.powerOn, .openFile "a", .write ⟨0⟩ [1, 2, 3, 4, 5, 6], .seek ⟨0⟩ 3,
        .write ⟨0⟩ [7, 8], .seek ⟨0⟩ 1, .read ⟨0⟩ 4, .read ⟨0⟩ 9, .read ⟨0⟩ 9, .stats] storage).1 =
          [.ok .done, .ok (.handle ⟨0⟩), .ok (.written 6), .ok .done, .ok (.written 2), .ok .done,
            .ok (.bytes [2, 3, 7, 8]), .ok (.bytes [6]), .error .endOfFile,
            .ok (.stats {
              poweredOn := true, totalFrames := 4, freeFrames := 2, usedFrames := 2, openFiles := 1
              cache := some
                { hits := 1, misses := 4, evictions := 7, occupied := 1, capacity := 1 } })] := by
  obtain ⟨storage, made, answers⟩ :=
    @answers_as_reference { geometry := ⟨2, 2, 4⟩, cacheFrames := 1 } { geometry := ⟨2, 2, 4⟩ } rfl
      rfl (.created _) rfl
  refine ⟨storage, made, (answers _).trans ?_⟩
  cbv

end Storage

end CartridgeBank
