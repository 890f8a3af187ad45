import CartridgeBank.Proofs.Session
import CartridgeBank.Proofs.Soundness

namespace CartridgeBank

namespace Storage

/-- What the storage knows of the device between calls. -/
structure Settled (storage : Storage (Recorded Unreliable)) : Prop where
  inStep : InStep Recorded.device storage
  ready : storage.poweredOn = true → storage.transport.device.initialized = true

/-- What a call that sends these requests leaves. -/
structure Performed (turns : List (Turn (Recorded Unreliable)))
    (before after : Storage (Recorded Unreliable)) : Prop where
  works : Works turns before after
  settled : after.Settled

theorem Stretch.performed {turns : List (Turn (Recorded Unreliable))}
    {before after : Storage (Recorded Unreliable)} (stretch : Stretch turns before after) :
    Performed turns before after :=
  ⟨stretch.works, stretch.session.inStep, fun _ => stretch.session.ready⟩

namespace Settled

variable {storage : Storage (Recorded Unreliable)}

theorem session (settled : storage.Settled) (on : storage.poweredOn = true) : storage.InSession :=
  ⟨settled.inStep, settled.ready on⟩

/-- Calls that send no request. -/
theorem silent (settled : storage.Settled) : Performed [] storage storage :=
  ⟨.none rfl rfl, settled⟩

theorem quiet (settled : storage.Settled) {cacheFrames : Nat} {endpoint : Endpoint}
    {cache : Option FrameCache} {table : Ownership} {files : Registry} :
    Performed [] storage {
      config := { geometry := storage.config.geometry, cacheFrames, endpoint }
      transport := storage.transport
      active := storage.active
      poweredOn := storage.poweredOn
      cache, table, files } :=
  ⟨.none rfl rfl, settled.inStep.framed, settled.ready⟩

/-- A device that is initialized has not been told to refuse that. -/
theorem initializing (inStep : InStep Recorded.device storage) (idle : storage.active = none) :
    Works (initializeTurns storage) storage (initializeDevice.after storage) ∧
      ∀ next, initializeDevice storage = .ok () next →
        next.transport.device.initialized = true := by
  have sound : Turn.Sound ⟨.start, storage⟩ := Errand.sound_of_due inStep (absurd rfl) idle
  have works := Errand.run_works sound
  obtain ⟨shape, whole⟩ := execute_shape relays .initms 0 0 none inStep
  have ran := initializeDevice_eachAfter storage
  have sends : (Errand.start.run : Operation (Recorded Unreliable) Answer) =
    execute .initms 0 0 none := rfl
  unfold initializeTurns
  rw [sends] at works ⊢
  cases sent : execute .initms 0 0 none storage with
  | error fault next =>
    rw [Operation.after_of_error sent] at works
    rw [sent] at ran
    rw [ran]
    refine ⟨works, fun last success => ?_⟩
    rw [initializeDevice_eq, sent] at success
    cases success
  | ok answer next =>
    rw [Operation.after_of_ok sent] at works shape whole
    rw [sent] at ran
    rw [ran]
    obtain ⟨success, transport, rfl, execution⟩ := execute_relayed relays sent
    have session : InSession { storage with transport } :=
      ⟨⟨shape, whole, fun cartridge known => by cases idle.symm.trans known⟩,
        execution.ready_of_initms success⟩
    have zeroed := session.zeroAll (List.range storage.config.geometry.cartridges)
      fun cartridge => List.mem_range.mp
    refine ⟨works.trans zeroed.works, fun last success => ?_⟩
    rw [← Operation.after_of_ok success, ran]
    exact zeroed.session.ready

theorem powerOn (settled : storage.Settled) :
    Performed (powerOnTurns storage) storage (powerOn.after storage) := by
  unfold powerOnTurns Operation.after
  rw [powerOn_eq]
  by_cases on : storage.poweredOn = true
  · rw [if_pos on, if_pos on]
    exact settled.silent
  · rw [if_neg on, if_neg on]
    cases FrameCache.ofCapacity storage.config.cacheFrames with
    | error fault => exact settled.silent
    | ok cache =>
      have cleared : InStep Recorded.device { storage.cleared with cache := some cache } :=
        settled.inStep.cleared
      obtain ⟨works, ready⟩ := initializing cleared rfl
      have inStep := initializeDevice_inStep relays cleared rfl
      obtain ⟨transport, active, same⟩ :=
        @initializeDevice_after _ _ { storage.cleared with cache := some cache }
      dsimp only
      rw [same] at works inStep
      cases run : initializeDevice { storage.cleared with cache := some cache } with
      | error fault next =>
        rw [Operation.after_of_error run] at same
        subst same
        exact ⟨works.congr rfl rfl rfl rfl, ⟨inStep.shape, inStep.whole, nofun⟩,
          fun still => absurd still on⟩
      | ok done next =>
        have awake := ready next run
        rw [Operation.after_of_ok run] at same
        subst same
        exact ⟨works.congr rfl rfl rfl rfl, inStep.framed, fun _ => awake⟩

theorem powerOff (settled : storage.Settled) :
    Performed (powerOffTurns storage) storage (powerOff.after storage) := by
  unfold powerOffTurns Operation.after
  rw [powerOff_eq]
  by_cases on : storage.poweredOn = true
  · rw [if_pos on, if_pos on]
    have cleared : InStep Recorded.device { storage.cleared with poweredOn := false } :=
      settled.inStep.cleared
    have sound : Turn.Sound ⟨.finish, { storage.cleared with poweredOn := false }⟩ :=
      Errand.sound_of_due cleared (fun _ => settled.ready on) rfl
    have works := Errand.run_works sound
    obtain ⟨shape, whole⟩ := execute_shape relays .powoff 0 0 none cleared
    have sends : (Errand.finish.run : Operation (Recorded Unreliable) Answer) =
      execute .powoff 0 0 none := rfl
    rw [sends] at works
    cases sent : execute .powoff 0 0 none { storage.cleared with poweredOn := false } with
    | error fault next =>
      rw [Operation.after_of_error sent] at works shape whole
      obtain ⟨transport, rfl⟩ := execute_error sent
      exact ⟨works.congr rfl rfl rfl rfl, ⟨shape, whole, nofun⟩, nofun⟩
    | ok answer next =>
      rw [Operation.after_of_ok sent] at works shape whole
      obtain ⟨transport, rfl⟩ := execute_ok sent
      exact ⟨works.congr rfl rfl rfl rfl, ⟨shape, whole, nofun⟩, nofun⟩
  · rw [if_neg on, if_neg on]
    exact settled.silent

variable {handle : Handle}

/-- The frames of a file are read one after the other. -/
theorem readFrames {locations : List FrameLocation} (session : storage.InSession)
    (inside : ∀ location ∈ locations, storage.config.geometry.contains location = true) :
    Stretch (eachTurns fetchTurns readFrame locations storage) storage
      ((Storage.readFrames locations).after storage) := by
  rw [readFrames_eachAfter]
  exact session.each (fun location member storage session shape =>
    session.fetch (shape ▸ inside location member)) rfl

/-- A read that finds something to read fetches the frames that it covers. -/
theorem readTurns_eq {file : OpenFile} {wanted : Nat} (on : storage.poweredOn = true)
    (present : storage.files.get? handle = some file) (some : 0 < wanted)
    (more : file.position < file.length) :
    readTurns handle wanted storage = eachTurns fetchTurns readFrame
      (covering file storage.frameSize (readable file wanted)) storage := by
  unfold readTurns
  rw [present]
  refine if_neg ?_
  simp only [on, Bool.true_eq_false, false_or]
  omega

theorem readTurns_nil {wanted : Nat}
    (nothing : ∀ file, storage.files.get? handle = some file →
      storage.poweredOn = false ∨ wanted = 0 ∨ file.length ≤ file.position) :
    readTurns handle wanted storage = [] := by
  unfold readTurns
  cases present : storage.files.get? handle with
  | none => rfl
  | some file => exact if_pos (nothing file present)

theorem read (settled : storage.Settled) (sound : storage.Sound) (handle : Handle) (wanted : Nat) :
    Performed (readTurns handle wanted storage) storage ((read handle wanted).after storage) := by
  have fetching {file : OpenFile} (on : storage.poweredOn = true)
      (present : storage.files.get? handle = some file) :=
    @readFrames storage (covering file storage.frameSize (readable file wanted))
      (settled.session on) fun location member =>
        (sound.laid present).inside location (Sound.covering_subset member)
  have ending := read_run handle wanted storage
  unfold Operation.after
  generalize Storage.read handle wanted storage = result at ending
  cases ending with
  | off off =>
    rw [readTurns_nil fun _ _ => Or.inl off]
    exact settled.silent
  | invalid on absent =>
    rw [readTurns_nil fun file present => by cases absent.symm.trans present]
    exact settled.silent
  | nothing on present none =>
    rw [readTurns_nil fun _ _ => Or.inr (Or.inl none)]
    exact settled.silent
  | atEnd on present some ended =>
    rw [readTurns_nil fun other found => by
      cases present.symm.trans found
      exact Or.inr (Or.inr ended)]
    exact settled.silent
  | unread on present some more run =>
    have stretch := fetching on present
    rw [Operation.after_of_error run] at stretch
    rw [readTurns_eq on present some more]
    exact stretch.performed
  | done on present some more run =>
    have stretch := fetching on present
    rw [Operation.after_of_ok run] at stretch
    rw [readTurns_eq on present some more]
    exact Stretch.performed (stretch.congr ⟨rfl, rfl, rfl⟩ ⟨rfl, rfl, rfl⟩)

theorem readToEnd (settled : storage.Settled) (sound : storage.Sound) (handle : Handle) :
    Performed (readToEndTurns handle storage) storage ((readToEnd handle).after storage) := by
  have reading := settled.read sound handle
  unfold Operation.after at reading ⊢
  rw [readToEnd_eq]
  unfold readToEndTurns
  cases present : storage.files.get? handle with
  | none =>
    by_cases on : storage.poweredOn = true
    · rw [if_pos on]
      exact settled.silent
    · rw [if_neg on]
      exact settled.silent
  | some file =>
    dsimp only
    by_cases on : storage.poweredOn = true
    · rw [if_pos on]
      by_cases atEnd : file.length - file.position = 0
      · rw [if_pos atEnd, readTurns_nil fun _ _ => Or.inr (Or.inl atEnd)]
        exact settled.silent
      · rw [if_neg atEnd]
        exact reading _
    · rw [if_neg on, readTurns_nil fun _ _ => Or.inl (Bool.eq_false_iff.mpr on)]
      exact settled.silent

theorem writeTurns_eq {data : Bytes} {file : OpenFile} (starts : storage.Starts handle data file) :
    writeTurns handle data storage = rewriteTurns handle file data storage := by
  unfold writeTurns
  rw [starts.present]
  refine if_neg ?_
  simp only [starts.on, Bool.true_eq_false, starts.nonempty, false_or, not_and, Nat.not_lt]
  exact starts.room

theorem writeTurns_nil {data : Bytes}
    (nothing : ∀ file, storage.files.get? handle = some file → storage.poweredOn = false ∨
      data = [] ∨ file.length < file.position + data.length ∧
        storage.table.free < framesFor (file.length + data.length) storage.frameSize) :
    writeTurns handle data storage = [] := by
  unfold writeTurns
  cases present : storage.files.get? handle with
  | none => rfl
  | some file => exact if_pos (nothing file present)

/-- New content goes to locations of the bank, in whole frames. -/
theorem placeContent (session : storage.InSession) (valid : storage.table.geometry.Valid)
    (shape : storage.table.geometry = storage.config.geometry) {content : Bytes}
    {targets claimed : List FrameLocation} {result : Except Fault Unit}
    {next : Storage (Recorded Unreliable)}
    (placed : Storage.placeContent handle content storage = .ok (targets, claimed, result) next) :
    Stretch (placeTurns handle content storage) storage next := by
  obtain ⟨rfl, ⟨few, rfl, rfl, rfl⟩ | ⟨enough, stored⟩⟩ := placeContent_ok placed
  · unfold placeTurns
    dsimp only
    rw [if_pos few]
    exact .none session ⟨rfl, rfl, rfl⟩
  · unfold placeTurns
    dsimp only
    rw [if_neg (Nat.not_lt.mpr enough)]
    have ended := store_eachAfter handle ((storage.table.firstFree
      (framesFor content.length storage.frameSize)).zip (blocks content storage.frameSize)) storage
    rw [stored] at ended
    change next = _ at ended
    rw [ended]
    refine session.each (fun piece member storage session shape' => ?_) rfl
    obtain ⟨target, block⟩ := List.of_mem_zip member
    refine session.place ?_ ?_
    · rw [shape', ← shape]
      exact (Ownership.mem_firstFree valid target).1
    · rw [length_of_mem_blocks block, frameSize, frameSize, shape']

theorem write (settled : storage.Settled) (sound : storage.Sound) (handle : Handle)
    (data : Bytes) :
    Performed (writeTurns handle data storage) storage ((write handle data).after storage) := by
  have fetching {file : OpenFile} (starts : storage.Starts handle data file) :=
    readFrames (settled.session starts.on) (sound.laid starts.present).inside
  -- what placing the content sends, whichever way it ends
  have placing {file : OpenFile} {frames : List Bytes} {middle next : Storage (Recorded Unreliable)}
      {targets claimed : List FrameLocation} {result : Except Fault Unit}
      (starts : storage.Starts handle data file)
      (run : Storage.readFrames file.frames storage = .ok frames middle)
      (placed : Storage.placeContent handle (file.contentAfter frames data)
        { middle with table := middle.table.releaseEach file.frames } =
          .ok (targets, claimed, result) next) :
      Stretch (writeTurns handle data storage) storage next := by
    have stretch := fetching starts
    rw [Operation.after_of_ok run] at stretch
    obtain ⟨transport, active, cache, same⟩ := @readFrames_after _ storage _ file.frames
    rw [Operation.after_of_ok run] at same
    obtain ⟨shape, _, _⟩ := @Ownership.releaseEach_spec storage.table file.frames
    rw [writeTurns_eq starts]
    unfold rewriteTurns
    rw [run]
    subst same
    refine stretch.trans (Stretch.congr (placeContent ?_ ?_ ?_ placed) ⟨rfl, rfl, rfl⟩
      ⟨rfl, rfl, rfl⟩)
    · exact stretch.session.framed
    · exact shape.symm ▸ sound.tableValid
    · exact shape.trans sound.shape
  have ending := sound.write_run handle data
  unfold Operation.after
  generalize Storage.write handle data storage = result at ending
  cases ending with
  | off off =>
    rw [writeTurns_nil fun _ _ => Or.inl off]
    exact settled.silent
  | invalid on absent =>
    rw [writeTurns_nil fun file present => by cases absent.symm.trans present]
    exact settled.silent
  | nothing on present empty =>
    rw [writeTurns_nil fun _ _ => Or.inr (Or.inl empty)]
    exact settled.silent
  | full on present nonempty grows few =>
    rw [writeTurns_nil fun other found => by
      cases present.symm.trans found
      exact Or.inr (Or.inr ⟨grows, few⟩)]
    exact settled.silent
  | unread starts run =>
    have stretch := fetching starts
    rw [Operation.after_of_error run] at stretch
    rw [writeTurns_eq starts]
    unfold rewriteTurns
    rw [run, List.append_nil]
    exact stretch.performed
  | unstored starts run placed =>
    exact Stretch.performed ((placing starts run placed).congr ⟨rfl, rfl, rfl⟩ ⟨rfl, rfl, rfl⟩)
  | stored starts run placed =>
    exact Stretch.performed ((placing starts run placed).congr ⟨rfl, rfl, rfl⟩ ⟨rfl, rfl, rfl⟩)

theorem respond (settled : storage.Settled) (sound : storage.Sound) (call : Call) :
    Performed (turns call storage) storage (respond call storage).2 := by
  have discarding {α : Type} {turns : List (Turn (Recorded Unreliable))}
      (operation : Operation (Recorded Unreliable) α) (function : α → Reply)
      (performed : Performed turns storage (operation.after storage)) :
      Performed turns storage
        ((do return function (← operation) : Operation _ Reply).after storage) := by
    rwa [Operation.after_bind_pure]
  rw [respond_snd]
  cases call with
  | powerOn => exact discarding _ _ settled.powerOn
  | powerOff => exact discarding _ _ settled.powerOff
  | openFile name =>
    refine discarding _ _ ?_
    obtain ⟨files, same⟩ := @openFile_after _ storage name
    rw [same]
    exact settled.quiet
  | closeFile handle =>
    refine discarding _ _ ?_
    obtain ⟨files, table, locations, same⟩ := @closeFile_after _ storage handle
    rw [same]
    exact settled.quiet
  | read handle wanted => exact discarding _ _ (settled.read sound handle wanted)
  | readToEnd handle => exact discarding _ _ (settled.readToEnd sound handle)
  | write handle data => exact discarding _ _ (settled.write sound handle data)
  | seek handle offset =>
    refine discarding _ _ ?_
    obtain ⟨files, same⟩ := @seek_after _ storage handle offset
    rw [same]
    exact settled.quiet
  | info handle =>
    refine discarding _ _ ?_
    rw [info_after]
    exact settled.silent
  | lookup name => exact settled.silent
  | openFiles => exact settled.silent
  | stats => exact settled.silent
  | setCacheFrames frames =>
    refine discarding _ _ ?_
    rcases @setCacheFrames_after _ storage frames with same | ⟨_, same⟩
    · rw [same]
      exact settled.silent
    · rw [same]
      exact settled.quiet

end Settled

end Storage

end CartridgeBank
