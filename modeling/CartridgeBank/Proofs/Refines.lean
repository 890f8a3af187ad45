import CartridgeBank.Proofs.Quiet
import CartridgeBank.Proofs.Reference

namespace CartridgeBank

/-- The file as a storage keeps it. -/
def ByteFile.stored (file : ByteFile) : OpenFile where
  name := file.name
  length := file.content.length
  position := file.position
  frames := file.frames

namespace Reference

variable {reference : Reference} {handle : Handle} {file : ByteFile}

theorem file?_eq_some_iff :
    reference.file? handle = some file ↔ reference.slots[handle.slot]? = some (some file) :=
  Option.join_eq_some_iff

theorem mem_slots (present : reference.file? handle = some file) : some file ∈ reference.slots :=
  List.mem_of_getElem? (file?_eq_some_iff.mp present)

theorem mem_files : (handle, file) ∈ reference.files ↔ reference.file? handle = some file := by
  rw [files, List.mem_filterMap]
  constructor
  · rintro ⟨slot, _, found⟩
    obtain ⟨other, present, same⟩ := Option.map_eq_some_iff.mp found
    cases same
    exact present
  · intro present
    have bound := (List.getElem?_eq_some_iff.mp (file?_eq_some_iff.mp present)).1
    exact ⟨handle.slot, List.mem_range.mpr bound, by rw [present]; rfl⟩

/-- A file of a changed reference is the new one, or has another handle. -/
theorem mem_set {replacement : Option ByteFile}
    (member : some file ∈ reference.slots.set handle.slot replacement) :
    replacement = some file ∨ ∃ other, other ≠ handle ∧ reference.file? other = some file := by
  obtain ⟨slot, found⟩ := List.mem_iff_getElem?.mp member
  rw [List.getElem?_set] at found
  split at found
  · split at found
    · exact Or.inl (Option.some.inj found)
    · cases found
  · rename_i different
    refine Or.inr ⟨⟨slot⟩, ?_, file?_eq_some_iff.mpr found⟩
    rintro rfl
    exact different rfl

variable {step : ByteFile → Except Fault Reply × Reference}

theorem onFile_off (off : reference.poweredOn = false) :
    reference.onFile handle step = (.error .notPoweredOn, reference) := by
  simp [onFile, off]

theorem onFile_absent (on : reference.poweredOn = true) (absent : reference.file? handle = none) :
    reference.onFile handle step = (.error (.invalidHandle handle), reference) := by
  simp [onFile, on, absent]

theorem onFile_present (on : reference.poweredOn = true)
    (present : reference.file? handle = some file) :
    reference.onFile handle step = step file := by
  simp [onFile, on, present]

end Reference

namespace Storage

variable {reference : Reference} {storage : Storage Device} {handle : Handle} {file : ByteFile}

/-- A storage keeps the files of a reference, and its device keeps their content. The device has the
requests answered. -/
structure Shows (reference : Reference) (storage : Storage Device) : Prop where
  config : storage.config = reference.config
  poweredOn : storage.poweredOn = reference.poweredOn
  slots : storage.files.slots = reference.slots.map (Option.map ByteFile.stored)
  cache : storage.cache.Rel FrameCache.Used reference.usage
  contents : ∀ file, some file ∈ reference.slots →
    file.frames.map storage.transport.content = blocks file.content reference.frameSize
  faults : storage.transport.faults = {}
  ready : reference.poweredOn = true → storage.transport.initialized = true

structure Refines (reference : Reference) (storage : Storage Device) : Prop where
  sound : storage.Sound
  coherent : Coherent (fun device => device) [] storage
  shows : Shows reference storage

namespace Refines

theorem power (refines : Refines reference storage) {on : Bool} (switched : storage.poweredOn = on) :
    reference.poweredOn = on :=
  refines.shows.poweredOn.symm.trans switched

theorem frameSize (refines : Refines reference storage) :
    storage.frameSize = reference.frameSize := by
  rw [Storage.frameSize, refines.shows.config]
  rfl

theorem get? (refines : Refines reference storage) (handle : Handle) :
    storage.files.get? handle = (reference.file? handle).map ByteFile.stored := by
  rw [Registry.get?, refines.shows.slots, List.getElem?_map, Reference.file?]
  cases reference.slots[handle.slot]? with
  | none => rfl
  | some slot => cases slot <;> rfl

theorem present (refines : Refines reference storage)
    (present : reference.file? handle = some file) :
    storage.files.get? handle = some file.stored := by
  rw [refines.get?, present]
  rfl

theorem laid (refines : Refines reference storage)
    (present : reference.file? handle = some file) :
    file.stored.Laid storage.config.geometry :=
  refines.sound.laid (refines.present present)

theorem infos (refines : Refines reference storage) :
    storage.files.infos = reference.openFiles := by
  rw [Registry.infos_eq, refines.shows.slots, List.length_map, Reference.openFiles,
    Reference.files, List.map_filterMap]
  congr 1
  funext slot
  rw [refines.get?, Option.map_map, Option.map_map]
  rfl

theorem lookup? (refines : Refines reference storage) (name : String) :
    storage.files.lookup? name = reference.lookup? name := by
  have indexed := refines.sound.books.indexed
  unfold Reference.lookup?
  cases found : reference.files.find? fun file => file.2.name == name with
  | some entry =>
    obtain ⟨handle, file⟩ := entry
    have present := Reference.mem_files.mp (List.mem_of_find?_eq_some found)
    have named : file.name = name := by simpa using List.find?_some found
    exact (indexed name handle).mpr ⟨file.stored, refines.present present, named⟩
  | none =>
    rw [Option.map_none, Option.eq_none_iff_forall_ne_some]
    intro handle listed
    obtain ⟨stored, held, named⟩ := (indexed name handle).mp listed
    rw [refines.get?] at held
    obtain ⟨file, present, rfl⟩ := Option.map_eq_some_iff.mp held
    have others := List.find?_eq_none.mp found (handle, file) (Reference.mem_files.mpr present)
    exact others (beq_iff_eq.mpr named)

theorem vacancy (refines : Refines reference storage) :
    storage.files.vacancy = reference.slots.findIdx Option.isNone := by
  rw [Registry.vacancy, refines.shows.slots, List.findIdx_map]
  congr 1
  funext slot
  exact Option.isNone_map

theorem used (refines : Refines reference storage) : storage.table.used = reference.used := by
  rw [refines.sound.books.used_eq_sum refines.sound.tableValid, refines.infos,
    Reference.openFiles, List.map_map, Reference.used]
  congr 1
  refine List.map_congr_left fun ⟨handle, file⟩ member => ?_
  have laid := refines.laid (Reference.mem_files.mp member)
  exact laid.count.trans (by rw [← refines.frameSize]; rfl)

theorem total (refines : Refines reference storage) :
    storage.table.total = reference.config.geometry.totalFrames := by
  rw [Ownership.total, refines.sound.shape, refines.shows.config]

theorem free (refines : Refines reference storage) : storage.table.free = reference.free := by
  have all := Ownership.free_add_used refines.sound.books.within
  rw [refines.used, refines.total] at all
  exact Nat.eq_sub_of_add_eq all

theorem stats (refines : Refines reference storage) : storage.stats = reference.stats := by
  have openCount : storage.files.openCount = reference.files.length := by
    rw [refines.sound.books.indexed.openCount, ← Registry.length_infos, refines.infos,
      Reference.openFiles, List.length_map]
  simp only [Storage.stats, Reference.stats, refines.shows.poweredOn, refines.total, refines.free,
    refines.used, openCount, cacheStats, FrameCache.Used.map_stats refines.shows.cache]

theorem quiet (refines : Refines reference storage) (on : reference.poweredOn = true) :
    storage.transport.Quiet :=
  ⟨refines.shows.faults, refines.shows.ready on⟩

theorem absent (refines : Refines reference storage) (absent : storage.files.get? handle = none) :
    reference.file? handle = none := by
  rw [refines.get?] at absent
  exact Option.map_eq_none_iff.mp absent

theorem held (refines : Refines reference storage) {stored : OpenFile}
    (present : storage.files.get? handle = some stored) :
    ∃ file, reference.file? handle = some file ∧ stored = file.stored := by
  rw [refines.get?] at present
  obtain ⟨file, found, same⟩ := Option.map_eq_some_iff.mp present
  exact ⟨file, found, same.symm⟩

end Refines

/-- A call returns what the reference returns, and leaves what the reference leaves. -/
structure Agrees (call : Call) (reference : Reference) (storage : Storage Device) : Prop where
  reply : (respond call storage).1 = (Reference.respond call reference).1
  shows : Shows (Reference.respond call reference).2 (respond call storage).2

theorem Agrees.of_eq {call : Call} {reply : Except Fault Reply} {next : Storage Device}
    {after : Reference} (run : respond call storage = (reply, next))
    (same : Reference.respond call reference = (reply, after)) (shows : Shows after next) :
    Agrees call reference storage := by
  refine ⟨?_, ?_⟩
  · rw [run, same]
  · rwa [run, same]

/-- One file is replaced, the others keep their content. -/
theorem Shows.updated {next : Storage Device} {replacement : Option ByteFile}
    {change : FrameCache → FrameCache} {changeUsage : Usage → Usage} (shows : Shows reference storage)
    (config : next.config = storage.config) (poweredOn : next.poweredOn = storage.poweredOn)
    (slots : next.files.slots =
      storage.files.slots.set handle.slot (replacement.map ByteFile.stored))
    (cache : next.cache = storage.cache.map change)
    (used : ∀ cache usage, cache.Used usage → (change cache).Used (changeUsage usage))
    (quiet : next.transport.Quiet)
    (own : ∀ file, replacement = some file →
      file.frames.map next.transport.content = blocks file.content reference.frameSize)
    (others : ∀ other file, other ≠ handle → reference.file? other = some file →
      file.frames.map next.transport.content = file.frames.map storage.transport.content) :
    Shows (reference.update handle replacement changeUsage) next where
  config := config.trans shows.config
  poweredOn := poweredOn.trans shows.poweredOn
  slots := by rw [slots, shows.slots, Reference.update, List.map_set]
  cache := by rw [cache]; exact FrameCache.Used.map shows.cache used
  contents file member := by
    rcases Reference.mem_set member with new | ⟨other, different, present⟩
    · exact own file new
    · exact (others other file different present).trans
        (shows.contents file (Reference.mem_slots present))
  faults := quiet.faults
  ready _ := quiet.ready

namespace Refines

theorem refused (refines : Refines reference storage) {call : Call} {fault : Fault}
    (run : perform call storage = .error fault storage)
    (same : Reference.respond call reference = (.error fault, reference)) :
    Agrees call reference storage :=
  .of_eq (respond_of_error run) same refines.shows

/-- The storage is off, or the handle names no file, or it names the same file to both. -/
theorem named (refines : Refines reference storage) (handle : Handle) :
    (storage.poweredOn = false ∧ reference.poweredOn = false) ∨
      storage.poweredOn = true ∧ reference.poweredOn = true ∧
        ((storage.files.get? handle = none ∧ reference.file? handle = none) ∨
          ∃ file : ByteFile, storage.files.get? handle = some file.stored ∧
            reference.file? handle = some file) := by
  cases on : storage.poweredOn with
  | false => exact Or.inl ⟨rfl, refines.power on⟩
  | true =>
    refine Or.inr ⟨rfl, refines.power on, ?_⟩
    cases present : reference.file? handle with
    | none =>
      refine Or.inl ⟨?_, rfl⟩
      rw [refines.get?, present]
      rfl
    | some file => exact Or.inr ⟨file, refines.present present, rfl⟩

end Refines

end Storage

end CartridgeBank
