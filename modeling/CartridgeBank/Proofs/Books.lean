import CartridgeBank.Proofs.Frame
import CartridgeBank.Proofs.Ownership
import CartridgeBank.Proofs.Registry

namespace CartridgeBank

/-- A file laid over a bank: its cursor lies within, its frames are as many as it needs, all of the
bank and in scan order. -/
structure OpenFile.Laid (file : OpenFile) (geometry : Geometry) : Prop where
  cursor : file.position ≤ file.length
  count : file.frames.length = framesFor file.length geometry.frameSize
  inside : ∀ location ∈ file.frames, geometry.contains location = true
  ordered : file.frames.Pairwise FrameLocation.Precedes

/-- The open files and the owners of frames tell the same: each file owns the frames it is laid
over, and no frame has an owner otherwise. -/
structure Books (files : Registry) (table : Ownership) : Prop where
  within : table.Within
  indexed : files.Indexed
  laid : ∀ handle file, files.get? handle = some file → file.Laid table.geometry
  owned : ∀ location handle, table.owner? location = some handle ↔
    ∃ file, files.get? handle = some file ∧ location ∈ file.frames

namespace Books

variable {files after : Registry} {table : Ownership} {handle : Handle} {file : OpenFile}
  {location : FrameLocation}

theorem cleared (table : Ownership) : Books {} table.reset := by
  obtain ⟨_, within, owners⟩ := @Ownership.reset_spec table
  refine ⟨within, Registry.indexed_empty, fun handle file present => ?_, fun location handle => ?_⟩
  · rw [Registry.get?_empty] at present
    cases present
  · rw [owners]
    simp [Registry.get?_empty]

theorem owner_eq (books : Books files table) (present : files.get? handle = some file)
    (member : location ∈ file.frames) : table.owner? location = some handle :=
  (books.owned location handle).mpr ⟨file, present, member⟩

theorem opened {name : String} (books : Books files table)
    (run : files.insert name = .ok (handle, after)) : Books after table := by
  obtain ⟨_, _, _, vacant, present, _⟩ := Registry.insert_ok run
  refine ⟨books.within, books.indexed.insert run, fun other old found => ?_, fun location other => ?_⟩
  · rw [present] at found
    split at found
    · cases found
      exact ⟨Nat.le_refl _, by simp, by simp, List.Pairwise.nil⟩
    · exact books.laid other old found
  · rw [books.owned, present]
    by_cases same : other = handle
    · subst same
      simp [vacant]
    · rw [if_neg same]

theorem closed (books : Books files table) (run : files.erase handle = .ok (file, after)) :
    Books after (table.releaseAll handle).2 := by
  obtain ⟨_, present, _⟩ := Registry.erase_ok run
  obtain ⟨shape, within, owners⟩ := @Ownership.releaseAll_spec table handle
  refine ⟨within books.within, books.indexed.erase run, fun other old found => ?_,
    fun location other => ?_⟩
  · rw [present] at found
    split at found
    · cases found
    · rw [shape]
      exact books.laid other old found
  · rw [owners, present, Option.filter_eq_some_iff, books.owned]
    by_cases same : other = handle
    · simp [same]
    · simp [same]

/-- A file may be replaced by one that is laid over the bank, if its frames change hands. -/
theorem replaced {old : OpenFile} {next : Ownership} (books : Books files table)
    (present : files.get? handle = some old) (sameName : file.name = old.name)
    (laid : file.Laid table.geometry) (shape : next.geometry = table.geometry)
    (within : next.Within)
    (owners : ∀ location, next.owner? location =
      if location ∈ file.frames then some handle
      else if location ∈ old.frames then none else table.owner? location)
    (fresh : ∀ location ∈ file.frames, location ∈ old.frames ∨ table.owner? location = none) :
    Books (files.update handle file) next := by
  refine ⟨within, books.indexed.update present sameName, fun other found => ?_,
    fun location other => ?_⟩
  · rw [Registry.get?_update present, shape]
    intro same
    split at same
    · cases same
      exact laid
    · exact books.laid other found same
  · rw [owners, Registry.get?_update present]
    by_cases same : other = handle
    · subst same
      rw [if_pos rfl]
      by_cases new : location ∈ file.frames
      · simp [new]
      · have lost : location ∉ old.frames → table.owner? location ≠ some other := by
          intro gone owned
          obtain ⟨owner, found, member⟩ := (books.owned location other).mp owned
          obtain rfl := Option.some.inj (present.symm.trans found)
          exact gone member
        by_cases before : location ∈ old.frames <;> simp [new, before, lost]
    · rw [if_neg same, ← books.owned]
      by_cases new : location ∈ file.frames
      · have foreign : table.owner? location ≠ some other := by
          intro owned
          rcases fresh location new with mine | unowned
          · rw [books.owner_eq present mine] at owned
            exact same (Option.some.inj owned).symm
          · rw [unowned] at owned
            cases owned
        simp [new, foreign, Ne.symm same]
      · by_cases before : location ∈ old.frames
        · simp [new, before, books.owner_eq present before, Ne.symm same]
        · simp [new, before]

/-- Moving the cursor within a file changes no frame. -/
theorem moved (books : Books files table) (present : files.get? handle = some file) {offset : Nat}
    (bound : offset ≤ file.length) :
    Books (files.update handle { file with position := offset }) table := by
  have laid := books.laid handle file present
  refine books.replaced present rfl ⟨bound, laid.count, laid.inside, laid.ordered⟩ rfl books.within
    (fun location => ?_) fun location member => Or.inl member
  by_cases mine : location ∈ file.frames
  · simp [mine, books.owner_eq present mine]
  · simp [mine]

/-- Once a file has given up its frames, those of no other file have no owner. -/
theorem unowned_iff (books : Books files table) (present : files.get? handle = some file) :
    (table.releaseEach file.frames).owner? location = none ↔
      ∀ other second, files.get? other = some second → location ∈ second.frames →
        other = handle := by
  rw [(Ownership.releaseEach_spec file.frames).2.2]
  constructor
  · intro unowned other second found inside
    have owner := books.owner_eq found inside
    rw [owner] at unowned
    split at unowned
    · rename_i mine
      exact Option.some.inj (owner.symm.trans (books.owner_eq present mine))
    · cases unowned
  · intro apart
    split
    · rfl
    · rename_i notMine
      refine Option.eq_none_iff_forall_ne_some.mpr fun owner isOwner => ?_
      obtain ⟨second, found, inside⟩ := (books.owned location owner).mp isOwner
      obtain rfl := apart owner second found inside
      obtain rfl := Option.some.inj (present.symm.trans found)
      exact notMine inside

theorem mem_infos {info : FileInfo} :
    info ∈ files.infos ↔ ∃ file, files.get? info.handle = some file ∧ info = file.info info.handle := by
  rw [Registry.infos, List.mem_filterMap]
  constructor
  · rintro ⟨handle, member, answer⟩
    obtain ⟨file, present⟩ := Registry.mem_handles.mp member
    rw [Registry.info_of_get? present] at answer
    obtain rfl := Option.some.inj answer
    exact ⟨file, present, rfl⟩
  · rintro ⟨file, present, same⟩
    refine ⟨info.handle, Registry.mem_handles.mpr ⟨file, present⟩, ?_⟩
    rw [Registry.info_of_get? present, same]
    rfl

theorem infos_pairwise : files.infos.Pairwise fun a b => a.handle ≠ b.handle := by
  refine List.pairwise_filterMap.mpr (Registry.handles_nodup.imp_of_mem ?_)
  intro a b memberA memberB different infoA foundA infoB foundB
  obtain ⟨fileA, presentA⟩ := Registry.mem_handles.mp memberA
  obtain ⟨fileB, presentB⟩ := Registry.mem_handles.mp memberB
  rw [Registry.info_of_get? presentA] at foundA
  rw [Registry.info_of_get? presentB] at foundB
  obtain rfl := Option.some.inj foundA
  obtain rfl := Option.some.inj foundB
  exact different

/-- No frame belongs to two files, nor twice to one. -/
theorem frames_nodup (books : Books files table) : (files.infos.flatMap (·.frames)).Nodup := by
  refine List.pairwise_flatMap.mpr ⟨fun info member => ?_, infos_pairwise.imp_of_mem ?_⟩
  · obtain ⟨file, present, same⟩ := mem_infos.mp member
    rw [same]
    exact (books.laid _ file present).ordered.imp FrameLocation.Precedes.ne
  · intro a b memberA memberB different location inA other inB same
    subst same
    obtain ⟨fileA, presentA, sameA⟩ := mem_infos.mp memberA
    obtain ⟨fileB, presentB, sameB⟩ := mem_infos.mp memberB
    rw [sameA] at inA
    rw [sameB] at inB
    have ownerA := books.owner_eq presentA inA
    have ownerB := books.owner_eq presentB inB
    exact different (Option.some.inj (ownerA.symm.trans ownerB))

theorem mem_frames_iff (books : Books files table) :
    location ∈ files.infos.flatMap (·.frames) ↔ (table.owner? location).isSome = true := by
  rw [List.mem_flatMap, Option.isSome_iff_exists]
  constructor
  · rintro ⟨info, member, inside⟩
    obtain ⟨file, present, same⟩ := mem_infos.mp member
    rw [same] at inside
    exact ⟨_, books.owner_eq present inside⟩
  · rintro ⟨handle, owned⟩
    obtain ⟨file, present, inside⟩ := (books.owned location handle).mp owned
    exact ⟨file.info handle, mem_infos.mpr ⟨file, present, rfl⟩, inside⟩

/-- The owned frames are those of the open files, counted one by one. -/
theorem used_eq_sum (books : Books files table) (valid : table.geometry.Valid) :
    table.used = (files.infos.map (·.frames.length)).sum := by
  have same : (table.geometry.locations.filter
      fun location => (table.owner? location).isSome).Perm (files.infos.flatMap (·.frames)) := by
    refine (List.perm_ext_iff_of_nodup (valid.locations_nodup.filter _) books.frames_nodup).mpr ?_
    intro location
    rw [books.mem_frames_iff, List.mem_filter, valid.mem_locations]
    constructor
    · exact fun both => both.2
    · intro owned
      obtain ⟨handle, owner⟩ := Option.isSome_iff_exists.mp owned
      exact ⟨Ownership.contains_of_owner? owner, owned⟩
  rw [Ownership.used_eq valid books.within, same.length_eq, List.length_flatMap]

end Books

end CartridgeBank
