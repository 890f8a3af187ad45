import CartridgeBank.Registry
import Mathlib

namespace CartridgeBank

/-- What is told about a file under its handle. -/
def OpenFile.info (file : OpenFile) (handle : Handle) : FileInfo where
  handle
  name := file.name
  length := file.length
  position := file.position
  frames := file.frames

namespace Registry

/-- The names in use are those of the open files, each with the handle of its file. -/
def Indexed (registry : Registry) : Prop :=
  ∀ name handle, registry.lookup? name = some handle ↔
    ∃ file, registry.get? handle = some file ∧ file.name = name

variable {registry after : Registry} {handle other : Handle} {name : String} {file : OpenFile}

theorem get?_eq_some_iff :
    registry.get? handle = some file ↔ registry.slots[handle.slot]? = some (some file) :=
  Option.join_eq_some_iff

theorem get?_empty : ({} : Registry).get? handle = none := by
  rcases handle with ⟨_ | slot⟩
  · rfl
  · rfl

theorem get_eq_ok_iff : registry.get handle = .ok file ↔ registry.get? handle = some file := by
  unfold get
  cases registry.get? handle <;> simp

theorem get_of_get? (present : registry.get? handle = some file) : registry.get handle = .ok file :=
  get_eq_ok_iff.mpr present

theorem get_error (absent : registry.get? handle = none) :
    registry.get handle = .error (.invalidHandle handle) := by
  simp [get, absent]

theorem info_of_get? (present : registry.get? handle = some file) :
    registry.info handle = .ok (file.info handle) := by
  simp only [info, get_of_get? present]
  rfl

theorem info_error (absent : registry.get? handle = none) :
    registry.info handle = .error (.invalidHandle handle) := by
  simp only [info, get_error absent]
  rfl

theorem vacancy_le : registry.vacancy ≤ registry.slots.length := List.findIdx_le_length

theorem get?_vacancy : registry.get? ⟨registry.vacancy⟩ = none := by
  unfold get?
  by_cases within : registry.vacancy < registry.slots.length
  · have empty : registry.slots[registry.vacancy].isNone = true := List.findIdx_getElem
    rw [List.getElem?_eq_getElem within, Option.isNone_iff_eq_none.mp empty]
    rfl
  · rw [List.getElem?_eq_none (Nat.le_of_not_lt within)]
    rfl

theorem getElem?_place {slots : List (Option OpenFile)} {slot i : Nat} (bound : slot ≤ slots.length) :
    (place slots slot file)[i]? = if slot = i then some (some file) else slots[i]? := by
  unfold place
  split
  · rename_i within
    rw [List.getElem?_set]
    split <;> rfl
  · rename_i beyond
    obtain rfl : slot = slots.length := by omega
    split
    · rename_i same
      subst same
      simp
    · rename_i different
      rw [List.getElem?_append]
      split
      · rfl
      · rw [List.getElem?_eq_none (by simp only [List.length_singleton]; omega),
          List.getElem?_eq_none (by omega)]

theorem place_eq {slots : List (Option OpenFile)} {slot : Nat} (bound : slot ≤ slots.length) :
    place slots slot file = slots.take slot ++ some file :: slots.drop (slot + 1) := by
  unfold place
  split
  · rename_i within
    exact List.set_eq_take_append_cons_drop.trans (if_pos within)
  · rename_i beyond
    obtain rfl : slot = slots.length := by omega
    rw [List.take_length, List.drop_of_length_le (Nat.le_succ _)]

theorem insert_eq (name : String) : registry.insert name =
    if name = "" then .error .emptyName
    else if (registry.lookup? name).isSome then .error (.duplicateFile name)
    else .ok (⟨registry.vacancy⟩, {
      slots := place registry.slots registry.vacancy { name }
      names := registry.names.insert name ⟨registry.vacancy⟩ }) := by
  unfold insert lookup?
  rw [Std.ExtTreeMap.contains_eq_isSome_getElem?]

/-- What it takes to open a file, and what that changes. -/
theorem insert_ok (opened : registry.insert name = .ok (handle, after)) :
    name ≠ "" ∧ registry.lookup? name = none ∧ handle = ⟨registry.vacancy⟩ ∧
      registry.get? handle = none ∧
      (∀ other, after.get? other = if other = handle then some { name } else registry.get? other) ∧
      ∀ word, after.lookup? word = if word = name then some handle else registry.lookup? word := by
  unfold insert at opened
  split at opened
  · cases opened
  · rename_i named
    split at opened
    · cases opened
    · rename_i unused
      obtain ⟨rfl, rfl⟩ := Prod.mk.inj (Except.ok.inj opened)
      refine ⟨named, ?_, rfl, get?_vacancy, fun other => ?_, fun word => ?_⟩
      · simpa [lookup?, ← Std.ExtTreeMap.contains_eq_isSome_getElem?] using unused
      · simp only [get?, getElem?_place vacancy_le]
        by_cases same : other = ⟨registry.vacancy⟩
        · subst same
          simp
        · rw [if_neg same, if_neg]
          intro slot
          exact same (by rw [slot])
      · simp only [lookup?, Std.ExtTreeMap.getElem?_insert, Std.LawfulEqCmp.compare_eq_iff_eq,
          @eq_comm _ word]

theorem erase_ok (closed : registry.erase handle = .ok (file, after)) :
    registry.get? handle = some file ∧
      (∀ other, after.get? other = if other = handle then none else registry.get? other) ∧
      ∀ word, after.lookup? word = if word = file.name then none else registry.lookup? word := by
  unfold erase at closed
  split at closed
  · cases closed
  · rename_i old present
    obtain ⟨rfl, rfl⟩ := Prod.mk.inj (Except.ok.inj closed)
    refine ⟨present, fun other => ?_, fun word => ?_⟩
    · simp only [get?, List.getElem?_set]
      by_cases same : other = handle
      · subst same
        rw [if_pos rfl, if_pos rfl]
        split <;> rfl
      · rw [if_neg same, if_neg]
        intro slot
        exact same (by cases other; cases handle; simp_all)
    · simp only [lookup?, Std.ExtTreeMap.getElem?_erase, Std.LawfulEqCmp.compare_eq_iff_eq,
        @eq_comm _ word]

theorem erase_of_get? (present : registry.get? handle = some file) :
    ∃ after, registry.erase handle = .ok (file, after) ∧
      after.slots = registry.slots.set handle.slot none := by
  rw [erase, present]
  exact ⟨_, rfl, rfl⟩

theorem erase_error (absent : registry.get? handle = none) :
    registry.erase handle = .error (.invalidHandle handle) := by
  simp only [erase, absent]

theorem get?_update {old : OpenFile} (present : registry.get? handle = some old) :
    (registry.update handle file).get? other =
      if other = handle then some file else registry.get? other := by
  have bound := (List.getElem?_eq_some_iff.mp (get?_eq_some_iff.mp present)).1
  simp only [get?, update, List.getElem?_set]
  by_cases same : other = handle
  · subst same
    rw [if_pos rfl, if_pos bound, if_pos rfl]
    rfl
  · rw [if_neg same, if_neg]
    intro slot
    exact same (by cases other; cases handle; simp_all)

theorem indexed_empty : ({} : Registry).Indexed := by
  intro name handle
  have unused : ({} : Registry).lookup? name = none := Std.ExtTreeMap.getElem?_empty
  simp [unused, get?_empty]

theorem Indexed.insert (indexed : registry.Indexed)
    (opened : registry.insert name = .ok (handle, after)) : after.Indexed := by
  obtain ⟨_, unused, _, vacant, files, names⟩ := insert_ok opened
  intro word other
  rw [names, files]
  by_cases same : other = handle
  · subst same
    by_cases sameName : word = name
    · subst sameName
      simp
    · rw [if_neg sameName, if_pos rfl, indexed]
      simp [vacant, Ne.symm sameName]
  · rw [if_neg same]
    by_cases sameName : word = name
    · subst sameName
      rw [if_pos rfl, ← indexed, unused]
      simp [Ne.symm same]
    · rw [if_neg sameName, indexed]

theorem Indexed.erase (indexed : registry.Indexed)
    (closed : registry.erase handle = .ok (file, after)) : after.Indexed := by
  obtain ⟨present, files, names⟩ := erase_ok closed
  have listed := (indexed file.name handle).mpr ⟨file, present, rfl⟩
  intro word other
  rw [names, files]
  by_cases same : other = handle
  · subst same
    rw [if_pos rfl]
    by_cases sameName : word = file.name
    · simp [sameName]
    · rw [if_neg sameName, indexed]
      simp [present, Ne.symm sameName]
  · rw [if_neg same]
    by_cases sameName : word = file.name
    · subst sameName
      rw [if_pos rfl, ← indexed, listed]
      simp [Ne.symm same]
    · rw [if_neg sameName, indexed]

theorem Indexed.update {old : OpenFile} (indexed : registry.Indexed)
    (present : registry.get? handle = some old) (sameName : file.name = old.name) :
    (registry.update handle file).Indexed := by
  intro word other
  rw [get?_update present]
  by_cases same : other = handle
  · subst same
    change registry.lookup? word = some other ↔ _
    rw [indexed, if_pos rfl, present]
    simp [sameName]
  · rw [if_neg same]
    exact indexed word other

theorem mem_handles : handle ∈ registry.handles ↔ ∃ file, registry.get? handle = some file := by
  rw [handles, List.mem_map, ← Option.isSome_iff_exists]
  constructor
  · rintro ⟨slot, member, rfl⟩
    exact (List.mem_filter.mp member).2
  · intro present
    obtain ⟨file, found⟩ := Option.isSome_iff_exists.mp present
    have bound := (List.getElem?_eq_some_iff.mp (get?_eq_some_iff.mp found)).1
    exact ⟨handle.slot, List.mem_filter.mpr ⟨List.mem_range.mpr bound, present⟩, rfl⟩

/-- All open files are told slot by slot. -/
theorem infos_eq : registry.infos = (List.range registry.slots.length).filterMap fun slot =>
    (registry.get? ⟨slot⟩).map fun file => file.info ⟨slot⟩ := by
  rw [infos, handles, List.filterMap_map, List.filterMap_filter]
  congr 1
  funext slot
  cases present : registry.get? ⟨slot⟩ with
  | none => simp
  | some file => simp [info_of_get? present, Except.toOption]

theorem length_infos : registry.infos.length = registry.handles.length := by
  rw [infos_eq, handles, List.length_map, List.length_filterMap_eq_countP,
    List.countP_eq_length_filter]
  simp only [Option.isSome_map]

theorem handles_nodup : registry.handles.Nodup := by
  refine List.pairwise_map.mpr ((List.nodup_range.filter _).imp ?_)
  intro i j different same
  exact different (Handle.mk.inj same)

/-- There are as many names as open files. -/
theorem Indexed.openCount (indexed : registry.Indexed) :
    registry.openCount = registry.handles.length := by
  have byName : (registry.names.toList.map Prod.snd).Perm registry.handles := by
    refine (List.perm_ext_iff_of_nodup ?_ handles_nodup).mpr fun handle => ?_
    · refine List.pairwise_map.mpr (Std.ExtTreeMap.distinct_keys_toList.imp_of_mem ?_)
      rintro ⟨a, first⟩ ⟨b, second⟩ memberA memberB different same
      obtain rfl : first = second := same
      obtain ⟨fileA, foundA, rfl⟩ :=
        (indexed a first).mp (Std.ExtTreeMap.mem_toList_iff_getElem?_eq_some.mp memberA)
      obtain ⟨fileB, foundB, rfl⟩ :=
        (indexed b first).mp (Std.ExtTreeMap.mem_toList_iff_getElem?_eq_some.mp memberB)
      obtain rfl := Option.some.inj (foundA.symm.trans foundB)
      exact different Std.ReflCmp.compare_self
    · rw [mem_handles, List.mem_map]
      constructor
      · rintro ⟨⟨word, owner⟩, member, rfl⟩
        obtain ⟨file, found, _⟩ :=
          (indexed word owner).mp (Std.ExtTreeMap.mem_toList_iff_getElem?_eq_some.mp member)
        exact ⟨file, found⟩
      · rintro ⟨file, found⟩
        exact ⟨(file.name, handle), Std.ExtTreeMap.mem_toList_iff_getElem?_eq_some.mpr
          ((indexed file.name handle).mpr ⟨file, found, rfl⟩), rfl⟩
  rw [Registry.openCount, ← Std.ExtTreeMap.length_toList, ← byName.length_eq, List.length_map]

end Registry

end CartridgeBank
