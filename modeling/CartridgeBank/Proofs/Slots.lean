import CartridgeBank.Proofs.Registry

namespace CartridgeBank

/-- A change of the open files. -/
inductive RegistryCall where
  | insert (name : String)
  | erase (handle : Handle)
  | reset
deriving DecidableEq, Repr

/-- What a change of the open files returns. -/
inductive RegistryReply where
  | handle (opened : Handle)
  | file (closed : OpenFile)
  | done
deriving DecidableEq, Repr

namespace Registry

def respond (call : RegistryCall) (registry : Registry) : Except Fault RegistryReply × Registry :=
  match call with
  | .insert name =>
    match registry.insert name with
    | .ok (handle, next) => (.ok (.handle handle), next)
    | .error fault => (.error fault, registry)
  | .erase handle =>
    match registry.erase handle with
    | .ok (file, next) => (.ok (.file file), next)
    | .error fault => (.error fault, registry)
  | .reset => (.ok .done, {})

/-- Makes calls one after the other, whether they succeed or not. -/
def respondAll : List RegistryCall → Registry → List (Except Fault RegistryReply) × Registry
  | [], registry => ([], registry)
  | call :: rest, registry =>
    let (reply, next) := respond call registry
    let (replies, last) := respondAll rest next
    (reply :: replies, last)

/-- So many files were open after one of the calls since the last reset, or right after the reset. -/
def OpenSinceReset (calls : List RegistryCall) (count : Nat) : Prop :=
  ∃ before since, before ++ since = calls ∧ RegistryCall.reset ∉ since ∧
    (respondAll before {}).2.openCount = count

variable {registry after : Registry} {handle other : Handle} {name : String} {file : OpenFile}

theorem respondAll_concat (calls : List RegistryCall) (call : RegistryCall) (registry : Registry) :
    (respondAll (calls ++ [call]) registry).2 = (respond call (respondAll calls registry).2).2 := by
  induction calls generalizing registry with
  | nil => rfl
  | cons first rest ih => exact ih _

/-- A call fails and changes nothing, or opens a file, closes one or closes all. -/
theorem respond_cases (call : RegistryCall) (registry : Registry) :
    (respond call registry).2 = registry ∨
      (∃ name handle, registry.insert name = .ok (handle, (respond call registry).2)) ∨
      (∃ handle file, registry.erase handle = .ok (file, (respond call registry).2)) ∨
      call = .reset ∧ (respond call registry).2 = {} := by
  cases call with
  | insert name =>
    simp only [respond]
    split
    · rename_i handle next opened
      exact Or.inr (Or.inl ⟨name, handle, opened⟩)
    · exact Or.inl rfl
  | erase handle =>
    simp only [respond]
    split
    · rename_i file next closed
      exact Or.inr (Or.inr (Or.inl ⟨handle, file, closed⟩))
    · exact Or.inl rfl
  | reset => exact Or.inr (Or.inr (Or.inr ⟨rfl, rfl⟩))

theorem respond_error {call : RegistryCall} {fault : Fault}
    (failed : (respond call registry).1 = .error fault) : (respond call registry).2 = registry := by
  cases call with
  | insert name =>
    simp only [respond] at failed ⊢
    split
    · rename_i handle next opened
      rw [opened] at failed
      cases failed
    · rfl
  | erase handle =>
    simp only [respond] at failed ⊢
    split
    · rename_i file next closed
      rw [closed] at failed
      cases failed
    · rfl
  | reset => cases failed

/-- Every open file has a name. -/
def Named (registry : Registry) : Prop :=
  ∀ handle file, registry.get? handle = some file → file.name ≠ ""

theorem named_empty : ({} : Registry).Named := by
  intro handle file present
  cases get?_empty.symm.trans present

theorem Named.respond (named : registry.Named) (call : RegistryCall) :
    (respond call registry).2.Named := by
  intro other file present
  obtain same | ⟨name, handle, opened⟩ | ⟨handle, old, closed⟩ | ⟨-, reset⟩ :=
    respond_cases call registry
  · exact named other file (same ▸ present)
  · obtain ⟨nonempty, _, _, _, files, _⟩ := insert_ok opened
    rw [files] at present
    split at present
    · obtain rfl := Option.some.inj present
      exact nonempty
    · exact named other file present
  · obtain ⟨_, files, _⟩ := erase_ok closed
    rw [files] at present
    split at present
    · cases present
    · exact named other file present
  · exact named_empty other file (reset ▸ present)

theorem Indexed.respond (indexed : registry.Indexed) (call : RegistryCall) :
    (respond call registry).2.Indexed := by
  obtain same | ⟨name, handle, opened⟩ | ⟨handle, old, closed⟩ | ⟨-, reset⟩ :=
    respond_cases call registry
  · exact same.symm ▸ indexed
  · exact indexed.insert opened
  · exact indexed.erase closed
  · exact reset.symm ▸ indexed_empty

theorem respondAll_kept (calls : List RegistryCall) :
    (respondAll calls {}).2.Indexed ∧ (respondAll calls {}).2.Named := by
  induction calls using List.reverseRecOn with
  | nil => exact ⟨indexed_empty, named_empty⟩
  | append_singleton calls call ih =>
    rw [respondAll_concat]
    exact ⟨ih.1.respond call, ih.2.respond call⟩

/-- No two open files have one name. -/
theorem Indexed.eq_of_name (indexed : registry.Indexed) {twin : OpenFile}
    (present : registry.get? handle = some file) (also : registry.get? other = some twin)
    (same : twin.name = file.name) : other = handle :=
  Option.some.inj (((indexed _ _).mpr ⟨twin, also, same⟩).symm.trans
    ((indexed _ _).mpr ⟨file, present, rfl⟩))

/-- A name is unknown if no open file has it. -/
theorem Indexed.lookup?_eq_none (indexed : registry.Indexed) : registry.lookup? name = none ↔
    ∀ handle file, registry.get? handle = some file → file.name ≠ name := by
  rw [Option.eq_none_iff_forall_ne_some]
  constructor
  · intro unknown handle file present same
    exact unknown handle ((indexed name handle).mpr ⟨file, present, same⟩)
  · intro unused handle listed
    obtain ⟨file, present, same⟩ := (indexed name handle).mp listed
    exact unused handle file present same

theorem handles_rising :
    registry.handles.Pairwise fun earlier later => earlier.slot < later.slot :=
  List.pairwise_map.mpr (List.pairwise_lt_range.filter _)

theorem vacancy_le_of_get? (vacant : registry.get? other = none) : registry.vacancy ≤ other.slot := by
  refine Nat.le_of_not_lt fun below => ?_
  have occupied := List.not_of_lt_findIdx below
  rw [get?, List.getElem?_eq_getElem (below.trans_le vacancy_le)] at vacant
  cases occupied.symm.trans (Option.isNone_iff_eq_none.mpr vacant)

/-- A file is opened unless its name is empty or in use. -/
theorem Indexed.insert_iff (indexed : registry.Indexed) :
    (∃ handle next, registry.insert name = .ok (handle, next)) ↔
      name ≠ "" ∧ ∀ handle file, registry.get? handle = some file → file.name ≠ name := by
  rw [← indexed.lookup?_eq_none]
  constructor
  · rintro ⟨handle, next, opened⟩
    obtain ⟨nonempty, unused, _⟩ := insert_ok opened
    exact ⟨nonempty, unused⟩
  · rintro ⟨nonempty, unused⟩
    rw [insert_eq, if_neg nonempty, unused, if_neg nofun]
    exact ⟨_, _, rfl⟩

theorem erase_iff : (∃ file next, registry.erase handle = .ok (file, next)) ↔
    ∃ file, registry.get? handle = some file := by
  constructor
  · rintro ⟨file, next, closed⟩
    exact ⟨file, (erase_ok closed).1⟩
  · rintro ⟨file, present⟩
    obtain ⟨next, closed, _⟩ := erase_of_get? present
    exact ⟨file, next, closed⟩

/-- As many handles are in use as slots are taken. -/
theorem length_handles : registry.handles.length = registry.slots.countP Option.isSome := by
  have taken : (List.range registry.slots.length).filter
      (fun slot => (registry.get? ⟨slot⟩).isSome) =
        (List.range registry.slots.length).filter fun slot => (registry.slots[slot]?.join).isSome :=
    rfl
  rw [handles, List.length_map, taken, ← List.countP_eq_length_filter]
  induction registry.slots using List.reverseRecOn with
  | nil => rfl
  | append_singleton slots slot ih =>
    have before : ∀ i ∈ List.range slots.length,
        ((slots ++ [slot])[i]?.join).isSome = true ↔ (slots[i]?.join).isSome = true := by
      intro i member
      rw [List.getElem?_append_left (List.mem_range.mp member)]
    rw [List.length_append, List.length_singleton, List.range_succ, List.countP_append,
      List.countP_append, List.countP_congr before, ih, List.countP_singleton,
      List.getElem?_concat_length, List.countP_singleton]
    rfl

theorem Indexed.openCount_eq (indexed : registry.Indexed) :
    registry.openCount = registry.slots.countP Option.isSome :=
  indexed.openCount.trans length_handles

theorem Indexed.openCount_le (indexed : registry.Indexed) :
    registry.openCount ≤ registry.slotCount :=
  indexed.openCount_eq.trans_le List.countP_le_length

theorem slots_insert (opened : registry.insert name = .ok (handle, after)) :
    after.slots = place registry.slots registry.vacancy { name } := by
  rw [insert_eq] at opened
  split at opened
  · cases opened
  · split at opened
    · cases opened
    · exact congrArg slots (Prod.mk.inj (Except.ok.inj opened)).2.symm

theorem slotCount_erase (closed : registry.erase handle = .ok (file, after)) :
    after.slotCount = registry.slotCount := by
  obtain ⟨next, closed', slots⟩ := erase_of_get? (erase_ok closed).1
  obtain rfl := (Prod.mk.inj (Except.ok.inj (closed'.symm.trans closed))).2
  rw [slotCount, slotCount, slots, List.length_set]

/-- A new file takes a slot that was vacant, or one more if there is none. -/
theorem countP_place (slots : List (Option OpenFile)) (file : OpenFile) :
    let vacancy := slots.findIdx Option.isNone
    (place slots vacancy file).countP Option.isSome = slots.countP Option.isSome + 1 ∧
      (place slots vacancy file).length = max slots.length (slots.countP Option.isSome + 1) := by
  intro vacancy
  unfold place
  split
  · rename_i within
    have empty : slots[vacancy].isSome = false := by
      rw [Option.isSome_eq_false_iff]
      exact List.findIdx_getElem
    have another : (slots.set vacancy (some file)).countP Option.isSome =
        slots.countP Option.isSome + 1 := by
      rw [List.countP_set within, empty]
      rfl
    refine ⟨another, ?_⟩
    rw [List.length_set, ← another, ← List.length_set, max_eq_left List.countP_le_length]
  · rename_i beyond
    -- No slot is vacant, so there are as many files as slots.
    have taken : slots.countP Option.isSome = slots.length := by
      refine List.countP_eq_length.mpr fun slot member => ?_
      have occupied := List.findIdx_eq_length.mp
        (Nat.le_antisymm List.findIdx_le_length (Nat.le_of_not_lt beyond)) slot member
      exact Option.isNone_eq_false_iff.mp occupied
    rw [List.countP_append, taken, List.length_append]
    exact ⟨rfl, (max_eq_right (Nat.le_succ _)).symm⟩

/-- A slot is made only for a file that finds none vacant. -/
theorem Indexed.slotCount_respond (indexed : registry.Indexed) {call : RegistryCall}
    (kept : call ≠ .reset) : (Registry.respond call registry).2.slotCount =
      max registry.slotCount (Registry.respond call registry).2.openCount := by
  have later := indexed.respond call
  obtain same | ⟨name, handle, opened⟩ | ⟨handle, old, closed⟩ | ⟨reset, -⟩ :=
    respond_cases call registry
  · rw [same]
    exact (max_eq_left indexed.openCount_le).symm
  · obtain ⟨count, length⟩ := countP_place registry.slots { name }
    rw [later.openCount_eq, slotCount, slots_insert opened]
    exact length.trans (congrArg _ count.symm)
  · rw [← slotCount_erase closed]
    exact (max_eq_left later.openCount_le).symm
  · exact absurd reset kept

theorem openSinceReset_concat {calls : List RegistryCall} {call : RegistryCall} {count : Nat} :
    OpenSinceReset (calls ++ [call]) count ↔ (call ≠ .reset ∧ OpenSinceReset calls count) ∨
      (respondAll (calls ++ [call]) {}).2.openCount = count := by
  constructor
  · rintro ⟨before, since, whole, clear, counted⟩
    rcases List.eq_nil_or_concat' since with rfl | ⟨since, last, rfl⟩
    · rw [List.append_nil] at whole
      exact Or.inr (whole ▸ counted)
    · rw [← List.append_assoc] at whole
      obtain ⟨rfl, same⟩ := List.append_inj' whole rfl
      obtain rfl := List.singleton_inj.mp same
      rw [List.mem_append, List.mem_singleton, not_or] at clear
      exact Or.inl ⟨Ne.symm clear.2, before, since, rfl, clear.1, counted⟩
  · rintro (⟨kept, before, since, rfl, clear, counted⟩ | counted)
    · refine ⟨before, since ++ [call], (List.append_assoc _ _ _).symm, ?_, counted⟩
      rw [List.mem_append, List.mem_singleton, not_or]
      exact ⟨clear, Ne.symm kept⟩
    · exact ⟨_, [], List.append_nil _, List.not_mem_nil, counted⟩

/-- There are as many slots as files have been open at a time, but at least one. -/
theorem slotCount_eq_peak (calls : List RegistryCall) :
    ∃ most, IsGreatest {count | OpenSinceReset calls count} most ∧
      (respondAll calls {}).2.slotCount = max 1 most := by
  induction calls using List.reverseRecOn with
  | nil =>
    refine ⟨0, ⟨⟨[], [], rfl, List.not_mem_nil, rfl⟩, ?_⟩, rfl⟩
    rintro count ⟨before, since, whole, -, rfl⟩
    rw [(List.append_eq_nil_iff.mp whole).1]
    rfl
  | append_singleton calls call ih =>
    by_cases reset : call = .reset
    · have closed : (respondAll (calls ++ [call]) {}).2 = {} := by
        rw [respondAll_concat, reset]
        rfl
      refine ⟨0, ⟨openSinceReset_concat.mpr (Or.inr ?_), fun count counted => ?_⟩, ?_⟩
      · rw [closed]
        rfl
      · rcases openSinceReset_concat.mp counted with ⟨kept, -⟩ | rfl
        · exact absurd reset kept
        · rw [closed]
          exact Nat.le_refl 0
      · rw [closed]
        rfl
    · obtain ⟨most, ⟨attained, bound⟩, slots⟩ := ih
      have now := (respondAll_kept calls).1.slotCount_respond reset
      rw [← respondAll_concat, slots, max_assoc] at now
      refine ⟨_, ⟨?_, fun count counted => ?_⟩, now⟩
      · refine openSinceReset_concat.mpr ?_
        rcases max_choice most (respondAll (calls ++ [call]) {}).2.openCount with old | new
        · exact Or.inl ⟨reset, old.symm ▸ attained⟩
        · exact Or.inr new.symm
      · rcases openSinceReset_concat.mp counted with ⟨-, earlier⟩ | rfl
        · exact (bound earlier).trans (le_max_left _ _)
        · exact le_max_right _ _

/-- Whatever calls are made on the open files of a bank, names and slots tell of the same files. A file
is opened under the lowest handle that is not in use unless its name is empty or in use, and closed if
its handle is in use, which leaves the others alone. The slots are as many as there have been files
open at a time since the last reset, but at least one. -/
theorem names_and_slots (calls : List RegistryCall) :
    let registry := (respondAll calls {}).2
    (∀ name handle, registry.lookup? name = some handle ↔
        ∃ file, registry.get? handle = some file ∧ file.name = name) ∧
      (∀ handle file, registry.get? handle = some file → file.name ≠ "" ∧
        ∀ other twin, registry.get? other = some twin → twin.name = file.name → other = handle) ∧
      registry.openCount = registry.slots.countP Option.isSome ∧
      (registry.handles.Pairwise fun earlier later => earlier.slot < later.slot) ∧
      (∀ handle, handle ∈ registry.handles ↔ ∃ file, registry.get? handle = some file) ∧
      (∀ name, (∃ handle next, registry.insert name = .ok (handle, next)) ↔
        name ≠ "" ∧ ∀ handle file, registry.get? handle = some file → file.name ≠ name) ∧
      (∀ name handle next, registry.insert name = .ok (handle, next) →
        registry.get? handle = none ∧
        (∀ other, registry.get? other = none → handle.slot ≤ other.slot) ∧
        (∀ other, next.get? other =
          if other = handle then some { name } else registry.get? other)) ∧
      (∀ handle, (∃ file next, registry.erase handle = .ok (file, next)) ↔
        ∃ file, registry.get? handle = some file) ∧
      (∀ handle file next, registry.erase handle = .ok (file, next) →
        registry.get? handle = some file ∧ next.lookup? file.name = none ∧
        (∃ reopened last, next.insert file.name = .ok (reopened, last)) ∧
        (∀ other, next.get? other = if other = handle then none else registry.get? other)) ∧
      (∀ call fault, (respond call registry).1 = .error fault →
        (respond call registry).2 = registry) ∧
      ∃ most, IsGreatest {count | OpenSinceReset calls count} most ∧
        registry.slotCount = max 1 most := by
  obtain ⟨indexed, named⟩ := respondAll_kept calls
  intro registry
  refine ⟨indexed, fun handle file present => ⟨named handle file present, fun other twin also same =>
      indexed.eq_of_name present also same⟩, indexed.openCount_eq, handles_rising,
    fun handle => mem_handles, fun name => indexed.insert_iff, fun name handle next opened => ?_,
    fun handle => erase_iff, fun handle file next closed => ?_, fun call fault => respond_error,
    slotCount_eq_peak calls⟩
  · obtain ⟨_, _, rfl, vacant, files, _⟩ := insert_ok opened
    exact ⟨vacant, fun other => vacancy_le_of_get?, files⟩
  · obtain ⟨present, files, names⟩ := erase_ok closed
    have forgotten : next.lookup? file.name = none := (names file.name).trans (if_pos rfl)
    refine ⟨present, forgotten, ?_, files⟩
    exact (indexed.erase closed).insert_iff.mpr
      ⟨named handle file present, (indexed.erase closed).lookup?_eq_none.mp forgotten⟩

/-- A file opened when another is closed takes its slot, and the count of slots stays at the two that
were open together. -/
theorem names_and_slots_reused :
    let registry := (respondAll [.insert "a", .insert "b", .erase ⟨0⟩, .insert "c"] {}).2
    registry.insert "b" = .error (.duplicateFile "b") ∧
      registry.lookup? "c" = some ⟨0⟩ ∧ registry.slotCount = 2 ∧
      ∃ file, registry.get? ⟨0⟩ = some file ∧ file.name = "c" := by
  intro registry
  have listed : registry.lookup? "c" = some ⟨0⟩ := by decide
  exact ⟨by decide, listed, by decide, ((names_and_slots _).1 "c" ⟨0⟩).mp listed⟩

end Registry

end CartridgeBank
